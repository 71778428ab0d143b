import ResourceGraph.DataSource
import ResourceGraph.Proofs.CompliantPair

/-!
# Objects that are sent and objects that are listed

Whether a schema describes an object is asked where a body is sent (`Compliance.bodySchema`) and
where items are listed (`PathItem.listedItems`).  A body may leave its type out if it has
properties.  Items may not: what is listed must be declared as an object (`listedItems_eq_ok_iff`),
and items without a type are refused like those of another type (`listedItems_eq_error_iff`).

So the two agree on every schema with a type, and on every schema without properties, which both of
them refuse.  They differ exactly on properties without a type (`listing_agrees_iff`).
-/

namespace ResourceGraph

/-! ## Arrays that are answered -/

/-- Reading a path is answered with an array. -/
structure PathItem.AnswersArray (item : PathItem) (read : Operation) (schema : Schema) : Prop where
  reads : item.get = some read
  answers : ∃ response, read.responses.get? "200" = some response ∧ response.schema = some schema
  array : schema.type = some "array"

namespace Schema

/-- The items of an array are objects, in the sense in which a body is one, with properties. -/
def HasObjectItems (schema : Schema) : Prop :=
  ∃ items, schema.items = some items ∧ items.isObject = true ∧ items.properties ≠ []

/-- The items of an array have properties and no type. -/
def HasUntypedItems (schema : Schema) : Prop :=
  ∃ items, schema.items = some items ∧ items.type = none ∧ items.properties ≠ []

/-- Why the items of an array cannot be listed. -/
inductive ItemsFault (schema : Schema) : RejectionCause → Prop
  | missing (hnone : schema.items = none) : ItemsFault schema .invalidItems
  | undeclared {items : Schema} (hitems : schema.items = some items)
      (htype : items.type ≠ some "object") : ItemsFault schema .invalidItems
  | empty {items : Schema} (hitems : schema.items = some items)
      (htype : items.type = some "object") (hproperties : items.properties = []) :
      ItemsFault schema .emptyItems

end Schema

namespace PathItem

variable {item : PathItem} {read : Operation} {schema : Schema}

/-- Once an array is answered, only its items are looked at. -/
theorem AnswersArray.listedItems_eq (h : item.AnswersArray read schema) :
    item.listedItems = match schema.items with
      | none => .error .invalidItems
      | some items =>
        if items.type ≠ some "object" then .error .invalidItems
        else if items.properties = [] then .error .emptyItems
        else .ok (read, items) := by
  obtain ⟨response, hresponse, hschema⟩ := h.answers
  simp only [listedItems, h.reads, hresponse, hschema, h.array, bne_self_eq_false,
    Bool.false_eq_true, if_false]
  cases schema.items with
  | none => rfl
  | some items =>
      by_cases htype : items.type = some "object"
      · by_cases hproperties : items.properties = []
        · simp only [htype, hproperties, bne_self_eq_false, List.isEmpty_nil, ne_eq, not_true,
            if_true, if_false, Bool.false_eq_true]
          rfl
        · simp only [htype, hproperties, bne_self_eq_false, List.isEmpty_iff, ne_eq, not_true,
            if_false, Bool.false_eq_true]
          rfl
      · simp only [bne_iff_ne, ne_eq, htype, not_false_eq_true, if_true]
        rfl

/-- **What is listed** is declared as an object and has properties. -/
theorem AnswersArray.listedItems_eq_ok_iff (h : item.AnswersArray read schema)
    {listed : Operation × Schema} : item.listedItems = .ok listed ↔
      ∃ items, schema.items = some items ∧ items.type = some "object" ∧ items.properties ≠ [] ∧
        listed = (read, items) := by
  rw [h.listedItems_eq]
  cases schema.items with
  | none => simp
  | some items =>
      by_cases htype : items.type = some "object"
      · by_cases hproperties : items.properties = []
        · simp [htype, hproperties]
        · simp [htype, hproperties, eq_comm]
      · simp [htype]

theorem AnswersArray.listedItems_eq_error_iff (h : item.AnswersArray read schema)
    {cause : RejectionCause} : item.listedItems = .error cause ↔ schema.ItemsFault cause := by
  rw [h.listedItems_eq]
  constructor
  · intro herror
    split at herror
    · next hnone =>
        cases herror
        exact .missing hnone
    · next items hitems =>
        split at herror
        · next htype =>
            cases herror
            exact .undeclared hitems htype
        · next htype =>
            split at herror
            · next hproperties =>
                cases herror
                exact .empty hitems (not_not.mp htype) hproperties
            · cases herror
  · rintro (hnone | ⟨hitems, htype⟩ | ⟨hitems, htype, hproperties⟩)
    · simp [hnone]
    · simp [hitems, htype]
    · simp [hitems, htype, hproperties]

theorem AnswersArray.exists_listed_iff (h : item.AnswersArray read schema) :
    (∃ listed, item.listedItems = .ok listed) ↔
      ∃ items, schema.items = some items ∧ items.type = some "object" ∧
        items.properties ≠ [] := by
  simp only [h.listedItems_eq_ok_iff]
  constructor
  · rintro ⟨-, items, hitems, htype, hproperties, -⟩
    exact ⟨items, hitems, htype, hproperties⟩
  · rintro ⟨items, hitems, htype, hproperties⟩
    exact ⟨_, items, hitems, htype, hproperties, rfl⟩

/-- **Where objects that are sent and objects that are listed agree.**  Let reading a path be
answered with an array.  Its items are listed exactly if they are declared as an object with
properties, and the first thing that is wrong with them is reported otherwise.  So they are listed
exactly if they are an object, in the sense of a body, with properties, unless they have properties
and no type.  Items that are usable as a body are listed exactly if they have a type. -/
theorem listing_agrees_iff (h : item.AnswersArray read schema) :
    (∀ listed, item.listedItems = .ok listed ↔
      ∃ items, schema.items = some items ∧ items.type = some "object" ∧ items.properties ≠ [] ∧
        listed = (read, items)) ∧
    (∀ cause, item.listedItems = .error cause ↔ schema.ItemsFault cause) ∧
    (((∃ listed, item.listedItems = .ok listed) ↔ schema.HasObjectItems) ↔
      ¬ schema.HasUntypedItems) ∧
    ∀ items, schema.items = some items → Compliance.bodySchema (some items) = .ok items →
      (item.listedItems = .ok (read, items) ↔ items.type ≠ none) := by
  refine ⟨fun _ => h.listedItems_eq_ok_iff, fun _ => h.listedItems_eq_error_iff, ?_, ?_⟩
  · rw [h.exists_listed_iff]
    constructor
    · rintro hagree ⟨items, hitems, htype, hproperties⟩
      have hobject : items.isObject = true :=
        Schema.isObject_iff.mpr (Or.inr ⟨htype, hproperties⟩)
      obtain ⟨found, hfound, hdeclared, -⟩ := hagree.mpr ⟨items, hitems, hobject, hproperties⟩
      cases hitems.symm.trans hfound
      rw [htype] at hdeclared
      cases hdeclared
    · intro htyped
      refine exists_congr fun items => and_congr_right fun hitems =>
        and_congr_left fun hproperties => ?_
      rw [Schema.isObject_iff]
      exact ⟨Or.inl, fun hobject => hobject.resolve_right fun ⟨htype, _⟩ =>
        htyped ⟨items, hitems, htype, hproperties⟩⟩
  · intro items hitems hbody
    obtain ⟨-, -, hobject, hproperties⟩ := Compliance.bodySchema_eq_ok_iff.mp hbody
    rw [h.listedItems_eq_ok_iff]
    constructor
    · rintro ⟨found, hfound, htype, -⟩ hnone
      cases hitems.symm.trans hfound
      rw [hnone] at htype
      cases htype
    · exact fun htype => ⟨items, hitems, hobject.resolve_right fun ⟨hnone, _⟩ => htype hnone,
        hproperties, rfl⟩

end PathItem

/-! ## Items without a type -/

namespace Sample

/-- A parcel, which has an identifier and no type. -/
def parcel : Schema := { properties := [("id", { type := some "string" })] }

/-- Parcels, as they are answered. -/
def parcels : Schema := { type := some "array", items := some parcel }

/-- Reading the parcels. -/
def readParcels : Operation :=
  { responses := [("200", { status := "200", schema := some parcels })] }

/-- A path that lists the parcels. -/
def depot : PathItem := { get := some readParcels }

theorem depot_answersArray : depot.AnswersArray readParcels parcels :=
  ⟨rfl, ⟨_, rfl, rfl⟩, rfl⟩

/-- A parcel can be sent, but it is not listed: it has properties and no type. -/
theorem depot_listing_disagrees : Compliance.bodySchema (some parcel) = .ok parcel ∧
    depot.listedItems = .error .invalidItems ∧ depot.listedItems ≠ .ok (readParcels, parcel) ∧
    ¬ ((∃ listed, depot.listedItems = .ok listed) ↔ parcels.HasObjectItems) := by
  have hbody : Compliance.bodySchema (some parcel) = .ok parcel := rfl
  have huntyped : parcels.HasUntypedItems := ⟨parcel, rfl, rfl, by simp [parcel]⟩
  obtain ⟨-, hrefused, hagree, hsent⟩ := PathItem.listing_agrees_iff depot_answersArray
  refine ⟨hbody, (hrefused _).mpr (.undeclared rfl (by simp [parcel])), fun hlisted => ?_,
    fun hagrees => hagree.mp hagrees huntyped⟩
  exact (hsent parcel rfl hbody).mp hlisted rfl

/-- **Not every object that can be sent is listed.** -/
theorem exists_unlisted_object : ¬ ∀ (item : PathItem) (read : Operation) (schema : Schema),
    item.AnswersArray read schema →
      ((∃ listed, item.listedItems = .ok listed) ↔ schema.HasObjectItems) := by
  intro hall
  obtain ⟨listed, hlisted⟩ := (hall _ _ _ depot_answersArray).mpr
    ⟨parcel, rfl, rfl, by simp [parcel]⟩
  have hrefused : depot.listedItems = .error .invalidItems := rfl
  rw [hrefused] at hlisted
  cases hlisted

end Sample

end ResourceGraph
