import ResourceGraph.Document.Build
import ResourceGraph.Proofs.Order.Fields
import ResourceGraph.Proofs.Order.Tables
import ResourceGraph.Proofs.Reference.Expansion

/-!
# The order of mappings and schemas

What two values are built to that differ in nothing that is seen in a role.  Building succeeds on
both or on neither in every role; that the schemas are read alike is known in the role of a schema.
The induction follows the values: the properties and the items of a schema are schemas themselves.
-/

namespace ResourceGraph

open Value

variable {role : Role} {value value' : Value} {entries entries' : List (Scalar × Value)}

/-- Entries whose keys write names are a table of these names. -/
theorem textEntries_alike {α α' : Type} {related : α → α' → Prop} {entries : List (Scalar × α)}
    {entries' : List (Scalar × α')} (h : Arranged role (fun _ => related) entries entries')
    (hnamed : role.isNamed) :
    Table.Alike related (textEntries entries) (textEntries entries') := by
  have htable : ∀ {β : Type} (entries : List (Scalar × β)), textEntries entries =
      Table.ofList (entries.filterMap fun entry => entry.1.fieldText?.map (·, entry.2)) :=
    fun entries => rfl
  have hfilter : ∀ {β : Type} (name : String) (entries : List (Scalar × β)),
      ((entries.filterMap fun entry => entry.1.fieldText?.map (·, entry.2)).filter
        fun entry => entry.1 == name) =
          (entries.filter fun entry => entry.1.writes name).map fun entry => (name, entry.2) := by
    intro β name entries
    induction entries with
    | nil => rfl
    | cons entry rest ih =>
        rw [List.filterMap_cons, List.filter_cons, Scalar.writes]
        cases hkey : entry.1.fieldText? with
        | none => simpa [hkey] using ih
        | some other =>
            by_cases hname : other = name
            · simpa [hkey, hname] using ih
            · simpa [hkey, hname, List.filter_cons] using ih
  rw [htable, htable]
  refine Table.alike_ofList fun name => ?_
  rw [hfilter, hfilter, List.forall₂_map_left_iff, List.forall₂_map_right_iff]
  exact (h.forall₂_namesakes hnamed name).imp fun entry entry' hboth => hboth.2

/-! ## Mappings among the values -/

theorem entriesOf_agree (h : Aligned role value value') :
    Agree (AlignedEntries role) (Parameter.entriesOf value) (Parameter.entriesOf value') := by
  cases value with
  | map entries =>
      obtain ⟨entries', rfl, hentries⟩ := aligned_map_iff.mp h
      exact .ok hentries
  | list items =>
      obtain ⟨items', rfl, -⟩ := aligned_list_iff.mp h
      exact .error trivial
  | _ =>
      cases h
      exact .error trivial

/-- Building something from the mappings among the values, whatever it is. -/
theorem listOf_eq_mapM {β : Type}
    (build : Scalar → List (Scalar × Value) → Except DocumentFault β)
    {listOf : List (Scalar × Value) → Except DocumentFault (List β)} (hnil : listOf [] = .ok [])
    (hmap : ∀ key declared rest, listOf ((key, .map declared) :: rest) =
      do let first ← build key declared; return first :: (← listOf rest))
    (hother : ∀ key value rest, value.isMap = false →
      listOf ((key, value) :: rest) = listOf rest) (entries : List (Scalar × Value)) :
    listOf entries = (entries.filter fun entry => entry.2.isMap).mapM fun entry =>
      Parameter.entriesOf entry.2 >>= build entry.1 := by
  induction entries with
  | nil =>
      rw [hnil]
      rfl
  | cons entry rest ih =>
      obtain ⟨key, value⟩ := entry
      cases value with
      | map declared =>
          rw [hmap, List.filter_cons_of_pos rfl, List.mapM_cons, ih]
          rfl
      | _ =>
          rw [hother _ _ _ rfl, ih]
          rfl

/-! ## Schemas -/

namespace Schema

/-- Two schemas differ in nothing that the analysis reads. -/
inductive Alike : Schema → Schema → Prop
  | intro {schema schema' : Schema} (htype : schema.type = schema'.type)
      (hdescription : schema.description = schema'.description)
      (hrequired : schema.required = schema'.required)
      (hreadOnly : schema.readOnly = schema'.readOnly)
      (hreference : schema.reference = schema'.reference)
      (hextensions : Extensions.Alike schema.extensions schema'.extensions)
      (hhas : ∀ name, Table.has schema.properties name = Table.has schema'.properties name)
      (hproperties : ∀ name property property', Table.get? schema.properties name = some property →
        Table.get? schema'.properties name = some property' → Alike property property')
      (hisSome : schema.items.isSome = schema'.items.isSome)
      (hitems : ∀ items items', schema.items = some items → schema'.items = some items' →
        Alike items items') : Alike schema schema'

theorem typeOf_agree (h : AlignedEntries role entries entries') :
    Agree (fun type type' => role.under (.text "type") = .literal → type = type')
      (typeOf entries) (typeOf entries') := by
  refine .of_imp_eq ?_ fun hliteral => by rw [typeOf, typeOf, h.getOrNull_eq _ hliteral]
  have hvalue := h.getOrNull "type"
  unfold typeOf
  generalize Entries.getOrNull entries "type" = value at hvalue ⊢
  generalize Entries.getOrNull entries' "type" = value' at hvalue ⊢
  cases value with
  | list items =>
      obtain ⟨items', rfl, hitems⟩ := aligned_list_iff.mp hvalue
      have hfound : Option.Rel (Aligned (role.under (.text "type")).item)
          (items.find? fun item => item.asText? != some "null")
          (items'.find? fun item => item.asText? != some "null") :=
        rel_find? hitems fun item item' hitem => by rw [hitem.asText?_eq]
      simp only
      generalize items.find? _ = item at hfound ⊢
      generalize items'.find? _ = item' at hfound ⊢
      cases hfound with
      | none => exact .ok trivial
      | some hitem => exact (written_agree hitem).map fun _ _ _ => trivial
  | map entries =>
      obtain ⟨entries', rfl, -⟩ := aligned_map_iff.mp hvalue
      exact writtenOrNone_agree hvalue
  | scalar | set | pair =>
      have hkept := hvalue
      cases hkept
      exact writtenOrNone_agree hvalue

theorem requiredOf_agree (h : AlignedEntries role entries entries') :
    Agree (fun names names' => role.under (.text "required") = .literal → names = names')
      (requiredOf entries) (requiredOf entries') := by
  refine .of_imp_eq ?_ fun hliteral => by rw [requiredOf, requiredOf, h.getOrNull_eq _ hliteral]
  exact (itemsOrNone_agree (h.getOrNull "required")).bind fun _ _ _ => .ok trivial

theorem partsOf_eq (entries : List (Scalar × Value)) : partsOf entries =
    { properties := (Entries.get? entries "properties").elim (.ok []) propertiesOf
      items := (Entries.get? entries "items").elim (.ok none) itemSchemaOf } := by
  induction entries with
  | nil => rfl
  | cons entry rest ih =>
      obtain ⟨key, value⟩ := entry
      rw [partsOf, Entries.get?_cons, Entries.get?_cons, ih]
      by_cases hproperties : key = .text "properties"
      · subst hproperties
        simp
      · by_cases hitems : key = .text "items"
        · subst hitems
          simp
        · simp [hproperties, hitems]

/-- What the parts of two schemas are built to. -/
structure Parts.Alike (role : Role) (parts parts' : Parts) : Prop where
  properties : Agree
    (Arranged (role.under (.text "properties")) fun _ property property' =>
      role = .schema → Schema.Alike property property') parts.properties parts'.properties
  items : Agree (Option.Rel fun items items' => role = .schema → Schema.Alike items items')
    parts.items parts'.items

theorem assemble_agree {parts parts' : Parts} (h : AlignedEntries role entries entries')
    (hparts : parts.Alike role parts') :
    Agree (fun schema schema' => role = .schema → Alike schema schema') (assemble entries parts)
      (assemble entries' parts') := by
  have hdescription := h.getOrNull "description"
  have hreference := h.getOrNull "$ref"
  simp only [assemble]
  refine (typeOf_agree h).bind fun type type' htype => ?_
  refine hparts.properties.bind fun properties properties' hproperties => ?_
  refine (requiredOf_agree h).bind fun required required' hrequired => ?_
  refine hparts.items.bind fun items items' hitems => ?_
  refine (extensionsOf_agree h).bind fun extensions extensions' hextensions => ?_
  refine checked_agree ?_ ?_
  · simp only [Mismatch.isEmpty_append, Mismatch.isEmpty_ofField,
      Mismatch.isEmpty_keys_eq hproperties, Mismatch.ofOptionalText_eq hdescription,
      Mismatch.ofOptionalText_eq hreference]
  · -- what is read of the schema is known in its own role alone
    rintro rfl
    have hnames : Table.Alike Alike (textEntries properties) (textEntries properties') :=
      textEntries_alike (hproperties.imp fun _ _ _ halike => halike rfl) rfl
    refine .intro (htype rfl) hdescription.fieldText?_eq (hrequired rfl) ?_
      hreference.fieldText?_eq (hextensions rfl) hnames.has_eq ?_ ?_ ?_
    · rw [h.getOrNull_eq "readOnly" rfl]
    · intro name property property' hproperty hproperty'
      have hboth := hnames name
      rw [hproperty, hproperty'] at hboth
      cases hboth with
      | some halike => exact halike
    · cases hitems <;> rfl
    · rintro items items' rfl rfl
      cases hitems with
      | some halike => exact halike rfl

/-- What two values are built to as a schema, as properties and as the items of a list. -/
structure BuiltAlike (role : Role) (value value' : Value) : Prop where
  schema : Agree (fun schema schema' => role = .schema → Alike schema schema')
    (ofValue value) (ofValue value')
  properties : Agree (Arranged role fun _ property property' =>
    role = .properties → Alike property property') (propertiesOf value) (propertiesOf value')
  items : Agree (Option.Rel fun items items' => role = .schema → Alike items items')
    (itemSchemaOf value) (itemSchemaOf value')

theorem schemasOf_eq_mapM (entries : List (Scalar × Value)) :
    schemasOf entries = (entries.filter fun entry => entry.2.isMap).mapM fun entry =>
      do return (entry.1, ← ofValue entry.2) := by
  induction entries with
  | nil => rfl
  | cons entry rest ih =>
      rw [schemasOf, List.filter_cons]
      split
      · rw [List.mapM_cons, ih, bind_assoc]
        simp
      · exact ih

theorem partsOf_agree (h : Arranged role (fun key value value' =>
    Aligned (role.under key) value value' ∧ BuiltAlike (role.under key) value value')
      entries entries') : (partsOf entries).Alike role (partsOf entries') := by
  rw [partsOf_eq, partsOf_eq]
  constructor
  · have hrel := h.rel_get? "properties"
    generalize Entries.get? entries "properties" = value at hrel ⊢
    generalize Entries.get? entries' "properties" = value' at hrel ⊢
    cases hrel with
    | none => exact .ok (.nil ..)
    | some hboth =>
        refine hboth.2.properties.imp fun _ _ hproperties => hproperties.imp ?_
        rintro _ _ _ halike rfl
        exact halike rfl
  · have hrel := h.rel_get? "items"
    generalize Entries.get? entries "items" = value at hrel ⊢
    generalize Entries.get? entries' "items" = value' at hrel ⊢
    cases hrel with
    | none => exact .ok .none
    | some hboth =>
        refine hboth.2.items.imp fun _ _ hitems => ?_
        cases hitems with
        | none => exact .none
        | some halike =>
            refine .some ?_
            rintro rfl
            exact halike rfl

/-- **Values that differ in nothing that is seen are built alike.** -/
theorem builtAlike (h : Aligned role value value') : BuiltAlike role value value' := by
  -- the properties and the items of a schema are parts of its value, in roles of their own
  induction value using Value.induction generalizing role value' with
  | scalar | set | pair =>
      have hempty := h.isEmpty_eq
      have hkept := h
      cases hkept
      all_goals
        refine ⟨.error trivial, ?_, .ok .none⟩
        simp only [propertiesOf, hempty]
        split
        · exact .ok (.nil ..)
        · exact .error trivial
  | list items ih =>
      have hempty := h.isEmpty_eq
      obtain ⟨items', rfl, hitems⟩ := aligned_list_iff.mp h
      -- a list declares no schema, but the schema of items may be the first of several
      refine ⟨.error trivial, ?_, ?_⟩
      · simp only [propertiesOf, hempty]
        split
        · exact .ok (.nil ..)
        · exact .error trivial
      · cases hitems with
        | nil => exact .ok .none
        | @cons first first' rest rest' hfirst hrest =>
            rw [itemSchemaOf, itemSchemaOf, hfirst.isMap_eq]
            split
            · refine (ih first (List.mem_cons_self ..) hfirst).schema.bind ?_
              intro schema schema' halike
              refine .ok (.some ?_)
              rintro rfl
              exact halike rfl
            · exact .ok .none
  | map entries ih =>
      obtain ⟨entries', rfl, hentries⟩ := aligned_map_iff.mp h
      have hboth := hentries.and_of_mem (fun key => BuiltAlike (role.under key))
        fun entry hentry value' hvalue => ih entry hentry hvalue
      have hschema := assemble_agree hentries (partsOf_agree hboth)
      refine ⟨hschema, ?_, ?_⟩
      · rw [propertiesOf, propertiesOf, schemasOf_eq_mapM, schemasOf_eq_mapM]
        refine (hboth.filter fun _ _ _ hvalue => hvalue.1.isMap_eq).mapM
          fun key value value' hvalue => hvalue.2.schema.imp ?_
        rintro schema schema' halike rfl
        exact halike rfl
      · rw [itemSchemaOf, itemSchemaOf]
        exact hschema.bind fun schema schema' halike => .ok (.some halike)

theorem under_agree (h : AlignedEntries role entries entries') (key : String) :
    Agree (Option.Rel fun schema schema' =>
      role.under (.text key) = .schema → Alike schema schema')
      (under entries key) (under entries' key) := by
  have hvalue := h.getOrNull key
  simp only [under, hvalue.isMap_eq]
  split
  · exact (builtAlike hvalue).schema.bind fun schema schema' halike => .ok (.some halike)
  · exact .ok .none

end Schema

end ResourceGraph
