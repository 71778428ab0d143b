import ResourceGraph.Compliance
import ResourceGraph.Proofs.Order.Document
import ResourceGraph.Proofs.PayloadProperties

/-!
# The order of mappings and payloads

Schemas that are read alike have the same descriptions of their properties, which are gone through
by name at every depth, and are usable as a payload alike, for the same reason if they are not.
-/

namespace ResourceGraph

/-! ## Properties of a payload -/

namespace Schema

variable {schema schema' : Schema}

namespace Alike

theorem type_eq (h : Alike schema schema') : schema.type = schema'.type := by
  cases h with
  | intro htype => exact htype

theorem reference_eq (h : Alike schema schema') : schema.reference = schema'.reference := by
  cases h with
  | intro _ _ _ _ hreference => exact hreference

theorem readOnly_eq (h : Alike schema schema') : schema.readOnly = schema'.readOnly := by
  cases h with
  | intro _ _ _ hreadOnly => exact hreadOnly

theorem extensions (h : Alike schema schema') :
    Extensions.Alike schema.extensions schema'.extensions := by
  cases h with
  | intro _ _ _ _ _ hextensions => exact hextensions

theorem properties (h : Alike schema schema') :
    Table.Alike Alike schema.properties schema'.properties := by
  cases h with
  | intro _ _ _ _ _ _ hhas hproperties =>
      intro name
      have hsome := hhas name
      rw [Table.has, Table.has] at hsome
      have hvalues := hproperties name
      generalize Table.get? schema.properties name = property at hsome hvalues ⊢
      generalize Table.get? schema'.properties name = property' at hsome hvalues ⊢
      cases property <;> cases property' <;> simp at hsome
      · exact .none
      · exact .some (hvalues _ _ rfl rfl)

theorem items (h : Alike schema schema') : Option.Rel Alike schema.items schema'.items := by
  cases h with
  | intro _ _ _ _ _ _ _ _ hsome hitems =>
      generalize schema.items = items at hsome hitems ⊢
      generalize schema'.items = items' at hsome hitems ⊢
      cases items <;> cases items' <;> simp at hsome
      · exact .none
      · exact .some (hitems _ _ rfl rfl)

theorem isObject_eq (h : Alike schema schema') : schema.isObject = schema'.isObject := by
  rw [isObject, isObject, h.type_eq, h.properties.isEmpty_eq]

theorem presentedType_eq (h : Alike schema schema') :
    schema.presentedType = schema'.presentedType := by
  rw [presentedType, presentedType, h.type_eq, h.properties.isEmpty_eq]

theorem presentedItemsType?_eq (h : Alike schema schema') :
    schema.presentedItemsType? = schema'.presentedItemsType? := by
  have hitems := h.items
  rw [presentedItemsType?, presentedItemsType?]
  generalize schema.items = items at hitems ⊢
  generalize schema'.items = items' at hitems ⊢
  cases hitems with
  | none => rfl
  | some halike => simp only [Option.map_some, halike.type_eq]

theorem describe_eq (h : Alike schema schema') (name : String) (required : Bool)
    (nested : List PropertyDescriptor) :
    describe name required schema nested = describe name required schema' nested := by
  have hdescription : schema.description = schema'.description := by
    cases h with
    | intro _ hdescription => exact hdescription
  simp only [describe, h.presentedType_eq, hdescription, h.readOnly_eq, h.extensions.isSet_eq,
    h.extensions.text?_eq, h.presentedItemsType?_eq]

end Alike

/-- **The properties of a payload are described alike.** -/
theorem Alike.described (h : Alike schema schema') :
    schema.describedProperties = schema'.describedProperties ∧
      schema.nestedProperties = schema'.nestedProperties := by
  induction h with
  | @intro schema schema' htype hdescription hrequired hreadOnly hreference hextensions hhas
      hproperties hsome hitems ihproperties ihitems =>
      have halike := Alike.intro htype hdescription hrequired hreadOnly hreference hextensions hhas
        hproperties hsome hitems
      have hdescribed : schema.describedProperties = schema'.describedProperties := by
        -- the descriptions are a table too, and tables that are read alike are sorted alike
        have hentries : Table.Alike (· = ·) (describedEntries schema.required schema.properties)
            (describedEntries schema'.required schema'.properties) := by
          intro name
          have hproperty := halike.properties name
          have hnested := ihproperties name
          rw [get?_describedEntries, get?_describedEntries, hrequired]
          generalize Table.get? schema.properties name = property at hproperty hnested ⊢
          generalize Table.get? schema'.properties name = property' at hproperty hnested ⊢
          cases hproperty with
          | none => exact .none
          | some hboth =>
              refine .some ?_
              simp only [hboth.describe_eq, (hnested _ _ rfl rfl).2]
        rw [describedProperties_eq, describedProperties_eq]
        exact map_eq_of_forall₂ hentries.sorted_forall₂ fun _ _ hboth => hboth.2
      refine ⟨hdescribed, ?_⟩
      have hrel := halike.items
      rw [nestedProperties_eq, nestedProperties_eq, htype, hdescribed]
      generalize schema.items = items at hrel ihitems ⊢
      generalize schema'.items = items' at hrel ihitems ⊢
      cases hrel with
      | none => rfl
      | some => simp only [(ihitems _ _ rfl rfl).1]

theorem Alike.payloadProperties_eq (h : Alike schema schema') (identifier : Option String) :
    schema.payloadProperties identifier = schema'.payloadProperties identifier := by
  rw [payloadProperties, payloadProperties, h.described.1]

end Schema

/-! ## Compliance -/

namespace Compliance

variable {schema schema' : Schema}

theorem identifierOf_eq (h : Schema.Alike schema schema') :
    identifierOf schema = identifierOf schema' := by
  have hflagged : flaggedNames schema = flaggedNames schema' :=
    h.properties.namesWhere_eq fun _ _ halike => halike.extensions.isSet_eq _
  rw [identifierOf, identifierOf, hflagged, h.properties.has_eq]

theorem writableNames_eq (h : Schema.Alike schema schema') :
    writableNames schema = writableNames schema' :=
  h.properties.namesWhere_eq fun _ _ halike => by rw [halike.readOnly_eq]

theorem bodySchema_matches {schema schema' : Option Schema}
    (h : Option.Rel Schema.Alike schema schema') :
    Matches (· = ·) Schema.Alike (bodySchema schema) (bodySchema schema') := by
  cases h with
  | none => exact .error rfl
  | @some schema schema' halike =>
      simp only [bodySchema, halike.reference_eq, halike.isObject_eq, halike.type_eq,
        halike.properties.isEmpty_eq]
      cases schema'.reference with
      | some reference => exact .error rfl
      | none =>
          simp only
          split
          · exact .error rfl
          · split
            · exact .error rfl
            · exact .ok halike

theorem responseSchema_matches {response response' : Option Response}
    (h : Option.Rel Response.Alike response response') :
    Matches (· = ·) Schema.Alike (responseSchema response) (responseSchema response') := by
  cases h with
  | none => exact .error rfl
  | @some response response' hresponse =>
      have hschema := hresponse.schema
      simp only [responseSchema, hresponse.status]
      generalize response.schema = schema at hschema ⊢
      generalize response'.schema = schema' at hschema ⊢
      cases hschema with
      | none => exact .error rfl
      | some halike =>
          simp only [halike.reference_eq, halike.properties.isEmpty_eq, writableNames_eq halike]
          split
          · exact .error rfl
          · split
            · exact .error rfl
            · exact .ok halike

end Compliance

namespace Operation.Alike

variable {operation operation' : Operation}

theorem bodyParameter?_rel (h : Alike operation operation') :
    Option.Rel Parameter.Alike operation.bodyParameter? operation'.bodyParameter? :=
  rel_find? h.parameters fun _ _ halike => by rw [halike.location]

theorem successfulResponse?_rel (h : Alike operation operation') :
    Option.Rel Response.Alike operation.successfulResponse? operation'.successfulResponse? := by
  rw [successfulResponse?, successfulResponse?]
  generalize successCodes = codes
  induction codes with
  | nil => exact .none
  | cons code rest ih =>
      have hresponse := h.responses code
      rw [List.findSome?_cons, List.findSome?_cons]
      generalize operation.responses.get? code = response at hresponse ⊢
      generalize operation'.responses.get? code = response' at hresponse ⊢
      cases hresponse with
      | none => exact ih
      | some halike => exact .some halike

theorem payload_matches (h : Alike operation operation') :
    Matches (· = ·) (fun payload payload' => Schema.Alike payload.1 payload'.1 ∧
      payload.2 = payload'.2) (Compliance.payload operation) (Compliance.payload operation') := by
  have hbody := h.bodyParameter?_rel
  unfold Compliance.payload
  generalize operation.bodyParameter? = body at hbody ⊢
  generalize operation'.bodyParameter? = body' at hbody ⊢
  cases hbody with
  | none =>
      exact (Compliance.responseSchema_matches h.successfulResponse?_rel).map
        fun _ _ halike => ⟨halike, rfl⟩
  | some hparameter =>
      exact (Compliance.bodySchema_matches hparameter.schema).map fun _ _ halike => ⟨halike, rfl⟩

end Operation.Alike

end ResourceGraph
