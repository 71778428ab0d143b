import ResourceGraph.Proofs.Origin

/-!
# Properties of a payload and their identifier

The identifier of a resource is chosen from the schema of its payload, its properties are described
from the same schema, and which of them can be written is looked up there once more.  The three
agree (`Schema.presents_payloadProperties`): the properties are those of the schema in strictly
increasing order, the identifier is one of them and the only one with its mark, and in a computed
resource they are all read-only.

Nested properties never carry the mark.  Every property is described without it, whatever the depth
(`Schema.Described`), and the mark is then set among the outermost ones alone.
-/

namespace ResourceGraph

/-- A property stands inside another one, at some depth. -/
inductive PropertyDescriptor.Below : PropertyDescriptor → PropertyDescriptor → Prop
  | child {inner outer : PropertyDescriptor} (hinner : inner ∈ outer.properties) :
      Below inner outer
  | deeper {inner middle outer : PropertyDescriptor} (hinner : Below inner middle)
      (hmiddle : middle ∈ outer.properties) : Below inner outer

namespace Schema

variable {schema : Schema} {property inner outer : PropertyDescriptor} {identifier name : String}

/-! ## Descriptions of properties -/

theorem describedProperties_eq (schema : Schema) : schema.describedProperties =
    (Table.sorted (describedEntries schema.required schema.properties)).map Prod.snd := by
  cases schema
  rw [describedProperties]

theorem nestedProperties_eq (schema : Schema) : schema.nestedProperties =
    match schema.items with
    | some items =>
      if schema.type = some "array" then items.describedProperties
      else schema.describedProperties
    | none => schema.describedProperties := by
  obtain ⟨type, description, properties, required, readOnly, items, reference, extensions⟩ := schema
  cases items <;> simp only [nestedProperties, describedProperties]

theorem get?_describedEntries (required : List String) (properties : List (String × Schema))
    (name : String) : Table.get? (describedEntries required properties) name =
      (Table.get? properties name).map fun property =>
        describe name (required.contains name) property property.nestedProperties := by
  unfold Table.get?
  induction properties with
  | nil => rfl
  | cons entry rest ih =>
      rw [describedEntries, List.lookup_cons, List.lookup_cons, ih]
      by_cases hname : name = entry.1
      · simp [hname]
      · rw [beq_false_of_ne hname]

/-- The descriptions of the properties are found under their names. -/
theorem mem_describedProperties : property ∈ schema.describedProperties ↔
    ∃ declared, Table.get? schema.properties property.name = some declared ∧
      property = describe property.name (schema.required.contains property.name) declared
        declared.nestedProperties := by
  rw [describedProperties_eq, List.mem_map]
  constructor
  · rintro ⟨entry, hentry, rfl⟩
    rw [Table.mem_sorted, get?_describedEntries, Option.map_eq_some_iff] at hentry
    obtain ⟨declared, hdeclared, hdescribed⟩ := hentry
    rw [← hdescribed]
    exact ⟨declared, hdeclared, rfl⟩
  · rintro ⟨declared, hdeclared, hdescribed⟩
    refine ⟨(property.name, property), ?_, rfl⟩
    rw [Table.mem_sorted, get?_describedEntries, hdeclared, Option.map_some, ← hdescribed]

/-- The names of the described properties are those of the declared ones, in order. -/
theorem map_name_describedProperties (schema : Schema) :
    schema.describedProperties.map PropertyDescriptor.name = Table.names schema.properties := by
  have hnamed : ∀ entry ∈ Table.sorted (describedEntries schema.required schema.properties),
      entry.2.name = entry.1 := by
    intro entry hentry
    rw [Table.mem_sorted, get?_describedEntries, Option.map_eq_some_iff] at hentry
    obtain ⟨declared, -, hdescribed⟩ := hentry
    rw [← hdescribed]
    rfl
  have hkeys : ∀ name, Table.has (describedEntries schema.required schema.properties) name =
      Table.has schema.properties name := by
    intro name
    rw [Table.has, Table.has, get?_describedEntries, Option.isSome_map]
  calc schema.describedProperties.map PropertyDescriptor.name
      = (Table.sorted (describedEntries schema.required schema.properties)).map Prod.fst := by
        rw [describedProperties_eq, List.map_map]
        exact List.map_congr_left hnamed
    _ = Table.names (describedEntries schema.required schema.properties) := Table.map_fst_sorted _
    _ = Table.names schema.properties :=
        (Table.pairwise_names _).eq_of_mem_iff (Table.pairwise_names _) fun name => by
          rw [Table.mem_names, Table.mem_names, hkeys]

/-! ## Nested properties -/

/-- A property that is described as it is declared, with the properties nested in it. -/
def Described (property : PropertyDescriptor) : Prop :=
  ∃ name required schema, property = describe name required schema schema.nestedProperties

theorem described_of_mem_describedProperties (h : property ∈ schema.describedProperties) :
    Described property := by
  obtain ⟨declared, -, hdescribed⟩ := mem_describedProperties.mp h
  exact ⟨_, _, declared, hdescribed⟩

theorem described_of_mem_nestedProperties (h : property ∈ schema.nestedProperties) :
    Described property := by
  rw [nestedProperties_eq] at h
  split at h
  · split at h
    · exact described_of_mem_describedProperties h
    · exact described_of_mem_describedProperties h
  · exact described_of_mem_describedProperties h

theorem Described.of_mem_properties (h : Described outer) (hinner : inner ∈ outer.properties) :
    Described inner := by
  obtain ⟨name, required, schema, rfl⟩ := h
  exact described_of_mem_nestedProperties hinner

/-- Whatever stands inside a described property is described without the mark. -/
theorem Described.identifier_eq_false_of_below (h : Described outer) (hbelow : inner.Below outer) :
    inner.identifier = false := by
  induction hbelow with
  | child hinner =>
      obtain ⟨name, required, schema, rfl⟩ := h.of_mem_properties hinner
      rfl
  | deeper _ hmiddle ih => exact ih (h.of_mem_properties hmiddle)

/-! ## Properties of a payload -/

/-- The properties of a payload are the described ones, and the mark stands where the name is that
of the identifier. -/
theorem mem_payloadProperties : property ∈ schema.payloadProperties (some identifier) ↔
    ∃ described ∈ schema.describedProperties,
      property = { described with identifier := described.name == identifier } := by
  rw [payloadProperties, List.mem_map]
  refine exists_congr fun described => and_congr_right fun _ => ?_
  rw [eq_comm]
  rfl

theorem map_name_payloadProperties (schema : Schema) (identifier : Option String) :
    (schema.payloadProperties identifier).map PropertyDescriptor.name =
      Table.names schema.properties := by
  rw [payloadProperties, List.map_map, ← map_name_describedProperties]
  rfl

/-- The mark stands at one property, the identifier. -/
theorem map_name_filter_identifier (h : Table.has schema.properties identifier) :
    ((schema.payloadProperties (some identifier)).filter PropertyDescriptor.identifier).map
      PropertyDescriptor.name = [identifier] := by
  have hmarked : ∀ property ∈ schema.payloadProperties (some identifier),
      property.identifier = (property.name == identifier) := by
    intro property hproperty
    obtain ⟨described, -, rfl⟩ := mem_payloadProperties.mp hproperty
    rfl
  have hnames : identifier ∈ Table.names schema.properties := Table.mem_names.mpr h
  calc ((schema.payloadProperties (some identifier)).filter PropertyDescriptor.identifier).map
        PropertyDescriptor.name
      = ((schema.payloadProperties (some identifier)).map PropertyDescriptor.name).filter
          (· == identifier) := by
        rw [List.filter_map, List.filter_congr hmarked]
        rfl
    _ = (Table.names schema.properties).filter (· == identifier) := by
        rw [map_name_payloadProperties]
    _ = [identifier] := by
        have hnodup := (Table.pairwise_names (α := Schema) schema.properties).imp ne_of_lt
        rw [List.filter_beq, List.count_eq_one_of_mem hnodup hnames]
        rfl

theorem identifier_eq_false_of_below
    (hproperty : outer ∈ schema.payloadProperties (some identifier))
    (hbelow : inner.Below outer) : inner.identifier = false := by
  obtain ⟨described, hdescribed, rfl⟩ := mem_payloadProperties.mp hproperty
  have houter := described_of_mem_describedProperties hdescribed
  -- setting the mark of a property leaves the properties inside it as they are
  refine houter.identifier_eq_false_of_below ?_
  cases hbelow with
  | child hinner => exact .child hinner
  | deeper hinner hmiddle => exact .deeper hinner hmiddle

/-- If nothing can be written, all properties are read-only. -/
theorem readOnly_of_writableNames_eq_nil (h : Compliance.writableNames schema = [])
    (hproperty : property ∈ schema.payloadProperties (some identifier)) :
    property.readOnly = true := by
  obtain ⟨described, hdescribed, rfl⟩ := mem_payloadProperties.mp hproperty
  obtain ⟨declared, hdeclared, heq⟩ := mem_describedProperties.mp hdescribed
  have hreadOnly : described.readOnly = declared.readOnly := by
    rw [heq]
    rfl
  rw [hreadOnly]
  by_contra hwritable
  have hmem : described.name ∈ Compliance.writableNames schema :=
    Table.mem_namesWhere.mpr ⟨declared, hdeclared, by simpa using hwritable⟩
  simp [h] at hmem

end Schema

/-! ## Compliance -/

namespace Compliance

variable {schema : Schema} {create : Operation} {identifier : String}

/-- The identifier is a property of the payload. -/
theorem has_of_identifierOf_eq_ok (h : identifierOf schema = .ok identifier) :
    Table.has schema.properties identifier := by
  unfold identifierOf at h
  split at h
  · next name hflagged =>
      cases h
      have hmem : identifier ∈ flaggedNames schema := by simp [hflagged]
      obtain ⟨property, hproperty, -⟩ := Table.mem_namesWhere.mp hmem
      rw [Table.has, hproperty]
      rfl
  · split at h
    · next hdefault =>
        cases h
        exact hdefault
    · cases h
  · cases h

/-- Nothing can be written in the payload of a computed resource. -/
theorem writableNames_of_payload_eq_ok (h : payload create = .ok (schema, true)) :
    writableNames schema = [] := by
  unfold payload at h
  split at h
  · obtain ⟨body, -, hbody⟩ := map_eq_ok.mp h
    cases hbody
  · obtain ⟨found, hfound, hresult⟩ := map_eq_ok.mp h
    cases hresult
    unfold responseSchema at hfound
    split at hfound
    · cases hfound
    split at hfound
    · cases hfound
    split at hfound
    · cases hfound
    split at hfound
    · cases hfound
    · next hnone =>
        cases hfound
        simpa using hnone

end Compliance

/-! ## Properties of a resource -/

/-- The properties of a resource present a payload schema: they are the properties of the schema,
one of them is marked as the identifier, and all are read-only if the resource is computed. -/
structure ResourceDescriptor.Presents (resource : ResourceDescriptor) (schema : Schema) :
    Prop where
  increasing : (resource.properties.map PropertyDescriptor.name).Pairwise (· < ·)
  mem_names : ∀ name, name ∈ resource.properties.map PropertyDescriptor.name ↔
    Table.has schema.properties name
  identifier : (resource.properties.filter PropertyDescriptor.identifier).map
    PropertyDescriptor.name = [resource.identifier]
  below : ∀ outer ∈ resource.properties, ∀ inner : PropertyDescriptor, inner.Below outer →
    inner.identifier = false
  readOnly : resource.computedOnly → ∀ property ∈ resource.properties, property.readOnly = true

theorem Candidate.Describes.presents {candidate : Candidate} {document : Document}
    {resource : ResourceDescriptor} (h : candidate.Describes document resource)
    (hdeclared : candidate.DeclaredIn document) : resource.Presents candidate.schema := by
  have hnames : resource.properties.map PropertyDescriptor.name =
      Table.names candidate.schema.properties := by
    rw [h.properties, Schema.map_name_payloadProperties]
  refine ⟨?_, ?_, ?_, ?_, ?_⟩
  · rw [hnames]
    exact Table.pairwise_names _
  · intro name
    rw [hnames, Table.mem_names]
  · rw [h.properties, h.identifier]
    exact Schema.map_name_filter_identifier
      (Compliance.has_of_identifierOf_eq_ok hdeclared.identifier)
  · intro outer houter inner hinner
    rw [h.properties] at houter
    exact Schema.identifier_eq_false_of_below houter hinner
  · intro hcomputed property hproperty
    rw [h.computedOnly] at hcomputed
    rw [h.properties] at hproperty
    have hpayload := hdeclared.payload
    rw [hcomputed] at hpayload
    exact Schema.readOnly_of_writableNames_eq_nil
      (Compliance.writableNames_of_payload_eq_ok hpayload) hproperty

/-- **Every resource presents its payload.**  The operation that creates a resource has a payload,
be it sent or answered, and the properties of the resource are those of its schema: the identifier
alone is marked, and in a computed resource all of them are read-only. -/
theorem Document.resources_present_payload {document : Document} {selection : Selection}
    {findings : Findings} (h : document.resources selection = .ok findings) :
    ∀ resource ∈ findings.resources, ∃ root create schema,
      document.paths.get? resource.rootPath = some root ∧ root.post = some create ∧
        Compliance.payload create = .ok (schema, resource.computedOnly) ∧
        Compliance.identifierOf schema = .ok resource.identifier ∧ resource.Presents schema := by
  intro resource hmem
  obtain ⟨candidate, hcandidate, hdescribes, -⟩ := exists_candidate_of_mem_resources h hmem
  obtain ⟨-, -, hdeclared⟩ := candidate_eq_ok hcandidate
  refine ⟨candidate.root, candidate.create, candidate.schema, ?_, hdeclared.create, ?_, ?_,
    hdescribes.presents hdeclared⟩
  · rw [hdescribes.rootPath]
    exact hdeclared.root
  · rw [hdescribes.computedOnly]
    exact hdeclared.payload
  · rw [hdescribes.identifier]
    exact hdeclared.identifier

namespace Sample

/-- What stations answer: a flagged identifier, and a site that flags a property of its own. -/
def station : Schema :=
  { properties := [
      ("site", { readOnly := true, properties := [
        ("id", { extensions := [("x-terraform-id", .bool true)] })] }),
      ("code", { readOnly := true, extensions := [("x-terraform-id", .bool true)] })] }

/-- Stations, to which nothing is sent. -/
def stations : Document :=
  { paths := [
      ("/v1/stations", { post := some { responses := [
        ("201", { status := "201", schema := some station })] } }),
      ("/v1/stations/{id}", readable)] }

/-- The stations are computed and identified by their code, whatever their sites flag. -/
theorem stations_present_payload : ∃ findings resource, stations.resources {} = .ok findings ∧
    resource ∈ findings.resources ∧ resource.computedOnly = true ∧
      resource.identifier = "code" ∧ ∃ schema, resource.Presents schema := by
  have hrun : (stations.resources {}).toOption.map (fun findings =>
      findings.resources.map fun resource => (resource.computedOnly, resource.identifier)) =
      some [(true, "code")] := by
    decide +kernel
  obtain ⟨findings, hfindings, hresult⟩ := exists_of_toOption_map_eq_some hrun
  obtain ⟨resource, others, hresources, hfirst, -⟩ := List.map_eq_cons_iff.mp hresult
  obtain ⟨hcomputed, hidentifier⟩ := Prod.mk.inj hfirst
  have hmem : resource ∈ findings.resources := by simp [hresources]
  obtain ⟨-, -, schema, -, -, -, -, hpresents⟩ :=
    Document.resources_present_payload hfindings resource hmem
  exact ⟨findings, resource, hfindings, hmem, hcomputed, hidentifier, schema, hpresents⟩

end Sample

end ResourceGraph
