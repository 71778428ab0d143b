import ResourceGraph.Proofs.Outcome

/-!
# Which pairs of paths describe a resource

A collection path and an instance path describe a resource if they follow four rules: the instance
can be read, a member of the collection can be created, the payload of a new member is usable, and a
property of the payload identifies it.  Each rule stands here as a relation that says nothing about
the order in which the parts of a document are looked at.

* **What is looked for first** (`Operation.FirstBody`, `Operation.FirstSuccess`,
  `Extensions.Assert`) is described by what does not stand in front of it.
* **Payloads.**  A usable payload (`Operation.Usable`) is either sent or answered.  An operation
  without one has exactly one fault (`Operation.Lacks`), which follows from `payload_eq_error_iff`.
* **Identifiers** (`Schema.IdentifiedBy`) are flagged or have the name that is taken otherwise, and
  the names that are reported are all that are flagged (`Enumerates`).

`Document.FirstBroken` puts the rules in their order: each of its constructors names the rule that
is broken and takes those before it for granted.
-/

namespace ResourceGraph

/-! ## What is said about an operation and its payload -/

/-- The first of the parameters in the body. -/
def Operation.FirstBody (operation : Operation) (body : Parameter) : Prop :=
  body.location = .body ∧ ∃ before after, operation.parameters = before ++ body :: after ∧
    ∀ parameter ∈ before, parameter.location ≠ .body

/-- There is no parameter in the body. -/
def Operation.Bodiless (operation : Operation) : Prop :=
  ∀ parameter ∈ operation.parameters, parameter.location ≠ .body

/-- The first of the responses to success that is declared. -/
inductive Operation.FirstSuccess (operation : Operation) : Response → Prop
  | ok {response : Response} (hresponse : operation.responses.get? "200" = some response) :
      FirstSuccess operation response
  | created {response : Response} (hok : operation.responses.get? "200" = none)
      (hresponse : operation.responses.get? "201" = some response) :
      FirstSuccess operation response
  | accepted {response : Response} (hok : operation.responses.get? "200" = none)
      (hcreated : operation.responses.get? "201" = none)
      (hresponse : operation.responses.get? "202" = some response) :
      FirstSuccess operation response

/-- A value that is true, or a text that says so. -/
inductive Value.SaysTrue : Value → Prop
  | bool : SaysTrue (.bool true)
  | text {words : String} (hwords : Text.lower (Text.trim words) = "true") : SaysTrue (.text words)

/-- The first of the extensions with a name, taken without regard to case, is set to true. -/
def Extensions.Assert (extensions : Extensions) (name : String) : Prop :=
  ∃ before written value after, extensions = before ++ (written, value) :: after ∧
    Text.lower written = Text.lower name ∧ value.SaysTrue ∧
    ∀ entry ∈ before, Text.lower entry.1 ≠ Text.lower name

namespace Schema

/-- The schema of an object: it says so, or it says nothing and has properties. -/
def DescribesObject (schema : Schema) : Prop :=
  schema.type = some "object" ∨ schema.type = none ∧ schema.properties ≠ []

/-- A property that is flagged as the identifier. -/
def Flags (schema : Schema) (name : String) : Prop :=
  ∃ property, Table.get? schema.properties name = some property ∧
    property.extensions.Assert "x-terraform-id"

/-- A property that is not read-only. -/
def Takes (schema : Schema) (name : String) : Prop :=
  ∃ property, Table.get? schema.properties name = some property ∧ property.readOnly = false

/-- The property that identifies the instances: the only one that is flagged, or `id` if none is. -/
inductive IdentifiedBy (schema : Schema) : String → Prop
  | flagged {name : String} (hflags : ∀ other, schema.Flags other ↔ other = name) :
      IdentifiedBy schema name
  | named (hnone : ∀ name, ¬ schema.Flags name)
      (hnamed : ∃ property, Table.get? schema.properties "id" = some property) :
      IdentifiedBy schema "id"

end Schema

/-- The schema of what is sent to create a resource, or of what comes back where nothing is sent. -/
inductive Operation.Usable (create : Operation) : Schema → Prop
  | sent {body : Parameter} {schema : Schema} (hbody : create.FirstBody body)
      (hschema : body.schema = some schema) (hexpanded : schema.reference = none)
      (hobject : schema.DescribesObject) (hproperties : schema.properties ≠ []) :
      Usable create schema
  | answered {response : Response} {schema : Schema} (hbodiless : create.Bodiless)
      (hresponse : create.FirstSuccess response) (hschema : response.schema = some schema)
      (hexpanded : schema.reference = none) (hproperties : schema.properties ≠ [])
      (hreadOnly : ∀ name, ¬ schema.Takes name) : Usable create schema

/-! ## Following the rules -/

/-- A candidate for a collection path and the path of a member, all of it as the rules want it. -/
structure Candidate.Complies (candidate : Candidate) (document : Document)
    (collection member : String) : Prop where
  rootPath : candidate.rootPath = collection
  instancePath : candidate.instancePath = member
  instanceItem : document.paths.get? member = some candidate.instanceItem
  read : candidate.instanceItem.get = some candidate.read
  root : document.paths.get? collection = some candidate.root
  create : candidate.root.post = some candidate.create
  schema : candidate.create.Usable candidate.schema
  computedOnly : candidate.computedOnly = true ↔ candidate.create.Bodiless
  identifier : candidate.schema.IdentifiedBy candidate.identifier

/-- What some names in strictly increasing order have in common, and no other name has. -/
def Enumerates (names : List String) (holds : String → Prop) : Prop :=
  names.Pairwise (· < ·) ∧ ∀ name, name ∈ names ↔ holds name

/-- What the schema of a body lacks. -/
inductive Schema.BodyFault : Option Schema → PayloadFault → Prop
  | missing : BodyFault none .bodyWithoutSchema
  | unexpanded {schema : Schema} {reference : String}
      (hreference : schema.reference = some reference) :
      BodyFault (some schema) (.bodyReference reference)
  | notObject {schema : Schema} (hexpanded : schema.reference = none)
      (hobject : ¬ schema.DescribesObject) : BodyFault (some schema) (.bodyNotObject schema.type)
  | empty {schema : Schema} (hexpanded : schema.reference = none) (hobject : schema.DescribesObject)
      (hproperties : schema.properties = []) : BodyFault (some schema) .bodyWithoutProperties

/-- What a response lacks. -/
inductive Response.AnswerFault (response : Response) : PayloadFault → Prop
  | missing (hmissing : ∀ schema, response.schema = some schema →
        schema.reference ≠ none ∨ schema.properties = []) :
      AnswerFault response (.responseWithoutSchema response.status)
  | writable {schema : Schema} {names : List String} (hschema : response.schema = some schema)
      (hexpanded : schema.reference = none) (hproperties : schema.properties ≠ [])
      (hnames : Enumerates names schema.Takes) (hsome : names ≠ []) :
      AnswerFault response (.writableProperties names)

/-- What an operation lacks to create a resource. -/
inductive Operation.Lacks (create : Operation) : PayloadFault → Prop
  | sent {body : Parameter} {fault : PayloadFault} (hbody : create.FirstBody body)
      (hfault : Schema.BodyFault body.schema fault) : Lacks create fault
  | unanswered (hbodiless : create.Bodiless) (hnone : ∀ response, ¬ create.FirstSuccess response) :
      Lacks create .noResponse
  | answered {response : Response} {fault : PayloadFault} (hbodiless : create.Bodiless)
      (hresponse : create.FirstSuccess response) (hfault : response.AnswerFault fault) :
      Lacks create fault

/-- Why no property identifies the instances of a schema. -/
inductive Schema.Unidentified (schema : Schema) : RejectionCause → Prop
  | missing (hnone : ∀ name, ¬ schema.Flags name)
      (hnamed : Table.get? schema.properties "id" = none) : Unidentified schema .missingIdentifier
  | duplicate {names : List String} (hnames : Enumerates names schema.Flags)
      (hmany : 1 < names.length) : Unidentified schema (.duplicateIdentifier names)

/-- The first rule that two paths break, the rules before it being followed. -/
inductive Document.FirstBroken (document : Document) (rootPath : String) (item : PathItem) :
    RejectionCause → Prop
  | read (hread : item.get = none) : FirstBroken document rootPath item .missingRead
  | create (hread : item.get ≠ none)
      (hcreate : ∀ root, document.paths.get? rootPath = some root → root.post = none) :
      FirstBroken document rootPath item (.missingCreate rootPath)
  | payload {root : PathItem} {create : Operation} {fault : PayloadFault} (hread : item.get ≠ none)
      (hroot : document.paths.get? rootPath = some root) (hcreate : root.post = some create)
      (hfault : create.Lacks fault) :
      FirstBroken document rootPath item (.invalidPayload rootPath fault)
  | identifier {root : PathItem} {create : Operation} {schema : Schema} {cause : RejectionCause}
      (hread : item.get ≠ none) (hroot : document.paths.get? rootPath = some root)
      (hcreate : root.post = some create) (husable : create.Usable schema)
      (hcause : schema.Unidentified cause) : FirstBroken document rootPath item cause

/-! ## What is found first -/

theorem Operation.bodyParameter?_eq_some_iff {operation : Operation} {body : Parameter} :
    operation.bodyParameter? = some body ↔ operation.FirstBody body := by
  rw [bodyParameter?, List.find?_eq_some_iff_append, FirstBody]
  simp

theorem Operation.bodyParameter?_eq_none_iff {operation : Operation} :
    operation.bodyParameter? = none ↔ operation.Bodiless := by
  rw [bodyParameter?, List.find?_eq_none, Bodiless]
  simp

theorem Operation.successfulResponse?_eq_some_iff {operation : Operation} {response : Response} :
    operation.successfulResponse? = some response ↔ operation.FirstSuccess response := by
  rw [successfulResponse?, successCodes, List.findSome?_cons, List.findSome?_cons,
    List.findSome?_cons, List.findSome?_nil]
  constructor
  · intro h
    cases hok : operation.responses.get? "200" with
    | some found =>
        simp only [hok] at h
        exact .ok (hok.trans h)
    | none =>
        cases hcreated : operation.responses.get? "201" with
        | some found =>
            simp only [hok, hcreated] at h
            exact .created hok (hcreated.trans h)
        | none =>
            cases haccepted : operation.responses.get? "202" with
            | some found =>
                simp only [hok, hcreated, haccepted] at h
                exact .accepted hok hcreated (haccepted.trans h)
            | none => simp [hok, hcreated, haccepted] at h
  · rintro (hresponse | ⟨hok, hresponse⟩ | ⟨hok, hcreated, hresponse⟩)
    · simp only [hresponse]
    · simp only [hok, hresponse]
    · simp only [hok, hcreated, hresponse]

theorem Operation.successfulResponse?_eq_none_iff {operation : Operation} :
    operation.successfulResponse? = none ↔ ∀ response, ¬ operation.FirstSuccess response := by
  simp only [Option.eq_none_iff_forall_ne_some, ne_eq, successfulResponse?_eq_some_iff]

theorem Value.isTrue_iff {value : Value} : value.isTrue = true ↔ value.SaysTrue := by
  constructor
  · intro h
    unfold isTrue at h
    split at h
    · exact .text (beq_iff_eq.mp h)
    · rw [h]
      exact .bool
    · cases h
  · rintro (_ | hwords)
    · rfl
    · exact beq_iff_eq.mpr hwords

theorem Extensions.isSet_iff {extensions : Extensions} {extension : Extension} :
    extensions.isSet extension = true ↔ extensions.Assert extension.name := by
  simp only [isSet, lookup?, Option.any_eq_true, Option.map_eq_some_iff, Value.isTrue_iff,
    List.find?_eq_some_iff_append, beq_iff_eq]
  constructor
  · rintro ⟨value, ⟨⟨written, value⟩, ⟨hname, before, after, hsplit, hbefore⟩, rfl⟩, htrue⟩
    exact ⟨before, written, value, after, hsplit, hname, htrue, by simpa using hbefore⟩
  · rintro ⟨before, written, value, after, hsplit, hname, htrue, hbefore⟩
    exact ⟨value, ⟨(written, value), ⟨hname, before, after, hsplit, by simpa using hbefore⟩, rfl⟩,
      htrue⟩

theorem Schema.isObject_iff {schema : Schema} :
    schema.isObject = true ↔ schema.DescribesObject := by
  unfold isObject DescribesObject
  cases schema.type with
  | none => simp
  | some type => simp

/-! ## Names that are listed -/

theorem enumerates_nil_iff {holds : String → Prop} :
    Enumerates [] holds ↔ ∀ name, ¬ holds name := by
  simp [Enumerates]

theorem enumerates_singleton_iff {holds : String → Prop} {name : String} :
    Enumerates [name] holds ↔ ∀ other, holds other ↔ other = name := by
  simp [Enumerates, iff_comm]

theorem Table.namesWhere_eq_iff {α : Type} {table : Table α} {condition : α → Bool}
    {names : List String} : table.namesWhere condition = names ↔ Enumerates names fun name =>
      ∃ value, table.get? name = some value ∧ condition value = true := by
  have hpairwise : (table.namesWhere condition).Pairwise (· < ·) := by
    refine List.Pairwise.sublist ?_ table.pairwise_names
    rw [← map_fst_sorted]
    exact List.filter_sublist.map _
  constructor
  · rintro rfl
    exact ⟨hpairwise, fun name => mem_namesWhere⟩
  · rintro ⟨hnames, hmem⟩
    exact hpairwise.eq_of_mem_iff hnames fun name => by rw [mem_namesWhere, hmem]

namespace Compliance

variable {schema : Schema} {names : List String}

theorem flaggedNames_eq_iff : flaggedNames schema = names ↔ Enumerates names schema.Flags := by
  simp only [flaggedNames, Table.namesWhere_eq_iff, Extensions.isSet_iff]
  rfl

theorem writableNames_eq_iff : writableNames schema = names ↔ Enumerates names schema.Takes := by
  simp only [writableNames, Table.namesWhere_eq_iff, Bool.not_eq_true']
  rfl

/-! ## Identifiers -/

theorem identifierOf_eq_ok_iff {name : String} :
    identifierOf schema = .ok name ↔ schema.IdentifiedBy name := by
  constructor
  · intro h
    unfold identifierOf at h
    split at h
    · next hnames =>
        cases h
        exact .flagged (enumerates_singleton_iff.mp (flaggedNames_eq_iff.mp hnames))
    · next hnames =>
        split at h
        · next hnamed =>
            cases h
            exact .named (enumerates_nil_iff.mp (flaggedNames_eq_iff.mp hnames))
              (Option.isSome_iff_exists.mp hnamed)
        · cases h
    · cases h
  · rintro (hflags | ⟨hnone, hnamed⟩)
    · rw [identifierOf, flaggedNames_eq_iff.mpr (enumerates_singleton_iff.mpr hflags)]
    · rw [identifierOf, flaggedNames_eq_iff.mpr (enumerates_nil_iff.mpr hnone)]
      exact if_pos (Option.isSome_iff_exists.mpr hnamed)

theorem identifierOf_eq_error_iff {cause : RejectionCause} :
    identifierOf schema = .error cause ↔ schema.Unidentified cause := by
  constructor
  · intro h
    unfold identifierOf at h
    split at h
    · cases h
    · next hnames =>
        split at h
        · cases h
        · next hnamed =>
            cases h
            exact .missing (enumerates_nil_iff.mp (flaggedNames_eq_iff.mp hnames))
              (Option.not_isSome_iff_eq_none.mp hnamed)
    · next hsingle hempty =>
        cases h
        -- no name and a single one are the cases before
        refine .duplicate (flaggedNames_eq_iff.mp rfl) ?_
        rcases hflagged : flaggedNames schema with _ | ⟨first, _ | ⟨second, rest⟩⟩
        · exact absurd hflagged hempty
        · exact absurd hflagged (hsingle first)
        · simp
  · rintro (⟨hnone, hnamed⟩ | ⟨hnames, hmany⟩)
    · rw [identifierOf, flaggedNames_eq_iff.mpr (enumerates_nil_iff.mpr hnone)]
      exact if_neg (by simp [Table.has, identifierName, hnamed])
    · rw [identifierOf, flaggedNames_eq_iff.mpr hnames]
      split
      · simp at hmany
      · simp at hmany
      · rfl

/-! ## Payloads -/

theorem bodySchema_eq_ok_iff {declared : Option Schema} :
    bodySchema declared = .ok schema ↔ declared = some schema ∧ schema.reference = none ∧
      schema.DescribesObject ∧ schema.properties ≠ [] := by
  constructor
  · intro h
    unfold bodySchema at h
    split at h
    · cases h
    split at h
    · cases h
    next hexpanded =>
    split at h
    · cases h
    next hobject =>
    split at h
    · cases h
    next hproperties =>
    cases h
    exact ⟨rfl, hexpanded, Schema.isObject_iff.mp (by simpa using hobject),
      by simpa using hproperties⟩
  · rintro ⟨rfl, hexpanded, hobject, hproperties⟩
    simp [bodySchema, hexpanded, Schema.isObject_iff.mpr hobject, hproperties]

theorem bodySchema_eq_error_iff {declared : Option Schema} {fault : PayloadFault} :
    bodySchema declared = .error fault ↔ Schema.BodyFault declared fault := by
  constructor
  · intro h
    unfold bodySchema at h
    split at h
    · cases h
      exact .missing
    split at h
    · next hreference =>
        cases h
        exact .unexpanded hreference
    next hexpanded =>
    split at h
    · next hobject =>
        cases h
        exact .notObject hexpanded (by rw [← Schema.isObject_iff]; simpa using hobject)
    next hobject =>
    split at h
    · next hproperties =>
        cases h
        exact .empty hexpanded (Schema.isObject_iff.mp (by simpa using hobject))
          (List.isEmpty_iff.mp hproperties)
    · cases h
  · rintro (_ | hreference | ⟨hexpanded, hobject⟩ | ⟨hexpanded, hobject, hproperties⟩)
    · rfl
    · simp [bodySchema, hreference]
    · rw [← Schema.isObject_iff] at hobject
      simp [bodySchema, hexpanded, hobject]
    · simp [bodySchema, hexpanded, Schema.isObject_iff.mpr hobject, hproperties]

theorem responseSchema_eq_ok_iff {response : Response} :
    responseSchema (some response) = .ok schema ↔ response.schema = some schema ∧
      schema.reference = none ∧ schema.properties ≠ [] ∧ ∀ name, ¬ schema.Takes name := by
  rw [← enumerates_nil_iff, ← writableNames_eq_iff]
  constructor
  · intro h
    simp only [responseSchema] at h
    split at h
    · cases h
    next hschema =>
    split at h
    · cases h
    next hpresent =>
    split at h
    · cases h
    next hwritable =>
    cases h
    simp only [Bool.or_eq_true, not_or] at hpresent
    exact ⟨hschema, by simpa using hpresent.1, by simpa using hpresent.2, by simpa using hwritable⟩
  · rintro ⟨hschema, hexpanded, hproperties, hwritable⟩
    simp [responseSchema, hschema, hexpanded, hproperties, hwritable]

theorem responseSchema_eq_error_iff {response : Response} {fault : PayloadFault} :
    responseSchema (some response) = .error fault ↔ response.AnswerFault fault := by
  constructor
  · intro h
    simp only [responseSchema] at h
    split at h
    · next hschema =>
        cases h
        exact .missing (by simp [hschema])
    next declared hschema =>
    split at h
    · next hmissing =>
        cases h
        refine .missing fun found hfound => ?_
        obtain rfl : declared = found := Option.some.inj (hschema.symm.trans hfound)
        simpa [Option.isSome_iff_ne_none] using hmissing
    next hpresent =>
    split at h
    · next hwritable =>
        cases h
        simp only [Bool.or_eq_true, not_or] at hpresent
        exact .writable hschema (by simpa using hpresent.1) (by simpa using hpresent.2)
          (writableNames_eq_iff.mp rfl) (by simpa using hwritable)
    · cases h
  · rintro (hmissing | ⟨hschema, hexpanded, hproperties, hnames, hsome⟩)
    · cases hschema : response.schema with
      | none => simp [responseSchema, hschema]
      | some declared =>
          have hlacking := hmissing declared hschema
          rw [← Option.isSome_iff_ne_none] at hlacking
          simp [responseSchema, hschema, hlacking]
    · have hlisted := writableNames_eq_iff.mpr hnames
      simp [responseSchema, hschema, hexpanded, hproperties, hlisted, hsome]

variable {create : Operation}

/-- A usable payload, in the two steps in which it is looked for. -/
theorem usable_iff : create.Usable schema ↔
    (∃ body, create.bodyParameter? = some body ∧ bodySchema body.schema = .ok schema) ∨
      create.bodyParameter? = none ∧ responseSchema create.successfulResponse? = .ok schema := by
  constructor
  · rintro (⟨hbody, hschema, hexpanded, hobject, hproperties⟩ |
      ⟨hbodiless, hresponse, hschema, hexpanded, hproperties, hreadOnly⟩)
    · exact Or.inl ⟨_, Operation.bodyParameter?_eq_some_iff.mpr hbody,
        bodySchema_eq_ok_iff.mpr ⟨hschema, hexpanded, hobject, hproperties⟩⟩
    · refine Or.inr ⟨Operation.bodyParameter?_eq_none_iff.mpr hbodiless, ?_⟩
      rw [Operation.successfulResponse?_eq_some_iff.mpr hresponse]
      exact responseSchema_eq_ok_iff.mpr ⟨hschema, hexpanded, hproperties, hreadOnly⟩
  · rintro (⟨body, hbody, hsent⟩ | ⟨hbody, hanswered⟩)
    · obtain ⟨hschema, hexpanded, hobject, hproperties⟩ := bodySchema_eq_ok_iff.mp hsent
      exact .sent (Operation.bodyParameter?_eq_some_iff.mp hbody) hschema hexpanded hobject
        hproperties
    · cases hresponse : create.successfulResponse? with
      | none =>
          rw [hresponse] at hanswered
          cases hanswered
      | some response =>
          rw [hresponse] at hanswered
          obtain ⟨hschema, hexpanded, hproperties, hreadOnly⟩ :=
            responseSchema_eq_ok_iff.mp hanswered
          exact .answered (Operation.bodyParameter?_eq_none_iff.mp hbody)
            (Operation.successfulResponse?_eq_some_iff.mp hresponse) hschema hexpanded hproperties
            hreadOnly

/-- What an operation lacks, in the two steps in which its payload is looked for. -/
theorem lacks_iff {fault : PayloadFault} : create.Lacks fault ↔
    (∃ body, create.bodyParameter? = some body ∧ bodySchema body.schema = .error fault) ∨
      create.bodyParameter? = none ∧ responseSchema create.successfulResponse? = .error fault := by
  constructor
  · rintro (⟨hbody, hfault⟩ | ⟨hbodiless, hnone⟩ | ⟨hbodiless, hresponse, hfault⟩)
    · exact Or.inl ⟨_, Operation.bodyParameter?_eq_some_iff.mpr hbody,
        bodySchema_eq_error_iff.mpr hfault⟩
    · refine Or.inr ⟨Operation.bodyParameter?_eq_none_iff.mpr hbodiless, ?_⟩
      rw [Operation.successfulResponse?_eq_none_iff.mpr hnone]
      rfl
    · refine Or.inr ⟨Operation.bodyParameter?_eq_none_iff.mpr hbodiless, ?_⟩
      rw [Operation.successfulResponse?_eq_some_iff.mpr hresponse]
      exact responseSchema_eq_error_iff.mpr hfault
  · rintro (⟨body, hbody, hfault⟩ | ⟨hbody, hfault⟩)
    · exact .sent (Operation.bodyParameter?_eq_some_iff.mp hbody)
        (bodySchema_eq_error_iff.mp hfault)
    · have hbodiless := Operation.bodyParameter?_eq_none_iff.mp hbody
      cases hresponse : create.successfulResponse? with
      | none =>
          rw [hresponse] at hfault
          cases hfault
          exact .unanswered hbodiless (Operation.successfulResponse?_eq_none_iff.mp hresponse)
      | some response =>
          rw [hresponse] at hfault
          exact .answered hbodiless (Operation.successfulResponse?_eq_some_iff.mp hresponse)
            (responseSchema_eq_error_iff.mp hfault)

theorem payload_eq_ok_iff {computedOnly : Bool} : payload create = .ok (schema, computedOnly) ↔
    create.Usable schema ∧ (computedOnly = true ↔ create.Bodiless) := by
  rw [usable_iff, ← Operation.bodyParameter?_eq_none_iff, payload]
  cases create.bodyParameter? with
  | some body => simp [map_eq_ok, eq_comm (a := false)]
  | none => simp [map_eq_ok, eq_comm (a := true)]

theorem payload_eq_error_iff {fault : PayloadFault} :
    payload create = .error fault ↔ create.Lacks fault := by
  rw [lacks_iff, payload]
  cases create.bodyParameter? with
  | some body => simp [map_eq_error]
  | none => simp [map_eq_error]

end Compliance

/-! ## The rules in their order -/

section Validate

variable {document : Document} {rootPath instancePath : String} {item : PathItem}

/-- What is left to look at once both operations are found. -/
theorem Candidate.validate_eq {read create : Operation} {root : PathItem}
    (hread : item.get = some read) (hroot : document.paths.get? rootPath = some root)
    (hcreate : root.post = some create) :
    Candidate.validate document rootPath instancePath item =
      ((Compliance.payload create).mapError (RejectionCause.invalidPayload rootPath) >>=
        fun payload => Compliance.identifierOf payload.1 >>= fun identifier =>
          pure ⟨rootPath, instancePath, root, item, create, read, payload.1, identifier,
            payload.2⟩) := by
  simp only [Candidate.validate, hread, hroot, hcreate]

theorem Candidate.validate_eq_ok_iff (hitem : document.paths.get? instancePath = some item)
    {candidate : Candidate} :
    Candidate.validate document rootPath instancePath item = .ok candidate ↔
      candidate.Complies document rootPath instancePath := by
  constructor
  · intro h
    obtain ⟨rfl, rfl, hdeclared⟩ := Candidate.validate_eq_ok hitem h
    obtain ⟨husable, hcomputed⟩ := Compliance.payload_eq_ok_iff.mp hdeclared.payload
    exact ⟨rfl, rfl, hdeclared.instanceItem, hdeclared.read, hdeclared.root, hdeclared.create,
      husable, hcomputed, Compliance.identifierOf_eq_ok_iff.mp hdeclared.identifier⟩
  · rintro ⟨rfl, rfl, hinstance, hread, hroot, hcreate, husable, hcomputed, hidentifier⟩
    obtain rfl : item = candidate.instanceItem := Option.some.inj (hitem.symm.trans hinstance)
    have hpayload := Compliance.payload_eq_ok_iff.mpr ⟨husable, hcomputed⟩
    rw [Candidate.validate_eq hread hroot hcreate, bind_eq_ok]
    exact ⟨_, mapError_eq_ok.mpr hpayload,
      bind_eq_ok.mpr ⟨_, Compliance.identifierOf_eq_ok_iff.mpr hidentifier, rfl⟩⟩

theorem Candidate.validate_eq_missingCreate {read : Operation} (hread : item.get = some read)
    (hcreate : ∀ root, document.paths.get? rootPath = some root → root.post = none) :
    Candidate.validate document rootPath instancePath item =
      .error (.missingCreate rootPath) := by
  cases hroot : document.paths.get? rootPath with
  | none =>
      simp only [Candidate.validate, hread, hroot]
      rfl
  | some root =>
      simp only [Candidate.validate, hread, hroot, hcreate root hroot]
      rfl

theorem Document.FirstBroken.of_validate_eq {cause : RejectionCause}
    (h : Candidate.validate document rootPath instancePath item = .error cause) :
    document.FirstBroken rootPath item cause := by
  -- each check that is passed is a premise of the rules after it
  cases hread : item.get with
  | none =>
      simp only [Candidate.validate, hread] at h
      cases h
      exact .read hread
  | some read =>
  have hreadable : item.get ≠ none := by simp [hread]
  by_cases hmissing : ∀ root, document.paths.get? rootPath = some root → root.post = none
  · rw [Candidate.validate_eq_missingCreate hread hmissing] at h
    cases h
    exact .create hreadable hmissing
  push Not at hmissing
  obtain ⟨root, hroot, hpost⟩ := hmissing
  obtain ⟨create, hcreate⟩ := Option.ne_none_iff_exists'.mp hpost
  rw [Candidate.validate_eq hread hroot hcreate, bind_eq_error] at h
  rcases h with hpayload | ⟨⟨schema, computedOnly⟩, hpayload, hnext⟩
  · obtain ⟨fault, hfault, rfl⟩ := mapError_eq_error.mp hpayload
    exact .payload hreadable hroot hcreate (Compliance.payload_eq_error_iff.mp hfault)
  · obtain ⟨husable, -⟩ := Compliance.payload_eq_ok_iff.mp (mapError_eq_ok.mp hpayload)
    exact .identifier hreadable hroot hcreate husable
      (Compliance.identifierOf_eq_error_iff.mp (bind_pure_eq_error.mp hnext))

theorem Document.FirstBroken.validate_eq {cause : RejectionCause}
    (h : document.FirstBroken rootPath item cause) :
    Candidate.validate document rootPath instancePath item = .error cause := by
  cases h with
  | read hread => simp only [Candidate.validate, hread]; rfl
  | create hread hcreate =>
      obtain ⟨read, hread⟩ := Option.ne_none_iff_exists'.mp hread
      exact Candidate.validate_eq_missingCreate hread hcreate
  | payload hread hroot hcreate hfault =>
      obtain ⟨read, hread⟩ := Option.ne_none_iff_exists'.mp hread
      rw [Candidate.validate_eq hread hroot hcreate, bind_eq_error]
      exact Or.inl (mapError_eq_error.mpr ⟨_, Compliance.payload_eq_error_iff.mpr hfault, rfl⟩)
  | @identifier root create schema cause hread hroot hcreate husable hcause =>
      obtain ⟨read, hread⟩ := Option.ne_none_iff_exists'.mp hread
      -- a usable schema fixes the payload, since the body parameter tells whether it is sent
      have hpayload : Compliance.payload create =
          .ok (schema, create.bodyParameter?.isNone) := by
        rw [Compliance.payload_eq_ok_iff, Option.isNone_iff_eq_none]
        exact ⟨husable, Operation.bodyParameter?_eq_none_iff⟩
      rw [Candidate.validate_eq hread hroot hcreate, bind_eq_error]
      exact Or.inr ⟨_, mapError_eq_ok.mpr hpayload,
        bind_pure_eq_error.mpr (Compliance.identifierOf_eq_error_iff.mpr hcause)⟩

theorem Candidate.validate_eq_error_iff {cause : RejectionCause} :
    Candidate.validate document rootPath instancePath item = .error cause ↔
      document.FirstBroken rootPath item cause :=
  ⟨.of_validate_eq, Document.FirstBroken.validate_eq⟩

/-- **Which pairs of paths describe a resource.**  A declared instance path is accepted together
with a collection path exactly if it can be read, a member of the collection can be created, and a
usable payload has an identifier.  The candidate has the payload and the identifier that the rules
determine and is computed exactly if nothing is sent; a pair that is not accepted is rejected for
the first rule that it breaks. -/
theorem Candidate.validate_iff_complies (hitem : document.paths.get? instancePath = some item) :
    ((∃ candidate, Candidate.validate document rootPath instancePath item = .ok candidate) ↔
      (∃ read, item.get = some read) ∧
      ∃ root create, document.paths.get? rootPath = some root ∧ root.post = some create ∧
        ∃ schema, create.Usable schema ∧ ∃ identifier, schema.IdentifiedBy identifier) ∧
    (∀ candidate, Candidate.validate document rootPath instancePath item = .ok candidate ↔
      candidate.Complies document rootPath instancePath) ∧
    (∀ cause, Candidate.validate document rootPath instancePath item = .error cause ↔
      document.FirstBroken rootPath item cause) := by
  refine ⟨⟨?_, ?_⟩, fun candidate => validate_eq_ok_iff hitem, fun cause => validate_eq_error_iff⟩
  · rintro ⟨candidate, h⟩
    have hcomplies := (validate_eq_ok_iff hitem).mp h
    obtain rfl : item = candidate.instanceItem :=
      Option.some.inj (hitem.symm.trans hcomplies.instanceItem)
    exact ⟨⟨_, hcomplies.read⟩, _, _, hcomplies.root, hcomplies.create, _, hcomplies.schema, _,
      hcomplies.identifier⟩
  · rintro ⟨⟨read, hread⟩, root, create, hroot, hcreate, schema, husable, identifier, hidentifier⟩
    have hcomplies : (⟨rootPath, instancePath, root, item, create, read, schema, identifier,
        create.bodyParameter?.isNone⟩ : Candidate).Complies document rootPath instancePath :=
      ⟨rfl, rfl, hitem, hread, hroot, hcreate, husable,
        Option.isNone_iff_eq_none.trans Operation.bodyParameter?_eq_none_iff, hidentifier⟩
    exact ⟨_, (validate_eq_ok_iff hitem).mpr hcomplies⟩

end Validate

/-! ## Tokens that are only answered -/

namespace Sample

/-- A token, identified by its key although it has an `id`. -/
def tokenSchema : Schema where
  properties := [("id", { readOnly := true }),
    ("key", { readOnly := true, extensions := [("X-Terraform-Id", .text " TRUE ")] })]

/-- Tokens that are created without a body. -/
def tokenCollection : PathItem where
  post := some { responses :=
    [("202", { status := "202" }), ("201", { status := "201", schema := some tokenSchema })] }

def tokenItem : PathItem := { get := some {} }

def tokens : Document where
  paths := [("/v1/tokens", tokenCollection), ("/v1/tokens/{id}", tokenItem)]

/-- A token is accepted with its collection, and no other path has members. -/
theorem exists_complies_tokens : tokens.paths.get? "/v1/tokens/{id}" = some tokenItem ∧
    (∃ candidate : Candidate, candidate.Complies tokens "/v1/tokens" "/v1/tokens/{id}" ∧
      candidate.identifier = "key" ∧ candidate.computedOnly = true) ∧
    tokens.FirstBroken "/v1/keys" tokenItem (.missingCreate "/v1/keys") := by
  have hitem : tokens.paths.get? "/v1/tokens/{id}" = some tokenItem := rfl
  have hrun : (Candidate.validate tokens "/v1/tokens" "/v1/tokens/{id}" tokenItem).toOption.map
      (fun candidate => (candidate.identifier, candidate.computedOnly)) = some ("key", true) := by
    decide +kernel
  obtain ⟨candidate, hcandidate, hresult⟩ := exists_of_toOption_map_eq_some hrun
  have hcomplies : candidate.Complies tokens "/v1/tokens" "/v1/tokens/{id}" :=
    ((Candidate.validate_iff_complies hitem).2.1 candidate).mp hcandidate
  exact ⟨hitem, ⟨candidate, hcomplies, congrArg Prod.fst hresult, congrArg Prod.snd hresult⟩,
    ((Candidate.validate_iff_complies hitem).2.2 _).mp rfl⟩

end Sample

end ResourceGraph
