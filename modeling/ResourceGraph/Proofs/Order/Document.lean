import ResourceGraph.Proofs.Order.Schema

/-!
# The order of mappings and documents

From the parts of a document to the whole: two values that differ in nothing that is seen in the
role of a document are both built or both rejected, and what they are built to is read alike by the
analysis.  Texts that only people read, the definitions, and the parameters of a path apart from its
operations are not among what is compared.
-/

namespace ResourceGraph

open Value

variable {role : Role} {value value' : Value} {entries entries' : List (Scalar × Value)}

/-! ## Parameters -/

namespace Parameter

/-- Two parameters differ in nothing that the analysis reads. -/
structure Alike (parameter parameter' : Parameter) : Prop where
  name : parameter.name = parameter'.name
  location : parameter.location = parameter'.location
  required : parameter.required = parameter'.required
  schema : Option.Rel Schema.Alike parameter.schema parameter'.schema
  extensions : Extensions.Alike parameter.extensions parameter'.extensions

theorem locationOf?_eq (h : AlignedEntries role entries entries') :
    locationOf? entries = locationOf? entries' := by
  have hrel := h.rel_get? "in"
  unfold locationOf?
  generalize Entries.get? entries "in" = found at hrel ⊢
  generalize Entries.get? entries' "in" = found' at hrel ⊢
  cases hrel with
  | none => rfl
  | some hvalue => simp only [hvalue.asText?_eq]

theorem ofEntries_agree (location : ParameterLocation) (h : AlignedEntries role entries entries') :
    Agree (fun parameter parameter' => role = .parameter → Alike parameter parameter')
      (ofEntries location entries) (ofEntries location entries') := by
  have htype := h.getOrNull "type"
  simp only [ofEntries]
  refine (writtenUnder_agree h "name" "").bind fun name name' hname => ?_
  refine (Schema.under_agree h "schema").bind fun schema schema' hschema => ?_
  refine (extensionsOf_agree h).bind fun extensions extensions' hextensions => ?_
  refine checked_agree (by rw [Mismatch.ofOptionalText_eq htype]) ?_
  rintro rfl
  refine ⟨hname rfl, rfl, ?_, ?_, hextensions rfl⟩
  · rw [h.getOrNull_eq "required" rfl]
  · cases hschema with
    | none => exact .none
    | some halike => exact .some (halike rfl)

theorem ofList_eq_mapM (declared : List (List (Scalar × Value))) : ofList declared =
    (declared.filterMap fun entries => (locationOf? entries).map (·, entries)).mapM
      fun both => ofEntries both.1 both.2 := by
  induction declared with
  | nil => rfl
  | cons entries rest ih =>
      rw [ofList, List.filterMap_cons]
      cases hlocation : locationOf? entries with
      | none => exact ih
      | some location =>
          rw [Option.map_some, List.mapM_cons, ← ih]

theorem ofList_agree {ordered : Prop} {declared declared' : List (List (Scalar × Value))}
    (h : Shuffled ordered (AlignedEntries role) declared declared') :
    Agree (Shuffled ordered fun parameter parameter' =>
      role = .parameter → Alike parameter parameter') (ofList declared) (ofList declared') := by
  have hlocations : Shuffled ordered
      (fun both both' => both'.1 = both.1 ∧ AlignedEntries role both.2 both'.2)
      (declared.filterMap fun entries => (locationOf? entries).map (·, entries))
      (declared'.filterMap fun entries => (locationOf? entries).map (·, entries)) :=
    h.filterMap fun entries entries' hentries => by
      rw [locationOf?_eq hentries]
      cases locationOf? entries' with
      | none => exact .none
      | some location => exact .some ⟨rfl, hentries⟩
  rw [ofList_eq_mapM, ofList_eq_mapM]
  refine hlocations.mapM ?_
  rintro ⟨location, entries⟩ ⟨location', entries'⟩ ⟨hlocation, hentries⟩
  obtain rfl : location' = location := hlocation
  exact ofEntries_agree location' hentries

theorem identityPart_agree (h : AlignedEntries role entries entries') (key : String) :
    Agree (· = ·) (identityPart entries key) (identityPart entries' key) := by
  have hrel := h.rel_get? key
  unfold identityPart
  generalize Entries.get? entries key = found at hrel ⊢
  generalize Entries.get? entries' key = found' at hrel ⊢
  cases hrel with
  | none => exact .ok rfl
  | some hvalue =>
      rw [Option.getD_some, Option.getD_some]
      cases hvalue with
      | scalar => exact .ok rfl
      | _ => exact .error trivial

theorem identityOf_agree (h : AlignedEntries role entries entries') :
    Agree (· = ·) (identityOf entries) (identityOf entries') := by
  refine (identityPart_agree h "name").bind fun name name' hname => ?_
  refine (identityPart_agree h "in").bind fun location location' hlocation => ?_
  rw [hname, hlocation]
  exact .ok rfl

/-- Which parameters of a path are overridden does not depend on their order. -/
theorem merge_agree {ordered : Prop} {ofPath ofPath' : List (List (Scalar × Value))}
    {own own' : List Value} (hofPath : Shuffled ordered (AlignedEntries role) ofPath ofPath')
    (hown : Shuffled ordered (Aligned role) own own') :
    Agree (Shuffled ordered (AlignedEntries role)) (merge ofPath own) (merge ofPath' own') := by
  have hidentified : ∀ {entries entries' : List (Scalar × Value)},
      AlignedEntries role entries entries' →
        Agree (fun both both' : List (Scalar × Value) × Identity =>
          AlignedEntries role both.1 both'.1 ∧ both.2 = both'.2)
          (do return (entries, ← identityOf entries))
          (do return (entries', ← identityOf entries')) :=
    fun hentries => (identityOf_agree hentries).bind fun _ _ hidentity => .ok ⟨hentries, hidentity⟩
  unfold merge
  -- a parameter of the path is kept unless one of the operation's own has its identity
  refine (hown.mapM fun value value' hvalue => (entriesOf_agree hvalue).bind
    fun _ _ hentries => hidentified hentries).bind fun declared declared' hdeclared => ?_
  refine (hofPath.mapM fun _ _ hentries => hidentified hentries).bind
    fun inherited inherited' hinherited => ?_
  refine .ok (((hinherited.filter fun candidate candidate' hcandidate => ?_).append hdeclared).map
    fun _ _ hboth => hboth.1)
  rw [hdeclared.any_eq fun override override' hoverride => by
    rw [hoverride.2, hcandidate.2]]

end Parameter

/-! ## Responses -/

namespace Response

/-- Two responses differ in nothing that the analysis reads. -/
structure Alike (response response' : Response) : Prop where
  status : response.status = response'.status
  schema : Option.Rel Schema.Alike response.schema response'.schema

theorem ofEntries_agree (status : String) (h : AlignedEntries role entries entries') :
    Agree (fun response response' => role = .response → Alike response response')
      (ofEntries status entries) (ofEntries status entries') := by
  have hdescription := h.getOrNull "description"
  simp only [ofEntries]
  refine (Schema.under_agree h "schema").bind fun schema schema' hschema => ?_
  refine checked_agree (by rw [Mismatch.ofOptionalText_eq hdescription]) ?_
  rintro rfl
  refine ⟨rfl, ?_⟩
  cases hschema with
  | none => exact .none
  | some halike => exact .some (halike rfl)

theorem listOf_eq (entries : List (Scalar × Value)) :
    listOf entries = (entries.filter fun entry => entry.2.isMap).mapM fun entry =>
      Parameter.entriesOf entry.2 >>= fun declared => do
        let status ← written (.scalar entry.1)
        return (status, ← ofEntries status declared) :=
  listOf_eq_mapM (fun key declared => do
      let status ← written (.scalar key)
      return (status, ← ofEntries status declared)) rfl
    (fun key declared rest => by simp only [listOf, bind_assoc, pure_bind])
    (fun key value rest hvalue => by
      cases value with
      | map declared => cases hvalue
      | _ => rfl) entries

theorem listOf_agree (h : AlignedEntries role entries entries') :
    Agree (Shuffled role.isOrdered fun entry entry' => entry'.1 = entry.1 ∧
      (role = .responses → Alike entry.2 entry'.2)) (listOf entries) (listOf entries') := by
  rw [listOf_eq, listOf_eq]
  refine (h.shuffled.filter fun entry entry' hboth => hboth.2.isMap_eq).mapM ?_
  rintro ⟨key, value⟩ ⟨key', value'⟩ ⟨hkey, hvalue⟩
  obtain rfl : key' = key := hkey
  refine (entriesOf_agree hvalue).bind fun declared declared' hdeclared => ?_
  cases written (.scalar key') with
  | error fault => exact .error trivial
  | ok status =>
      refine (ofEntries_agree status hdeclared).bind fun response response' halike => ?_
      refine .ok ⟨rfl, ?_⟩
      rintro rfl
      exact halike rfl

end Response

/-! ## Operations -/

namespace Operation

/-- Two operations differ in nothing that the analysis reads. -/
structure Alike (operation operation' : Operation) : Prop where
  operationId : operation.operationId = operation'.operationId
  parameters : List.Forall₂ Parameter.Alike operation.parameters operation'.parameters
  responses : Table.Alike Response.Alike operation.responses operation'.responses
  security : operation.security = operation'.security
  extensions : Extensions.Alike operation.extensions operation'.extensions

theorem securityOf_agree (h : Aligned role value value') :
    Agree (fun security security' =>
      Option.Rel (Shuffled role.isOrdered (Aligned role.item)) security security' ∧
        (role = .literal → security = security')) (securityOf value) (securityOf value') := by
  refine Matches.and_of_imp_eq ?_ ?_
  -- null means that nothing is declared; every other value is gone through
  · by_cases hnull : value = .null
    · subst hnull
      cases h
      exact .ok .none
    · have hnull' : value' ≠ .null := mt h.eq_null_iff.mpr hnull
      have hitems : ∀ {value : Value}, value ≠ .null →
          securityOf value = do return some (← itemsOf value) := fun {value} hvalue => by
        rw [securityOf]
        exact hvalue
      rw [hitems hnull, hitems hnull']
      exact (itemsOf_agree h).bind fun _ _ hshuffled => .ok (.some hshuffled)
  · rintro rfl
    rw [h.eq_of_literal]

theorem rawParameters_agree {ofPath ofPath' : List (List (Scalar × Value))}
    (hofPath : Shuffled (role.under (.text "parameters")).isOrdered
      (AlignedEntries (role.under (.text "parameters")).item) ofPath ofPath')
    (h : AlignedEntries role entries entries') :
    Agree (Shuffled (role.under (.text "parameters")).isOrdered
      (AlignedEntries (role.under (.text "parameters")).item)) (rawParameters ofPath entries)
      (rawParameters ofPath' entries') :=
  (itemsOrNone_agree (h.getOrNull "parameters")).bind fun _ _ hown =>
    Parameter.merge_agree hofPath hown

theorem ofEntries_agree {ofPath ofPath' : List (List (Scalar × Value))}
    (hofPath : Shuffled (role.under (.text "parameters")).isOrdered
      (AlignedEntries (role.under (.text "parameters")).item) ofPath ofPath')
    (h : AlignedEntries role entries entries') :
    Agree (fun operation operation' => role = .operation → Alike operation operation')
      (ofEntries ofPath entries) (ofEntries ofPath' entries') := by
  have hidentifier := h.getOrNull "operationId"
  have hsummary := h.getOrNull "summary"
  simp only [ofEntries]
  refine (rawParameters_agree hofPath h).bind fun declared declared' hdeclared => ?_
  refine (Parameter.ofList_agree hdeclared).bind fun parameters parameters' hparameters => ?_
  refine (mappingOf_agree (h.getOrNull "responses")).bind fun found found' hfound => ?_
  refine (Response.listOf_agree hfound).bind fun responses responses' hresponses => ?_
  refine (securityOf_agree (h.getOrNull "security")).bind fun security security' hsecurity => ?_
  refine (extensionsOf_agree h).bind fun extensions extensions' hextensions => ?_
  refine checked_agree ?_ ?_
  · have hitems : (Mismatch.ofItems Mismatch.ofRequirement (security.getD [])).isEmpty =
        (Mismatch.ofItems Mismatch.ofRequirement (security'.getD [])).isEmpty := by
      cases hsecurity.1 with
      | none => rfl
      | some hitems =>
          exact Mismatch.isEmpty_ofItems_eq _ hitems fun _ _ => Mismatch.isEmpty_ofRequirement_eq
    simp only [Mismatch.isEmpty_append, Mismatch.isEmpty_ofField, hitems,
      Mismatch.ofOptionalText_eq hidentifier, Mismatch.ofOptionalText_eq hsummary]
  · rintro rfl
    refine ⟨hidentifier.fieldText?_eq, ?_, ?_, ?_, hextensions rfl⟩
    · exact (hparameters.forall₂ rfl).imp fun _ _ halike => halike rfl
    · refine Table.alike_ofList fun status => ?_
      have hstatus : Shuffled True
          (fun entry entry' => entry'.1 = entry.1 ∧ Response.Alike entry.2 entry'.2)
          (responses.filter fun entry => entry.1 == status)
          (responses'.filter fun entry => entry.1 == status) :=
        .filter (.of_forall₂ ((hresponses.forall₂ rfl).imp fun _ _ hboth => ⟨hboth.1, hboth.2 rfl⟩))
          fun entry entry' hboth => by rw [hboth.1]
      exact (hstatus.forall₂ trivial).imp fun entry entry' hboth => hboth.2
    · rw [hsecurity.2 rfl]

end Operation

/-! ## Paths -/

namespace PathItem

/-- Two path items differ in nothing that the analysis reads. -/
def Alike (item item' : PathItem) : Prop :=
  ∀ method, Option.Rel Operation.Alike (item.operation? method) (item'.operation? method)

theorem operation?_withOperation (item : PathItem) (method : Method) (operation : Operation)
    (wanted : Method) : (item.withOperation method operation).operation? wanted =
      if wanted = method then some operation else item.operation? wanted := by
  cases method <;> cases wanted <;> rfl

theorem Alike.withOperation {item item' : PathItem} {operation operation' : Operation}
    (h : Alike item item') (method : Method) (hoperation : Operation.Alike operation operation') :
    Alike (item.withOperation method operation) (item'.withOperation method operation') := by
  intro wanted
  rw [operation?_withOperation, operation?_withOperation]
  split
  · exact .some hoperation
  · exact h wanted

theorem rawParameters_agree (h : AlignedEntries role entries entries') :
    Agree (Shuffled (role.under (.text "parameters")).isOrdered
      (AlignedEntries (role.under (.text "parameters")).item)) (rawParameters entries)
      (rawParameters entries') := by
  refine (itemsOrNone_agree (h.getOrNull "parameters")).bind fun items items' hitems => ?_
  refine .ok (hitems.filterMap fun value value' hvalue => ?_)
  cases value with
  | map entries =>
      obtain ⟨entries', rfl, hentries⟩ := aligned_map_iff.mp hvalue
      exact .some hentries
  | list items =>
      obtain ⟨items', rfl, -⟩ := aligned_list_iff.mp hvalue
      exact .none
  | _ =>
      cases hvalue
      exact .none

theorem withOperations_agree (hrole : role = .pathItem ∨ role = .unread)
    {ofPath ofPath' : List (List (Scalar × Value))}
    (hofPath : Shuffled (role.under (.text "parameters")).isOrdered
      (AlignedEntries (role.under (.text "parameters")).item) ofPath ofPath')
    (h : AlignedEntries role entries entries') (methods : List Method) {item item' : PathItem}
    (hitem : role = .pathItem → Alike item item') :
    Agree (fun item item' => role = .pathItem → Alike item item')
      (withOperations ofPath entries methods item)
      (withOperations ofPath' entries' methods item') := by
  induction methods generalizing item item' with
  | nil => exact .ok hitem
  | cons method rest ih =>
      have hvalue := h.getOrNull method.name
      rw [withOperations, withOperations]
      generalize Entries.getOrNull entries method.name = value at hvalue ⊢
      generalize Entries.getOrNull entries' method.name = value' at hvalue ⊢
      cases value with
      | map declared =>
          obtain ⟨declared', rfl, hdeclared⟩ := aligned_map_iff.mp hvalue
          -- the parameters of a path and of its operations have the same role
          have hparameters : (role.under (.text method.name)).under (.text "parameters") =
              role.under (.text "parameters") := by
            rcases hrole with rfl | rfl
            · cases method <;> rfl
            · rfl
          refine (Operation.ofEntries_agree (hparameters ▸ hofPath) hdeclared).bind
            fun operation operation' hoperation => ih ?_
          rintro rfl
          exact (hitem rfl).withOperation method (hoperation (by cases method <;> rfl))
      | list items =>
          obtain ⟨items', rfl, -⟩ := aligned_list_iff.mp hvalue
          exact ih hitem
      | _ =>
          cases hvalue
          exact ih hitem

theorem ofEntries_agree (hrole : role = .pathItem ∨ role = .unread)
    (h : AlignedEntries role entries entries') :
    Agree (fun item item' => role = .pathItem → Alike item item') (ofEntries entries)
      (ofEntries entries') := by
  have hnone : Alike {} {} := fun method => by cases method <;> exact .none
  unfold ofEntries
  refine (rawParameters_agree h).bind fun ofPath ofPath' hofPath => ?_
  refine (withOperations_agree hrole hofPath h Method.all fun _ => hnone).bind
    fun item item' hitem => ?_
  refine (Parameter.ofList_agree hofPath).bind fun parameters parameters' _ => .ok ?_
  intro hpath method
  have hoperation := hitem hpath method
  cases method <;> exact hoperation

end PathItem

/-! ## Mappings of named parts -/

/-- Building the parts that the values of a mapping declare. -/
theorem parts_agree {β : Type} {related : β → β → Prop} {part : Role}
    {build : List (Scalar × Value) → Except DocumentFault β}
    {listOf : List (Scalar × Value) → Except DocumentFault (List (Scalar × β))}
    (hlistOf : ∀ entries, listOf entries = (entries.filter fun entry => entry.2.isMap).mapM
      fun entry => Parameter.entriesOf entry.2 >>= fun declared => do
        return (entry.1, ← build declared))
    (hbuild : ∀ key declared declared', AlignedEntries (role.under key) declared declared' →
      Agree (fun first first' => role.under key = part → related first first') (build declared)
        (build declared'))
    (h : AlignedEntries role entries entries') :
    Agree (Arranged role fun key first first' => role.under key = part → related first first')
      (listOf entries) (listOf entries') := by
  have hpair : ∀ entry : Scalar × Value,
      (Parameter.entriesOf entry.2 >>= fun declared => do return (entry.1, ← build declared)) =
        do return (entry.1, ← (Parameter.entriesOf entry.2 >>= build)) :=
    fun entry => (bind_assoc ..).symm
  rw [hlistOf, hlistOf]
  simp only [hpair]
  exact (h.filter fun _ _ _ hvalue => hvalue.isMap_eq).mapM fun key value value' hvalue =>
    (entriesOf_agree hvalue).bind fun declared declared' hdeclared =>
      hbuild key declared declared' hdeclared

theorem PathItem.listOf_eq (entries : List (Scalar × Value)) :
    listOf entries = (entries.filter fun entry => entry.2.isMap).mapM fun entry =>
      Parameter.entriesOf entry.2 >>= fun declared => do
        return (entry.1, ← ofEntries declared) :=
  listOf_eq_mapM (fun key declared => do return (key, ← ofEntries declared)) rfl
    (fun key declared rest => by simp only [listOf, bind_assoc, pure_bind])
    (fun key value rest hvalue => by
      cases value with
      | map declared => cases hvalue
      | _ => rfl) entries

theorem PathItem.listOf_agree (hrole : role = .paths ∨ role = .unread)
    (h : AlignedEntries role entries entries') :
    Agree (Arranged role fun key item item' => role.under key = .pathItem → Alike item item')
      (listOf entries) (listOf entries') := by
  refine parts_agree listOf_eq
    (fun key declared declared' hdeclared => ofEntries_agree ?_ hdeclared) h
  rcases hrole with rfl | rfl
  · exact Or.inl rfl
  · exact Or.inr rfl

namespace SecurityDeclaration

/-- Two ways of authentication differ in nothing that the analysis reads. -/
structure Alike (declaration declaration' : SecurityDeclaration) : Prop where
  type : declaration.type = declaration'.type
  location : declaration.location = declaration'.location
  parameterName : declaration.parameterName = declaration'.parameterName
  extensions : Extensions.Alike declaration.extensions declaration'.extensions

theorem ofEntries_agree (h : AlignedEntries role entries entries') :
    Agree (fun declaration declaration' =>
      role = .securityDeclaration → Alike declaration declaration')
      (ofEntries entries) (ofEntries entries') := by
  have hlocation := h.getOrNull "in"
  have hname := h.getOrNull "name"
  have hdescription := h.getOrNull "description"
  simp only [ofEntries]
  refine (writtenUnder_agree h "type" "").bind fun type type' htype => ?_
  refine (extensionsOf_agree h).bind fun extensions extensions' hextensions => ?_
  refine checked_agree ?_ ?_
  · rw [Mismatch.ofOptionalText_eq hlocation, Mismatch.ofOptionalText_eq hname,
      Mismatch.ofOptionalText_eq hdescription]
  · rintro rfl
    exact ⟨htype rfl, hlocation.fieldText?_eq, hname.fieldText?_eq, hextensions rfl⟩

theorem listOf_eq (entries : List (Scalar × Value)) :
    listOf entries = (entries.filter fun entry => entry.2.isMap).mapM fun entry =>
      Parameter.entriesOf entry.2 >>= fun declared => do
        return (entry.1, ← ofEntries declared) :=
  listOf_eq_mapM (fun key declared => do return (key, ← ofEntries declared)) rfl
    (fun key declared rest => by simp only [listOf, bind_assoc, pure_bind])
    (fun key value rest hvalue => by
      cases value with
      | map declared => cases hvalue
      | _ => rfl) entries

theorem listOf_agree (h : AlignedEntries role entries entries') :
    Agree (Arranged role fun key declaration declaration' =>
      role.under key = .securityDeclaration → Alike declaration declaration')
      (listOf entries) (listOf entries') :=
  parts_agree listOf_eq (fun _ _ _ hdeclared => ofEntries_agree hdeclared) h

end SecurityDeclaration

/-! ## The document -/

namespace Document

/-- Two documents differ in nothing that the analysis reads. -/
structure Alike (document document' : Document) : Prop where
  host : document.host = document'.host
  basePath : document.basePath = document'.basePath
  schemes : document.schemes = document'.schemes
  paths : Table.Alike PathItem.Alike document.paths document'.paths
  securityDefinitions : Table.Alike SecurityDeclaration.Alike document.securityDefinitions
    document'.securityDefinitions
  security : document.security = document'.security
  extensions : Extensions.Alike document.extensions document'.extensions
  source : document.source = document'.source

theorem sectionOf_agree (h : AlignedEntries role entries entries') (key : String)
    (fault : DocumentFault) : Agree (AlignedEntries (role.under (.text key)))
      (sectionOf entries key fault) (sectionOf entries' key fault) :=
  (mappingOf_agree (h.getOrNull key)).mapError

/-- The items under a key, which are the same if they are read as they are written. -/
theorem items_agree (h : AlignedEntries role entries entries') (key : String) :
    Agree (fun items items' => Shuffled (role.under (.text key)).isOrdered
      (Aligned (role.under (.text key)).item) items items' ∧
        (role.under (.text key) = .literal → items = items'))
      (itemsOrNone (Entries.getOrNull entries key))
      (itemsOrNone (Entries.getOrNull entries' key)) :=
  (itemsOrNone_agree (h.getOrNull key)).and_of_imp_eq fun hliteral => by
    rw [h.getOrNull_eq key hliteral]

/-- **Values that differ in nothing that is seen are built to documents that are read alike.** -/
theorem ofValue_agree (source : Option String) (hrole : role = .document ∨ role = .unread)
    (h : Aligned role value value') :
    Agree (fun document document' => role = .document → Alike document document')
      (ofValue source value) (ofValue source value') := by
  cases value with
  | scalar | set | pair =>
      cases h
      exact .error trivial
  | list items =>
      obtain ⟨items', rfl, -⟩ := aligned_list_iff.mp h
      exact .error trivial
  | map entries =>
      obtain ⟨entries', rfl, hentries⟩ := aligned_map_iff.mp h
      have hpathsRole : role.under (.text "paths") = .paths ∨
          role.under (.text "paths") = .unread := by
        rcases hrole with rfl | rfl
        · exact Or.inl rfl
        · exact Or.inr rfl
      have hhost := hentries.getOrNull "host"
      have hbasePath := hentries.getOrNull "basePath"
      simp only [ofValue]
      refine (sectionOf_agree hentries "paths" _).bind
        fun pathEntries pathEntries' hpathEntries => ?_
      refine (sectionOf_agree hentries "definitions" _).bind fun found found' hfound => ?_
      refine (PathItem.listOf_agree hpathsRole hpathEntries).bind fun paths paths' hpaths => ?_
      refine (writtenUnder_agree hentries "swagger" _).bind fun swagger swagger' _ => ?_
      refine (mappingOf_agree (hentries.getOrNull "info")).bind fun info info' hinfo => ?_
      have htitle := hinfo.getOrNull "title"
      refine (writtenOrNone_agree (hinfo.getOrNull "version")).bind fun version version' _ => ?_
      refine (items_agree hentries "schemes").bind fun schemes schemes' hschemes => ?_
      -- the definitions are built and then not read, so that only success matters
      refine (Schema.builtAlike (aligned_map_iff.mpr ⟨_, rfl, hfound⟩)).properties.bind
        fun definitions definitions' hdefinitions => ?_
      refine (mappingOf_agree (hentries.getOrNull "securityDefinitions")).bind
        fun declared declared' hdeclared => ?_
      refine (SecurityDeclaration.listOf_agree hdeclared).bind
        fun declarations declarations' hdeclarations => ?_
      refine (items_agree hentries "security").bind fun security security' hsecurity => ?_
      refine (extensionsOf_agree hentries).bind fun extensions extensions' hextensions => ?_
      refine checked_agree ?_ ?_
      · have hschemesEmpty := Mismatch.isEmpty_ofItems_eq Mismatch.ofText hschemes.1
          fun item item' hitem => congrArg List.isEmpty (Mismatch.ofText_eq hitem)
        have hsecurityEmpty := Mismatch.isEmpty_ofItems_eq Mismatch.ofRequirement hsecurity.1
          fun item item' hitem => Mismatch.isEmpty_ofRequirement_eq hitem
        simp only [keyMismatches, Mismatch.isEmpty_append, Mismatch.isEmpty_ofField, hschemesEmpty,
          hsecurityEmpty, Mismatch.isEmpty_keys_eq hpaths, Mismatch.isEmpty_keys_eq hdefinitions,
          Mismatch.isEmpty_keys_eq hdeclarations, Mismatch.ofOptionalText_eq htitle,
          Mismatch.ofOptionalText_eq hhost, Mismatch.ofOptionalText_eq hbasePath]
      · rintro rfl
        refine ⟨hhost.fieldText?_eq, hbasePath.fieldText?_eq, ?_, ?_, ?_, ?_, hextensions rfl, rfl⟩
        · rw [hschemes.2 rfl]
        · exact textEntries_alike (hpaths.imp fun _ _ _ halike => halike rfl) rfl
        · exact textEntries_alike (hdeclarations.imp fun _ _ _ halike => halike rfl) rfl
        · rw [hsecurity.2 rfl]

end Document

end ResourceGraph
