import ResourceGraph.Analysis.Result
import ResourceGraph.Proofs.Order.Payload

/-!
# The order of mappings and the analysis

Documents that are read alike have the same analysis: the paths and the ways of authentication are
gone through by name, what is looked up under a path is found in any order, and what becomes of one
path does not depend on where the others stand.
-/

namespace ResourceGraph

variable {document document' : Document}

/-! ## Operations -/

namespace Operation.Alike

variable {operation operation' : Operation}

theorem timeout_eq (h : Alike operation operation') (path : String) :
    operation.timeout path = operation'.timeout path := by
  have hvalue := h.extensions _ Extension.resourceTimeout.isRead_name
  have hlabel : operation.label path = operation'.label path := by
    rw [Operation.label, Operation.label, h.operationId]
  unfold Operation.timeout
  rw [hvalue, hlabel]

theorem configuredHeaders_eq (h : Alike operation operation') :
    operation.configuredHeaders = operation'.configuredHeaders := by
  have hshuffled : Shuffled True Parameter.Alike operation.parameters operation'.parameters :=
    .of_forall₂ h.parameters
  have hheaders : Shuffled True Parameter.Alike
      (operation.parameters.filter fun parameter =>
        parameter.location == .header && (parameter.extensions.text? .header).isSome)
      (operation'.parameters.filter fun parameter =>
        parameter.location == .header && (parameter.extensions.text? .header).isSome) :=
    hshuffled.filter fun parameter parameter' halike => by
      rw [halike.location, halike.extensions.text?_eq]
  exact congrArg sortNames (map_eq_of_forall₂ (hheaders.forall₂ trivial) fun _ _ halike =>
    halike.name)

theorem descriptor_eq (h : Alike operation operation')
    (hdocument : Document.Alike document document') (method : Method) (path : String) :
    operation.descriptor document method path = operation'.descriptor document' method path := by
  unfold Operation.descriptor
  rw [h.timeout_eq, h.operationId, h.security, hdocument.security, h.configuredHeaders_eq]

end Operation.Alike

theorem optionalDescriptor_eq {operation operation' : Option Operation}
    (h : Option.Rel Operation.Alike operation operation')
    (hdocument : Document.Alike document document') (method : Method) (path : String) :
    Operation.optionalDescriptor operation document method path =
      Operation.optionalDescriptor operation' document' method path := by
  cases h with
  | none => rfl
  | some halike => rw [Operation.optionalDescriptor, Operation.optionalDescriptor,
      halike.descriptor_eq hdocument]

/-! ## Path items -/

namespace PathItem.Alike

variable {item item' : PathItem}

theorem operations_forall₂ (h : Alike item item') :
    List.Forall₂ (fun entry entry' => entry'.1 = entry.1 ∧ Operation.Alike entry.2 entry'.2)
      item.operations item'.operations := by
  have hmethods : Shuffled True (· = ·) Method.all Method.all := .of_forall₂ (List.forall₂_refl _)
  refine (hmethods.filterMap fun method method' hmethod => ?_).forall₂ trivial
  subst hmethod
  have hoperation := h method
  generalize item.operation? method = operation at hoperation ⊢
  generalize item'.operation? method = operation' at hoperation ⊢
  cases hoperation with
  | none => exact .none
  | some halike => exact .some ⟨rfl, halike⟩

theorem isIgnored_eq (h : Alike item item') : item.isIgnored = item'.isIgnored := by
  have hpost : Option.Rel Operation.Alike item.post item'.post := h .post
  unfold isIgnored
  generalize item.post = create at hpost ⊢
  generalize item'.post = create' at hpost ⊢
  cases hpost with
  | none => rfl
  | some halike => exact halike.extensions.isSet_eq _

theorem resourceName_eq (h : Alike item item') (rootPath : String) :
    item.resourceName rootPath = item'.resourceName rootPath := by
  have hname : item.preferredName? = item'.preferredName? := by
    have hpost : Option.Rel Operation.Alike item.post item'.post := h .post
    unfold preferredName?
    generalize item.post = create at hpost ⊢
    generalize item'.post = create' at hpost ⊢
    cases hpost with
    | none => rfl
    | some halike => exact halike.extensions.text?_eq _
  unfold resourceName
  rw [hname]

theorem listedItems_matches (h : Alike item item') :
    Matches (· = ·) (fun listed listed' => Operation.Alike listed.1 listed'.1 ∧
      Schema.Alike listed.2 listed'.2) item.listedItems item'.listedItems := by
  have hget : Option.Rel Operation.Alike item.get item'.get := h .get
  unfold listedItems
  generalize item.get = read at hget ⊢
  generalize item'.get = read' at hget ⊢
  cases hget with
  | none => exact .error rfl
  | @some read read' hread =>
      have hresponse := hread.responses "200"
      simp only
      generalize read.responses.get? "200" = response at hresponse ⊢
      generalize read'.responses.get? "200" = response' at hresponse ⊢
      cases hresponse with
      | none => exact .error rfl
      | @some response response' halike =>
          have hschema := halike.schema
          simp only
          generalize response.schema = schema at hschema ⊢
          generalize response'.schema = schema' at hschema ⊢
          cases hschema with
          | none => exact .error rfl
          | @some schema schema' hschema =>
              have hitems := hschema.items
              simp only [hschema.type_eq]
              generalize schema.items = items at hitems ⊢
              generalize schema'.items = items' at hitems ⊢
              split
              · exact .error rfl
              · cases hitems with
                | none => exact .error rfl
                | @some items items' hitems =>
                    simp only [hitems.type_eq, hitems.properties.isEmpty_eq]
                    split
                    · exact .error rfl
                    · split
                      · exact .error rfl
                      · exact .ok ⟨hread, hitems⟩

theorem dataSource_eq (h : Alike item item') (hdocument : Document.Alike document document')
    (path : String) : item.dataSource document path = item'.dataSource document' path := by
  unfold dataSource
  refine (h.listedItems_matches.mapError_eq (Rejection.mk path)).bind_eq ?_
  rintro ⟨read, items⟩ ⟨read', items'⟩ ⟨hread, hitems⟩
  simp only [hread.descriptor_eq hdocument, hitems.payloadProperties_eq,
    hread.extensions.text?_eq]

end PathItem.Alike

/-! ## Candidates -/

/-- Two candidates differ in nothing that the analysis reads. -/
structure Candidate.Alike (candidate candidate' : Candidate) : Prop where
  rootPath : candidate.rootPath = candidate'.rootPath
  instancePath : candidate.instancePath = candidate'.instancePath
  root : PathItem.Alike candidate.root candidate'.root
  instanceItem : PathItem.Alike candidate.instanceItem candidate'.instanceItem
  create : Operation.Alike candidate.create candidate'.create
  read : Operation.Alike candidate.read candidate'.read
  schema : Schema.Alike candidate.schema candidate'.schema
  identifier : candidate.identifier = candidate'.identifier
  computedOnly : candidate.computedOnly = candidate'.computedOnly

theorem Candidate.Alike.descriptor_eq {candidate candidate' : Candidate}
    (h : Candidate.Alike candidate candidate') (hdocument : Document.Alike document document') :
    candidate.descriptor document = candidate'.descriptor document' := by
  unfold Candidate.descriptor
  have hput := optionalDescriptor_eq (h.instanceItem .put) hdocument .put candidate'.instancePath
  have hdelete :=
    optionalDescriptor_eq (h.instanceItem .delete) hdocument .delete candidate'.instancePath
  simp only [PathItem.operation?] at hput hdelete
  rw [h.rootPath, h.instancePath, h.create.descriptor_eq hdocument, h.read.descriptor_eq hdocument,
    hput, hdelete, h.root.resourceName_eq, h.create.extensions.text?_eq, h.identifier,
    h.schema.payloadProperties_eq, h.root.isIgnored_eq, h.computedOnly]

namespace Document.Alike

variable (h : Document.Alike document document')
include h

theorem validate_matches (rootPath instancePath : String) {item item' : PathItem}
    (hitem : PathItem.Alike item item') :
    Matches (· = ·) Candidate.Alike (Candidate.validate document rootPath instancePath item)
      (Candidate.validate document' rootPath instancePath item') := by
  have hget : Option.Rel Operation.Alike item.get item'.get := hitem .get
  have hroot := h.paths rootPath
  unfold Candidate.validate
  generalize item.get = read at hget ⊢
  generalize item'.get = read' at hget ⊢
  generalize document.paths.get? rootPath = root at hroot ⊢
  generalize document'.paths.get? rootPath = root' at hroot ⊢
  cases hget with
  | none => exact .error rfl
  | some hread =>
      cases hroot with
      | none => exact .error rfl
      | @some root root' hroot =>
          have hpost : Option.Rel Operation.Alike root.post root'.post := hroot .post
          simp only
          generalize root.post = create at hpost ⊢
          generalize root'.post = create' at hpost ⊢
          cases hpost with
          | none => exact .error rfl
          | @some create create' hcreate =>
              have hpayload := hcreate.payload_matches
              simp only
              generalize Compliance.payload create = payload at hpayload ⊢
              generalize Compliance.payload create' = payload' at hpayload ⊢
              cases hpayload with
              | error herror => exact .error (congrArg _ herror)
              | @ok payload payload' hboth =>
                  simp only [Except.mapError, bind, Except.bind, Compliance.identifierOf_eq hboth.1]
                  cases Compliance.identifierOf payload'.1 with
                  | error cause => exact .error rfl
                  | ok identifier =>
                      exact .ok ⟨rfl, rfl, hroot, hitem, hcreate, hread, hboth.1, rfl, hboth.2⟩

theorem candidate_matches (instancePath : String) :
    Matches (· = ·) Candidate.Alike (document.candidate instancePath)
      (document'.candidate instancePath) := by
  have hdeclares : document.declares = document'.declares := funext h.paths.has_eq
  have hitem := h.paths instancePath
  unfold Document.candidate
  rw [hdeclares]
  cases Path.findRoot document'.declares instancePath with
  | error rejection => exact .error rfl
  | ok rootPath =>
      simp only [bind, Except.bind]
      generalize document.paths.get? instancePath = item at hitem ⊢
      generalize document'.paths.get? instancePath = item' at hitem ⊢
      cases hitem with
      | none => exact .error rfl
      | @some item item' hitem =>
          exact (h.validate_matches rootPath instancePath hitem).mapError_eq _

theorem findPath?_rel (path : String) :
    Option.Rel PathItem.Alike (document.findPath? path) (document'.findPath? path) := by
  have hplain := h.paths path
  have hslash := h.paths (path ++ "/")
  unfold Document.findPath?
  generalize document.paths.get? path = item at hplain ⊢
  generalize document'.paths.get? path = item' at hplain ⊢
  cases hplain with
  | none => exact hslash
  | some halike => exact .some halike

theorem parentFault?_eq (parents : List Parent) :
    Parent.fault? document parents = Parent.fault? document' parents := by
  have hinstance : ∀ path,
      (document.findPath? path).isNone = (document'.findPath? path).isNone := by
    intro path
    have hitem := h.findPath?_rel path
    generalize document.findPath? path = item at hitem ⊢
    generalize document'.findPath? path = item' at hitem ⊢
    cases hitem <;> rfl
  unfold Parent.fault?
  simp only [hinstance]
  congr 1
  funext _
  congr 1
  funext parent
  have hitem := h.findPath?_rel parent.rootPath
  generalize document.findPath? parent.rootPath = item at hitem ⊢
  generalize document'.findPath? parent.rootPath = item' at hitem ⊢
  cases hitem with
  | none => rfl
  | some halike => simp only [halike.isIgnored_eq]

theorem resource_eq (instancePath : String) :
    document.resource instancePath = document'.resource instancePath := by
  unfold Document.resource
  refine (h.candidate_matches instancePath).bind_eq fun candidate candidate' halike => ?_
  simp only [halike.descriptor_eq h, h.parentFault?_eq]

theorem regions_eq (host : Option String) :
    Region.ofHost? host document.extensions = Region.ofHost? host document'.extensions := by
  unfold Region.ofHost?
  cases host.bind Region.keyword? with
  | none => rfl
  | some keyword =>
      simp only [Region.resolve, h.extensions _ (Extension.isRead_regionsName keyword)]

theorem outcome_eq : document.outcome = document'.outcome := by
  funext instancePath
  simp only [Document.outcome, h.resource_eq, h.regions_eq]

theorem selectedPaths_eq (selection : Selection) :
    document.selectedPaths selection = document'.selectedPaths selection := by
  rw [Document.selectedPaths, Document.selectedPaths, h.paths.names_eq]

theorem resources_eq (selection : Selection) :
    document.resources selection = document'.resources selection := by
  rw [Document.resources, Document.resources, Document.candidatePaths, Document.candidatePaths,
    h.selectedPaths_eq, h.outcome_eq]

/-! ## The rest of the result -/

theorem dataSource_eq : document.dataSource = document'.dataSource := by
  funext path
  have hitem := h.paths path
  unfold Document.dataSource
  generalize document.paths.get? path = item at hitem ⊢
  generalize document'.paths.get? path = item' at hitem ⊢
  cases hitem with
  | none => rfl
  | some halike => exact halike.dataSource_eq h path

theorem dataSources_eq (selection : Selection) :
    document.dataSources selection = document'.dataSources selection := by
  rw [Document.dataSources, Document.dataSources, h.selectedPaths_eq, h.dataSource_eq]

theorem headerParameters_eq : document.headerParameters = document'.headerParameters := by
  have hoccurrences : document.headerOccurrences = document'.headerOccurrences := by
    rw [Document.headerOccurrences, Document.headerOccurrences]
    refine flatMap_eq_of_forall₂ h.paths.sorted_forall₂ fun path path' hpath => ?_
    refine flatMap_eq_of_forall₂ hpath.2.operations_forall₂
      fun operation operation' hoperation => ?_
    refine filterMap_eq_of_forall₂ hoperation.2.parameters fun parameter parameter' halike => ?_
    rw [halike.location, halike.extensions.text?_eq, halike.name, halike.required]
  rw [Document.headerParameters, Document.headerParameters, hoccurrences]

theorem definitions_eq : Security.definitions document = Security.definitions document' := by
  have hentries : Shuffled True (fun entry entry' => entry'.1 = entry.1 ∧
      SecurityDeclaration.Alike entry.2 entry'.2)
      (document.securityDefinitions.sorted.filter fun entry => entry.2.type == Security.apiKeyType)
      (document'.securityDefinitions.sorted.filter fun entry =>
        entry.2.type == Security.apiKeyType) :=
    .filter (.of_forall₂ h.securityDefinitions.sorted_forall₂) fun entry entry' hboth => by
      rw [hboth.2.type]
  refine mapM_eq_of_forall₂ (hentries.forall₂ trivial) fun entry entry' hboth => ?_
  simp only [Security.classify, hboth.1, hboth.2.extensions.isSet_eq, hboth.2.location,
    hboth.2.parameterName]

theorem authentication_eq : document.authentication = document'.authentication := by
  have hglobal : Security.resolveGlobal document = Security.resolveGlobal document' := by
    funext known
    unfold Security.resolveGlobal
    rw [h.security]
  unfold Document.authentication
  rw [h.definitions_eq, hglobal]

theorem backend_eq : document.backend = document'.backend := by
  unfold Document.backend Document.servingHost
  rw [h.host, h.source, h.schemes, h.basePath]

/-- **Documents that are read alike have the same analysis.** -/
theorem analyse_eq (selection : Selection) :
    document.analyse selection = document'.analyse selection := by
  unfold Document.analyse
  rw [h.authentication_eq, h.resources_eq, h.dataSources_eq, h.backend_eq, h.headerParameters_eq]

end Document.Alike

end ResourceGraph
