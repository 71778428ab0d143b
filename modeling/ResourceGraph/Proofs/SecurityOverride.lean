import ResourceGraph.Proofs.Grounding
import ResourceGraph.Proofs.HardFailure
import ResourceGraph.Proofs.Listing
import ResourceGraph.Proofs.Marking
import ResourceGraph.Proofs.RequiredSchemes

/-!
# What the required schemes decide

A document requires schemes, and an operation may require others in their place.  What the document
requires is read where an operation is described, and nowhere else.

Two runs are compared here, on documents that differ in what they require.  All that is found is
`unsecured`: the schemes of its operations are taken out.  Nothing else of a descriptor can be told
apart then, so every stage commutes with taking the schemes out: the description of a path
(`described_requiring`), its outcome (`outcome_requiring`), one step of a run
(`Findings.record_unsecured`) and all of them (`Findings.foldlM_record_unsecured`).

The schemes that are taken out are those that the operation lists itself, if it lists any or says
that there are none, and those of the document if it says nothing (`Operation.SecuredBy`).
-/

namespace ResourceGraph

/-! ## Schemes of operations -/

/-- One scheme stands in some requirements before the other one does. -/
def Security.ComesBefore (requirements : List SecurityRequirement) (earlier later : String) : Prop :=
  (requirements.flatten.map Prod.fst).idxOf earlier <
    (requirements.flatten.map Prod.fst).idxOf later

/-- Names of schemes are the flattening of some requirements: the schemes of all of them, each once,
in the order in which they come first. -/
structure Security.Flattens (requirements : List SecurityRequirement) (names : List String) :
    Prop where
  mem_iff : ∀ name, name ∈ names ↔ ∃ requirement ∈ requirements, Table.has requirement name
  order : names.Pairwise (ComesBefore requirements)

/-- An operation is protected by what it requires itself, if it says so, even that it requires
nothing, and otherwise by what the document requires. -/
structure Operation.SecuredBy (operation : Operation) (document : Document) (names : List String) :
    Prop where
  own : ∀ requirements, operation.security = some requirements →
    Security.Flattens requirements names
  inherited : operation.security = none → Security.Flattens document.security names

/-- The operations of a resource are protected as those declared in two path items are. -/
structure ResourceOperations.SecuredIn (operations : ResourceOperations) (document : Document)
    (root item : PathItem) : Prop where
  create : ∃ create, root.post = some create ∧
    create.SecuredBy document operations.create.security
  read : ∃ read, item.get = some read ∧ read.SecuredBy document operations.read.security
  update : Option.Rel (fun described update => update.SecuredBy document described.security)
    operations.update item.put
  delete : Option.Rel (fun described delete => delete.SecuredBy document described.security)
    operations.delete item.delete

/-- The operations of a resource are protected as those declared at its two paths. -/
def ResourceDescriptor.SecuredIn (resource : ResourceDescriptor) (document : Document) : Prop :=
  ∃ root item, document.paths.get? resource.rootPath = some root ∧
    document.paths.get? resource.instancePath = some item ∧
      resource.operations.SecuredIn document root item

/-- Reading a data source is protected as it is declared at its path. -/
def DataSourceDescriptor.SecuredIn (dataSource : DataSourceDescriptor) (document : Document) :
    Prop :=
  ∃ item read, document.paths.get? dataSource.path = some item ∧ item.get = some read ∧
    read.SecuredBy document dataSource.read.security

/-! ## Flattened requirements -/

/-- There is one flattening of some requirements. -/
theorem Security.Flattens.eq {requirements : List SecurityRequirement} {names other : List String}
    (h : Flattens requirements names) (hother : Flattens requirements other) : names = other := by
  have : Std.Irrefl (ComesBefore requirements) := ⟨fun _ => Nat.lt_irrefl _⟩
  have : Std.Antisymm (ComesBefore requirements) :=
    ⟨fun _ _ hbefore hafter => absurd hafter (Nat.lt_asymm hbefore)⟩
  exact h.order.eq_of_mem_iff hother.order fun name =>
    (h.mem_iff name).trans (hother.mem_iff name).symm

theorem Security.flattens_requirementNames (requirements : List SecurityRequirement) :
    Flattens requirements (requirementNames requirements) := by
  rw [requirementNames_eq_eraseDups]
  refine ⟨fun name => ?_, pairwise_eraseDups _⟩
  have hrequires : ({ security := requirements } : Document).Requires name ↔
      name ∈ requirements.flatten.map Prod.fst := Document.requires_iff
  rw [List.mem_eraseDups, ← hrequires]
  exact Iff.rfl

theorem ResourceOperation.Describes.securedBy {described : ResourceOperation}
    {operation : Operation} {document : Document} {method : Method} {path : String}
    (h : described.Describes operation document method path) :
    operation.SecuredBy document described.security where
  own requirements hown := by
    rw [h.security, hown]
    exact Security.flattens_requirementNames requirements
  inherited hnone := by
    rw [h.security, hnone]
    exact Security.flattens_requirementNames document.security

/-! ## Taking the schemes out -/

/-- An operation without its schemes. -/
def ResourceOperation.unsecured (operation : ResourceOperation) : ResourceOperation :=
  { operation with security := [] }

/-- A resource without the schemes of its operations. -/
def ResourceDescriptor.unsecured (resource : ResourceDescriptor) : ResourceDescriptor :=
  { resource with
    operations := {
      create := resource.operations.create.unsecured
      read := resource.operations.read.unsecured
      update := resource.operations.update.map ResourceOperation.unsecured
      delete := resource.operations.delete.map ResourceOperation.unsecured } }

/-- A data source without the schemes of reading it. -/
def DataSourceDescriptor.unsecured (dataSource : DataSourceDescriptor) : DataSourceDescriptor :=
  { dataSource with read := dataSource.read.unsecured }

/-- Findings without the schemes of operations. -/
def Findings.unsecured (findings : Findings) : Findings :=
  { findings with resources := findings.resources.map ResourceDescriptor.unsecured }

/-- Listings without the schemes of operations. -/
def Listings.unsecured (listings : Listings) : Listings :=
  { listings with dataSources := listings.dataSources.map DataSourceDescriptor.unsecured }

/-- The document with another list of required schemes. -/
def Document.requiring (document : Document) (required : List SecurityRequirement) : Document :=
  { document with security := required }

@[simp] theorem ResourceDescriptor.name_unsecured (resource : ResourceDescriptor) :
    resource.unsecured.name = resource.name := rfl

@[simp] theorem DataSourceDescriptor.name_unsecured (dataSource : DataSourceDescriptor) :
    dataSource.unsecured.name = dataSource.name := rfl

/-! ## Descriptions -/

section Descriptions

variable {document : Document} {required : List SecurityRequirement}

theorem Operation.descriptor_requiring (operation : Operation) (method : Method) (path : String) :
    Matches (· = ·) (fun described other => other.unsecured = described.unsecured)
      (operation.descriptor document method path)
      (operation.descriptor (document.requiring required) method path) := by
  unfold Operation.descriptor
  cases operation.timeout path with
  | error rejection => exact .error rfl
  | ok timeout => exact .ok rfl

theorem Operation.optionalDescriptor_requiring (operation : Option Operation) (method : Method)
    (path : String) :
    Matches (· = ·) (fun described other =>
        other.map ResourceOperation.unsecured = described.map ResourceOperation.unsecured)
      (Operation.optionalDescriptor operation document method path)
      (Operation.optionalDescriptor operation (document.requiring required) method path) := by
  cases operation with
  | none => exact .ok rfl
  | some operation =>
      exact (operation.descriptor_requiring method path).map fun _ _ hother => congrArg some hother

/-- A candidate is described in the same way, up to the schemes of its operations. -/
theorem Candidate.descriptor_requiring (candidate : Candidate) :
    Matches (· = ·) (fun descriptor other => other.unsecured = descriptor.unsecured)
      (candidate.descriptor document) (candidate.descriptor (document.requiring required)) := by
  unfold Candidate.descriptor
  refine (candidate.create.descriptor_requiring .post _).bind fun create create' hcreate => ?_
  refine (candidate.read.descriptor_requiring .get _).bind fun read read' hread => ?_
  refine (Operation.optionalDescriptor_requiring _ .put _).bind fun update update' hupdate => ?_
  refine (Operation.optionalDescriptor_requiring _ .delete _).bind fun delete delete' hdelete => ?_
  refine .ok ?_
  simp only [ResourceDescriptor.unsecured, hcreate, hread, hupdate, hdelete]

/-- A path lists the same items, up to the schemes of reading them. -/
theorem PathItem.dataSource_requiring (item : PathItem) (path : String) :
    Matches (· = ·) (fun dataSource other => other.unsecured = dataSource.unsecured)
      (item.dataSource document path) (item.dataSource (document.requiring required) path) := by
  unfold PathItem.dataSource
  cases item.listedItems.mapError (Rejection.mk path) with
  | error rejection => exact .error rfl
  | ok listed =>
      refine (listed.1.descriptor_requiring .get path).bind fun read read' hread => .ok ?_
      simp only [DataSourceDescriptor.unsecured, hread]

namespace Document

theorem described_requiring (path : String) :
    Matches (· = ·) (fun descriptor other => other.unsecured = descriptor.unsecured)
      (document.described path) ((document.requiring required).described path) := by
  -- what a path is paired with is read off the paths alone
  have hcandidate : (document.requiring required).candidate path = document.candidate path := rfl
  rw [described, described, hcandidate]
  cases document.candidate path with
  | error rejection => exact .error rfl
  | ok candidate => exact candidate.descriptor_requiring

theorem dataSource_requiring (path : String) :
    Matches (· = ·) (fun dataSource other => other.unsecured = dataSource.unsecured)
      (document.dataSource path) ((document.requiring required).dataSource path) := by
  have hitem : (document.requiring required).paths.get? path = document.paths.get? path := rfl
  unfold Document.dataSource
  rw [hitem]
  cases document.paths.get? path with
  | none => exact .error rfl
  | some item => exact item.dataSource_requiring path

end Document

/-! ## Outcomes -/

theorem ResourceDescriptor.spread_unsecured (descriptor : ResourceDescriptor)
    (extensions : Extensions) : descriptor.unsecured.spread extensions =
      (descriptor.spread extensions).map (List.map unsecured) :=
  spread_change rfl fun _ => rfl

/-- What becomes of a description is the same if its schemes are taken out first. -/
theorem Document.outcome_map_unsecured {path : String} {descriptor : ResourceDescriptor}
    (h : document.described path = .ok descriptor) :
    (document.outcome path).map ResourceDescriptor.unsecured =
      match Parent.fault? document descriptor.unsecured.parents with
      | some cause => .rejected ⟨path, cause⟩
      | none => match descriptor.unsecured.spread document.extensions with
        | .error error => .failed error
        | .ok resources => .accepted resources := by
  have hparents : descriptor.unsecured.parents = descriptor.parents := rfl
  rw [outcome_eq_of_described_eq_ok h, hparents, descriptor.spread_unsecured]
  cases Parent.fault? document descriptor.parents with
  | some cause => rfl
  | none => cases descriptor.spread document.extensions <;> rfl

/-- **What becomes of an instance path** is the same, up to the schemes of its operations. -/
theorem Document.outcome_requiring (path : String) :
    ((document.requiring required).outcome path).map ResourceDescriptor.unsecured =
      (document.outcome path).map ResourceDescriptor.unsecured := by
  have hdescribed : Matches (· = ·) (fun descriptor other => other.unsecured = descriptor.unsecured)
      (document.described path) ((document.requiring required).described path) :=
    document.described_requiring path
  generalize hfirst : document.described path = first at hdescribed
  generalize hsecond : (document.requiring required).described path = second at hdescribed
  cases hdescribed with
  | error herror =>
      rw [outcome_eq_of_described_eq_error hfirst, outcome_eq_of_described_eq_error hsecond, herror]
  | ok hsame =>
      rw [outcome_map_unsecured hfirst, outcome_map_unsecured hsecond, hsame]
      rfl

end Descriptions

/-! ## Runs -/

/-- **One step of a run.**  Names are all that is looked at in what has been found. -/
theorem Findings.record_unsecured (findings : Findings) (path : String) (outcome : Outcome) :
    (findings.record path outcome).map unsecured =
      findings.unsecured.record path (outcome.map ResourceDescriptor.unsecured) := by
  cases outcome with
  | failed error => rfl
  | rejected rejection => rfl
  | accepted resources =>
      have hclash : findings.unsecured.clash? (resources.map ResourceDescriptor.unsecured) =
          findings.clash? resources := by
        simp [clash?, unsecured, Function.comp_def]
      simp only [record, Outcome.map, hclash]
      cases findings.clash? resources with
      | none => simp [Except.map, unsecured]
      | some name => cases resources <;> rfl

/-- **A whole run.**  The schemes can be taken out of what is found or out of each outcome. -/
theorem Findings.foldlM_record_unsecured (outcomes : String → Outcome) (paths : List String)
    (findings : Findings) :
    (paths.foldlM (fun (findings : Findings) path => findings.record path (outcomes path))
        findings).map unsecured =
      paths.foldlM (fun (findings : Findings) path =>
        findings.record path ((outcomes path).map ResourceDescriptor.unsecured))
        findings.unsecured := by
  induction paths generalizing findings with
  | nil => rfl
  | cons path rest ih =>
      rw [List.foldlM_cons, List.foldlM_cons, ← findings.record_unsecured]
      cases findings.record path (outcomes path) with
      | error error => rfl
      | ok next => exact ih next

theorem Listings.record_unsecured (listings : Listings) (path : String)
    (result : Except Rejection DataSourceDescriptor) :
    (listings.record path result).unsecured =
      listings.unsecured.record path (result.map DataSourceDescriptor.unsecured) := by
  cases result with
  | error rejection => rfl
  | ok dataSource =>
      have htakes : listings.unsecured.takes dataSource.name = listings.takes dataSource.name := by
        simp [takes, unsecured, Function.comp_def]
      simp only [record, Except.map, DataSourceDescriptor.name_unsecured, htakes]
      split
      · rfl
      · simp [unsecured]

theorem Listings.foldl_record_unsecured (results : String → Except Rejection DataSourceDescriptor)
    (paths : List String) (listings : Listings) :
    (paths.foldl (fun (listings : Listings) path => listings.record path (results path))
        listings).unsecured =
      paths.foldl (fun (listings : Listings) path =>
        listings.record path ((results path).map DataSourceDescriptor.unsecured))
        listings.unsecured :=
  (List.foldl_hom unsecured fun listings path =>
    (listings.record_unsecured path (results path)).symm).symm

namespace Document

variable {document other : Document} {required : List SecurityRequirement}
  {selection : Selection} {findings : Findings}

theorem resources_requiring (document : Document) (required : List SecurityRequirement)
    (selection : Selection) :
    ((document.requiring required).resources selection).map Findings.unsecured =
      (document.resources selection).map Findings.unsecured := by
  unfold resources
  rw [Findings.foldlM_record_unsecured, Findings.foldlM_record_unsecured]
  simp only [outcome_requiring]
  -- the candidates of a document are read off its paths, which are the same
  rfl

theorem dataSources_requiring (document : Document) (required : List SecurityRequirement)
    (selection : Selection) :
    ((document.requiring required).dataSources selection).unsecured =
      (document.dataSources selection).unsecured := by
  have hsource (path : String) : ((document.requiring required).dataSource path).map
      DataSourceDescriptor.unsecured =
        (document.dataSource path).map DataSourceDescriptor.unsecured :=
    ((document.dataSource_requiring path).map_eq fun _ _ hsame => hsame.symm).symm
  unfold dataSources
  rw [Listings.foldl_record_unsecured, Listings.foldl_record_unsecured]
  simp only [hsource]
  rfl

/-! ## Required schemes -/

/-- Every operation of a resource is protected as it is declared, in whatever region. -/
theorem resources_securedIn (h : document.resources selection = .ok findings)
    {resource : ResourceDescriptor} (hmem : resource ∈ findings.resources) :
    resource.SecuredIn document := by
  obtain ⟨candidate, hcandidate, hdescribes, -⟩ := exists_candidate_of_mem_resources h hmem
  have hoperates : resource.OperatesOn document candidate.root candidate.instanceItem :=
    hdescribes.operatesOn (candidate_eq_ok hcandidate).2.2
  obtain ⟨create, hcreate, hcreated⟩ := hoperates.create
  obtain ⟨read, hread, hreading⟩ := hoperates.read
  refine ⟨candidate.root, candidate.instanceItem, hoperates.get?_rootPath,
    hoperates.get?_instancePath, ⟨create, hcreate, hcreated.securedBy⟩,
    ⟨read, hread, hreading.securedBy⟩, ?_, ?_⟩
  · exact rel_imp hoperates.update fun _ _ hupdate => hupdate.securedBy
  · exact rel_imp hoperates.delete fun _ _ hdelete => hdelete.securedBy

theorem dataSources_securedIn {dataSource : DataSourceDescriptor}
    (hmem : dataSource ∈ (document.dataSources selection).dataSources) :
    dataSource.SecuredIn document := by
  have hfound := (document.covers_dataSources selection).found dataSource hmem
  unfold Document.dataSource at hfound
  split at hfound
  · cases hfound
  · next item hitem =>
      obtain ⟨⟨read, items⟩, hlisted, hnext⟩ := bind_eq_ok.mp hfound
      obtain ⟨operation, hoperation, hresult⟩ := bind_eq_ok.mp hnext
      have hread : dataSource.read = operation :=
        congrArg DataSourceDescriptor.read (Except.ok.inj hresult).symm
      refine ⟨item, read, hitem, PathItem.get_of_listedItems (mapError_eq_ok.mp hlisted), ?_⟩
      rw [hread]
      exact (Operation.descriptor_eq_ok_iff.mp hoperation).securedBy

/-- **Required schemes protect operations, and decide nothing else.**  Let two documents differ in
nothing but the schemes that they require.  Looking for resources fails for both with the same
error, or finds the same resources and rejects the same paths for the same reasons, and so it is
with the data sources, up to the schemes of the operations.  These are, for each operation on its
own, the schemes that the operation requires itself, if it says so, even that it requires nothing,
and otherwise those of the document. -/
theorem security_overridden (h : other = { document with security := other.security })
    (selection : Selection) :
    (other.resources selection).map Findings.unsecured =
      (document.resources selection).map Findings.unsecured ∧
    (other.dataSources selection).unsecured = (document.dataSources selection).unsecured ∧
    ∀ either ∈ [document, other],
      (∀ findings, either.resources selection = .ok findings →
        ∀ resource ∈ findings.resources, resource.SecuredIn either) ∧
      ∀ dataSource ∈ (either.dataSources selection).dataSources, dataSource.SecuredIn either := by
  have hother : other = document.requiring other.security := h
  refine ⟨?_, ?_, fun either _ => ⟨fun findings hfindings resource => ?_, fun dataSource => ?_⟩⟩
  · rw [hother]
    exact resources_requiring document _ selection
  · rw [hother]
    exact dataSources_requiring document _ selection
  · exact resources_securedIn hfindings
  · exact dataSources_securedIn

end Document

/-! ## Clinics -/

namespace Sample

/-- Clinics in two regions, where admission requires a token, reading requires nothing, and an
update says nothing about what it requires. -/
def clinics (required : List SecurityRequirement) : Document :=
  { paths := [
      ("/v1/clinics", { post := some { creation [("x-terraform-resource-host",
          .text "clinics.$\x7bregion\x7d.api.com")] with security := some [[("token", [])]] } }),
      ("/v1/clinics/{id}", { get := some { security := some [] }, put := some {} })]
    extensions := [("x-terraform-resource-regions-region", .text "us, eu")]
    security := required }

/-- Where the clinics are found. -/
def clinicPlaces (findings : Findings) : List (String × String × String) :=
  findings.resources.map fun resource =>
    (resource.name, resource.rootPath, resource.instancePath)

theorem clinicPlaces_unsecured (findings : Findings) :
    clinicPlaces findings.unsecured = clinicPlaces findings := by
  rw [clinicPlaces, Findings.unsecured, List.map_map]
  rfl

/-- A badge that all clinics require is asked for when a clinic of one region is updated, and
neither when it is admitted nor when it is read. -/
theorem clinics_security_overridden : ∃ findings found clinic,
    (clinics []).resources {} = .ok findings ∧
    (clinics [[("badge", [])]]).resources {} = .ok found ∧
    found.unsecured = findings.unsecured ∧ clinic ∈ found.resources ∧
    clinic.name = "clinics_v1_eu" ∧ clinic.operations.create.security = ["token"] ∧
    clinic.operations.read.security = [] ∧
    clinic.operations.update.map ResourceOperation.security = some ["badge"] := by
  have hrun : ((clinics []).resources {}).toOption.map clinicPlaces =
      some [("clinics_v1_us", "/v1/clinics", "/v1/clinics/{id}"),
        ("clinics_v1_eu", "/v1/clinics", "/v1/clinics/{id}")] := by
    decide +kernel
  obtain ⟨findings, hfindings, hplaces⟩ := exists_of_toOption_map_eq_some hrun
  obtain ⟨hresources, -, hsecured⟩ := @Document.security_overridden (clinics [])
    (clinics [[("badge", [])]]) rfl {}
  rw [hfindings] at hresources
  obtain ⟨found, hfound, hsame⟩ := map_eq_ok.mp hresources
  have hfoundPlaces : clinicPlaces found = clinicPlaces findings := by
    rw [← clinicPlaces_unsecured, hsame, clinicPlaces_unsecured]
  rw [hplaces] at hfoundPlaces
  obtain ⟨clinic, hmem, hplace⟩ : ∃ clinic ∈ found.resources,
      (clinic.name, clinic.rootPath, clinic.instancePath) =
        ("clinics_v1_eu", "/v1/clinics", "/v1/clinics/{id}") :=
    List.mem_map.mp (show _ ∈ clinicPlaces found by simp [hfoundPlaces])
  obtain ⟨hname, hrootPath, hinstancePath⟩ : clinic.name = "clinics_v1_eu" ∧
      clinic.rootPath = "/v1/clinics" ∧ clinic.instancePath = "/v1/clinics/{id}" := by
    simpa using hplace
  obtain ⟨root, item, hroot, hitem, hoperations⟩ :=
    (hsecured _ (by simp)).1 found hfound clinic hmem
  rw [hrootPath] at hroot
  rw [hinstancePath] at hitem
  cases hroot
  cases hitem
  obtain ⟨create, hcreate, hcreated⟩ := hoperations.create
  obtain ⟨read, hread, hreading⟩ := hoperations.read
  cases hcreate
  cases hread
  have hupdate := hoperations.update
  refine ⟨findings, found, clinic, hfindings, hfound, hsame, hmem, hname, ?_, ?_, ?_⟩
  · exact (hcreated.own _ rfl).eq (Security.flattens_requirementNames _)
  · exact (hreading.own _ rfl).eq (Security.flattens_requirementNames _)
  · generalize clinic.operations.update = update at hupdate ⊢
    cases hupdate with
    | some hupdated =>
        exact congrArg some ((hupdated.inherited rfl).eq (Security.flattens_requirementNames _))

end Sample

end ResourceGraph
