import ResourceGraph.Proofs.Origin

/-!
# Resources are grounded in the document

Everything that a resource says about its paths, its operations and its parents stands in the
document that it is derived from (`ResourceDescriptor.Grounded`).  Its instance path is one of the
selected paths, its collection path is the declared spelling of what stands there before the
parameter, each operation is the one declared under one of the two, and every parent can be looked
up.

This holds for every resource of a run, nested or not, and for its copies in all regions, because it
only speaks about what a resource takes over from its candidate.
-/

namespace ResourceGraph

/-! ## Operations -/

/-- A descriptor says what an operation that is declared under a path is like. -/
structure ResourceOperation.Describes (described : ResourceOperation) (operation : Operation)
    (document : Document) (method : Method) (path : String) : Prop where
  method_eq : described.method = method.name
  path_eq : described.path = path
  operationId : described.operationId = operation.operationId
  timeout : operation.timeout path = .ok described.timeout
  security : described.security =
    Security.requirementNames (operation.security.getD document.security)
  headerParameters : described.headerParameters = operation.configuredHeaders

section Operation

variable {operation : Operation} {document : Document} {method : Method} {path : String}

theorem Operation.descriptor_eq_ok_iff {described : ResourceOperation} :
    operation.descriptor document method path = .ok described ↔
      described.Describes operation document method path := by
  rw [Operation.descriptor, bind_eq_ok]
  constructor
  · rintro ⟨timeout, htimeout, hresult⟩
    cases hresult
    exact ⟨rfl, rfl, rfl, htimeout, rfl, rfl⟩
  · rintro ⟨hmethod, hpath, hoperationId, htimeout, hsecurity, hheaders⟩
    refine ⟨_, htimeout, ?_⟩
    cases described
    cases hmethod
    cases hpath
    cases hoperationId
    cases hsecurity
    cases hheaders
    rfl

/-- An operation that may be missing is described exactly if it is declared. -/
theorem Operation.optionalDescriptor_eq_ok_iff {operation : Option Operation}
    {described : Option ResourceOperation} :
    Operation.optionalDescriptor operation document method path = .ok described ↔
      Option.Rel (fun described operation => described.Describes operation document method path)
        described operation := by
  cases operation with
  | none => cases described <;> simp [Operation.optionalDescriptor]
  | some operation =>
      rw [Operation.optionalDescriptor, map_eq_ok]
      cases described <;> simp [Operation.descriptor_eq_ok_iff]

end Operation

/-! ## Look-ups -/

/-- A path is looked up as it stands and with a slash at its end. -/
theorem Document.isSome_findPath? {document : Document} {path : String} :
    (document.findPath? path).isSome ↔
      document.declares path ∨ document.declares (path ++ "/") := by
  rw [findPath?, declares, declares, Table.has, Table.has]
  cases document.paths.get? path <;> simp

/-- The collection path of a root: the root as it stands if it is declared, else without slashes. -/
def Document.collectionPath (document : Document) (root : String) : String :=
  if document.declares root then root else Path.trimSlashes root

/-- The collection path that is found for an instance path, read off its grammar. -/
theorem Document.findRoot_eq_collectionPath {document : Document} {path rootPath : String}
    (h : Path.findRoot document.declares path = .ok rootPath) :
    ∃ parts : Path.InstanceParts, parts.Proper ∧ path.toList = parts.text ∧
      rootPath = document.collectionPath (String.ofList parts.root) := by
  obtain ⟨hdeclared, root, hroot, hcases⟩ := Path.findRoot_eq_ok h
  obtain ⟨⟨parts, hparts, rfl⟩, -, -⟩ := Path.rootOf_eq_ok hroot
  obtain ⟨hproper, htext⟩ := Path.instanceParts?_eq_some_iff.mp hparts
  refine ⟨parts, hproper, htext, ?_⟩
  rcases hcases with rfl | ⟨hundeclared, rfl⟩
  · rw [collectionPath, if_pos hdeclared]
  · rw [collectionPath, if_neg (by simp [hundeclared])]

/-! ## Grounded resources -/

/-- The operations of a resource are those declared at its two paths, of which `root` and `item` are
the entries in the document. -/
structure ResourceDescriptor.OperatesOn (resource : ResourceDescriptor) (document : Document)
    (root item : PathItem) : Prop where
  get?_rootPath : document.paths.get? resource.rootPath = some root
  get?_instancePath : document.paths.get? resource.instancePath = some item
  create : ∃ create, root.post = some create ∧
    resource.operations.create.Describes create document .post resource.rootPath
  read : ∃ read, item.get = some read ∧
    resource.operations.read.Describes read document .get resource.instancePath
  update : Option.Rel (fun described update =>
    described.Describes update document .put resource.instancePath)
    resource.operations.update item.put
  delete : Option.Rel (fun described delete =>
    described.Describes delete document .delete resource.instancePath)
    resource.operations.delete item.delete

/-- A parent can be looked up, and what is found for its collection is not marked as left out. -/
structure Parent.Grounded (parent : Parent) (document : Document) : Prop where
  instancePath : document.declares parent.instancePath ∨
    document.declares (parent.instancePath ++ "/")
  rootPath : document.declares parent.rootPath ∨ document.declares (parent.rootPath ++ "/")
  kept : ∀ root create, document.findPath? parent.rootPath = some root →
    root.post = some create → create.extensions.isSet .excludeResource = false

/-- A resource is grounded in a document: its paths, its operations and its parents are declared. -/
structure ResourceDescriptor.Grounded (resource : ResourceDescriptor) (document : Document)
    (selection : Selection) : Prop where
  instance_declared : document.declares resource.instancePath
  instance_selected : selection.selects resource.instancePath
  instance_form : Path.isInstance resource.instancePath
  root_declared : document.declares resource.rootPath
  root_form : Path.isInstance resource.rootPath = false
  root_eq : ∃ parts : Path.InstanceParts, parts.Proper ∧
    resource.instancePath.toList = parts.text ∧
    resource.rootPath = document.collectionPath (String.ofList parts.root)
  operations : ∃ root item, resource.OperatesOn document root item
  parents_eq : resource.parents = Path.parents resource.rootPath
  parents : ∀ parent ∈ resource.parents, parent.Grounded document

theorem Candidate.Describes.operatesOn {candidate : Candidate} {document : Document}
    {resource : ResourceDescriptor} (h : candidate.Describes document resource)
    (hdeclared : candidate.DeclaredIn document) :
    resource.OperatesOn document candidate.root candidate.instanceItem where
  get?_rootPath := h.rootPath ▸ hdeclared.root
  get?_instancePath := h.instancePath ▸ hdeclared.instanceItem
  create := ⟨candidate.create, hdeclared.create,
    h.rootPath ▸ Operation.descriptor_eq_ok_iff.mp h.create⟩
  read := ⟨candidate.read, hdeclared.read,
    h.instancePath ▸ Operation.descriptor_eq_ok_iff.mp h.read⟩
  update := h.instancePath ▸ Operation.optionalDescriptor_eq_ok_iff.mp h.update
  delete := h.instancePath ▸ Operation.optionalDescriptor_eq_ok_iff.mp h.delete

/-- **Parents have no fault exactly if they are grounded.** -/
theorem Parent.fault?_eq_none_iff_grounded {document : Document} {parents : List Parent} :
    Parent.fault? document parents = none ↔ ∀ parent ∈ parents, parent.Grounded document := by
  rw [Parent.fault?_eq_none_iff]
  refine forall₂_congr fun parent _ => ⟨?_, ?_⟩
  · rintro ⟨hinstance, item, hitem, hkept⟩
    refine ⟨Document.isSome_findPath?.mp hinstance,
      Document.isSome_findPath?.mp (by simp [hitem]), ?_⟩
    intro root create hroot hcreate
    obtain rfl : item = root := Option.some.inj (hitem.symm.trans hroot)
    simpa [PathItem.isIgnored, hcreate] using hkept
  · rintro ⟨hinstance, hroot, hkept⟩
    obtain ⟨item, hitem⟩ := Option.isSome_iff_exists.mp (Document.isSome_findPath?.mpr hroot)
    refine ⟨Document.isSome_findPath?.mpr hinstance, item, hitem, ?_⟩
    cases hcreate : item.post with
    | none => simp [PathItem.isIgnored, hcreate]
    | some create => simpa [PathItem.isIgnored, hcreate] using hkept item create hitem hcreate

/-- **Every resource is grounded in the document**, whatever is selected, at whatever depth it is
nested and in whatever region. -/
theorem Document.resources_grounded {document : Document} {selection : Selection}
    {findings : Findings} (h : document.resources selection = .ok findings) :
    ∀ resource ∈ findings.resources, resource.Grounded document selection := by
  intro resource hmem
  obtain ⟨hinstance, hselected, hform⟩ :=
    mem_candidatePaths.mp (instancePath_mem_candidatePaths h hmem)
  obtain ⟨candidate, hcandidate, hdescribes, hfault⟩ := exists_candidate_of_mem_resources h hmem
  obtain ⟨hroot, -, hdeclared⟩ := candidate_eq_ok hcandidate
  rw [← hdescribes.rootPath] at hroot
  exact {
    instance_declared := hinstance
    instance_selected := hselected
    instance_form := hform
    root_declared := (Path.findRoot_eq_ok hroot).1
    root_form := Path.isInstance_findRoot hroot
    root_eq := findRoot_eq_collectionPath hroot
    operations := ⟨_, _, hdescribes.operatesOn hdeclared⟩
    parents_eq := by rw [hdescribes.parents, hdescribes.rootPath]
    parents := Parent.fault?_eq_none_iff_grounded.mp hfault }

namespace Sample

/-- Gardens, declared with a slash at the end, and beds nested under them in two regions. -/
def gardens : Document :=
  { paths := [("/v1/gardens/", collection []), ("/v1/gardens/{id}", readable),
      ("/v1/gardens/{id}/beds",
        collection [("x-terraform-resource-host", .text "beds.$\x7bregion\x7d.api.com")]),
      ("/v1/gardens/{id}/beds/{bed}", { readable with put := some {} })]
    extensions := [("x-terraform-resource-regions-region", .text "us, eu")] }

/-- The beds of one region are grounded: their parent is declared with a slash, and they are updated
but never deleted. -/
theorem gardens_grounded : ∃ findings bed, gardens.resources {} = .ok findings ∧
    bed ∈ findings.resources ∧ bed.name = "gardens_v1_beds_eu" ∧ bed.Grounded gardens {} := by
  have hrun : (gardens.resources {}).toOption.map (fun findings =>
      findings.resources.map ResourceDescriptor.name) =
      some ["gardens_v1", "gardens_v1_beds_us", "gardens_v1_beds_eu"] := by
    decide +kernel
  obtain ⟨findings, hfindings, hnames⟩ := exists_of_toOption_map_eq_some hrun
  obtain ⟨bed, hbed, hname⟩ := List.mem_map.mp
    (show "gardens_v1_beds_eu" ∈ findings.resources.map ResourceDescriptor.name by simp [hnames])
  exact ⟨findings, bed, hfindings, hbed, hname, Document.resources_grounded hfindings bed hbed⟩

end Sample

end ResourceGraph
