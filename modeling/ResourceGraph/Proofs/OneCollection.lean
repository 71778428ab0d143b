import ResourceGraph.Proofs.Distinctness
import ResourceGraph.Proofs.RegionalCopy

/-!
# One resource for each collection

A collection may have any number of instance paths (`/v1/cdns/{id}`, `/v1/cdns/{key}`,
`/v1/cdns/{id}/`), and a run goes through all of them.  Nothing in a run remembers collections: that
only one of the paths is kept follows from the names.

* Name and host of a descriptor are read off the collection (`exists_root_of_resource_eq_ok`), and
  the regions are read off the host.  So all paths of a collection that pass their checks have the
  same names (`names_eq_of_findRoot_eq`), and at least one.
* Names are distinct, so of these paths at most one is kept (`instancePath_eq_of_rootPath_eq`).
* A path that passes its checks and is not kept has a name in common with an earlier resource.  If
  this is a resource of the same collection, an earlier path has been kept; otherwise no path of the
  collection can be kept from there on.

`Findings.Contends` describes the paths that only the first of these reasons can keep out of the
result.
-/

namespace ResourceGraph

/-! ## Names of a collection -/

/-- Descriptors with the same name and host are spread to descriptors with the same names. -/
theorem ResourceDescriptor.names_eq_of_spread_eq_ok {first second : ResourceDescriptor}
    {extensions : Extensions} {copies copies' : List ResourceDescriptor}
    (hname : first.name = second.name) (hhost : first.host = second.host)
    (hfirst : first.spread extensions = .ok copies)
    (hsecond : second.spread extensions = .ok copies') :
    copies.map ResourceDescriptor.name = copies'.map ResourceDescriptor.name := by
  rw [spread, hhost] at hfirst
  obtain ⟨regions, hregions, rfl⟩ := map_eq_ok.mp hfirst
  obtain ⟨regions', hregions', rfl⟩ := map_eq_ok.mp hsecond
  cases hregions.symm.trans hregions'
  cases regions with
  | none => simp [hname]
  | some regions => simp [inRegion, hname]

namespace Document

variable {document : Document} {selection : Selection} {findings : Findings}
  {path path' rootPath : String} {descriptor resource : ResourceDescriptor}
  {accepted accepted' : List ResourceDescriptor}

/-- The name and the host of a descriptor are read off its collection. -/
theorem exists_root_of_resource_eq_ok (h : document.resource path = .ok descriptor) :
    Path.findRoot document.declares path = .ok descriptor.rootPath ∧
      ∃ root create, document.paths.get? descriptor.rootPath = some root ∧
        root.post = some create ∧
        descriptor.name = root.resourceName descriptor.rootPath ∧
        descriptor.host = create.extensions.text? .resourceHost := by
  obtain ⟨candidate, hcandidate, hdescribed, -⟩ := resource_eq_ok_iff.mp h
  obtain ⟨hdescribes, hname, hhost, -⟩ := Candidate.descriptor_eq_ok_iff.mp hdescribed
  obtain ⟨hroot, -, hdeclared⟩ := candidate_eq_ok hcandidate
  rw [hdescribes.rootPath]
  exact ⟨hroot, candidate.root, candidate.create, hdeclared.root, hdeclared.create, hname, hhost⟩

/-- The resources that an accepted path gives belong to the collection of the path. -/
theorem findRoot_eq_of_accepted (h : document.outcome path = .accepted accepted)
    (hmem : resource ∈ accepted) :
    Path.findRoot document.declares path = .ok resource.rootPath := by
  obtain ⟨descriptor, hdescriptor, hcopies⟩ := exists_copies_of_accepted h hmem
  obtain ⟨hroot, -⟩ := exists_root_of_resource_eq_ok hdescriptor
  have hsame : resource.rootPath = descriptor.rootPath := by
    cases hcopies with
    | single => rfl
    | regional => rfl
  rw [hsame]
  exact hroot

/-- **The names of a path depend on its collection alone.** -/
theorem names_eq_of_findRoot_eq (h : document.outcome path = .accepted accepted)
    (h' : document.outcome path' = .accepted accepted')
    (hroot : Path.findRoot document.declares path = Path.findRoot document.declares path') :
    accepted.map ResourceDescriptor.name = accepted'.map ResourceDescriptor.name := by
  obtain ⟨descriptor, hdescriptor, hspread⟩ := outcome_eq_accepted_iff.mp h
  obtain ⟨descriptor', hdescriptor', hspread'⟩ := outcome_eq_accepted_iff.mp h'
  obtain ⟨hfound, root, create, hget, hcreate, hname, hhost⟩ :=
    exists_root_of_resource_eq_ok hdescriptor
  obtain ⟨hfound', root', create', hget', hcreate', hname', hhost'⟩ :=
    exists_root_of_resource_eq_ok hdescriptor'
  have hsame : descriptor.rootPath = descriptor'.rootPath :=
    Except.ok.inj ((hfound.symm.trans hroot).trans hfound')
  rw [← hsame] at hget' hname'
  cases hget.symm.trans hget'
  cases hcreate.symm.trans hcreate'
  exact ResourceDescriptor.names_eq_of_spread_eq_ok (hname.trans hname'.symm)
    (hhost.trans hhost'.symm) hspread hspread'

/-! ## Paths of a collection in a run -/

/-- No two resources of a run have the same name. -/
theorem eq_of_name_eq (h : document.resources selection = .ok findings)
    {first second : ResourceDescriptor} (hfirst : first ∈ findings.resources)
    (hsecond : second ∈ findings.resources) (hname : first.name = second.name) :
    first = second := by
  obtain ⟨entries, haccounts⟩ := exists_accounts h
  have hnodup := haccounts.ledger.nodup_names List.nodup_nil
  rw [List.nil_append, Ledger.names, ← haccounts.resources] at hnodup
  exact List.inj_on_of_nodup_map hnodup hfirst hsecond hname

/-- **At most one path of a collection is kept.** -/
theorem instancePath_eq_of_rootPath_eq (h : document.resources selection = .ok findings)
    {first second : ResourceDescriptor} (hfirst : first ∈ findings.resources)
    (hsecond : second ∈ findings.resources) (hroot : first.rootPath = second.rootPath) :
    first.instancePath = second.instancePath := by
  obtain ⟨accepted, houtcome, hmem, hkept⟩ := exists_accepted_of_mem_resources h hfirst
  obtain ⟨accepted', houtcome', hmem', -⟩ := exists_accepted_of_mem_resources h hsecond
  -- the name of the second resource is one that the path of the first one gives as well
  have hnames := names_eq_of_findRoot_eq houtcome houtcome' (by
    rw [findRoot_eq_of_accepted houtcome hmem, findRoot_eq_of_accepted houtcome' hmem', hroot])
  have hname : second.name ∈ accepted.map ResourceDescriptor.name :=
    hnames ▸ List.mem_map_of_mem hmem'
  obtain ⟨other, hother, hname⟩ := List.mem_map.mp hname
  rw [← hkept, List.mem_filter, beq_iff_eq] at hother
  have hsame : other = second := eq_of_name_eq h hother.1 hsecond hname
  rw [← hsame, hother.2]

end Document

/-- A path contends for a collection: it is a candidate of the collection that passes its checks,
and no earlier resource of another collection has one of its names. -/
structure Findings.Contends (findings : Findings) (document : Document) (selection : Selection)
    (rootPath path : String) : Prop where
  candidate : path ∈ document.candidatePaths selection
  root : Path.findRoot document.declares path = .ok rootPath
  free : ∃ accepted, document.outcome path = .accepted accepted ∧
    ∀ resource ∈ accepted, ∀ earlier ∈ findings.resources, earlier.instancePath < path →
      earlier.rootPath ≠ rootPath → earlier.name ≠ resource.name

section Run

variable {document : Document} {selection : Selection} {findings : Findings}
  {path rootPath : String}

/-- The path of a resource contends for its collection. -/
theorem Findings.contends_of_mem_resources (h : document.resources selection = .ok findings)
    {resource : ResourceDescriptor} (hmem : resource ∈ findings.resources) :
    findings.Contends document selection resource.rootPath resource.instancePath := by
  obtain ⟨accepted, houtcome, haccepted, hkept⟩ :=
    Document.exists_accepted_of_mem_resources h hmem
  refine ⟨Document.instancePath_mem_candidatePaths h hmem,
    Document.findRoot_eq_of_accepted houtcome haccepted, accepted, houtcome, ?_⟩
  intro other hother earlier hearlier hless hroot hname
  -- the other resource of the path is in the result, so it is the earlier one
  rw [← hkept, List.mem_filter, beq_iff_eq] at hother
  have hsame := Document.eq_of_name_eq h hearlier hother.1 hname
  rw [hsame, hother.2] at hless
  exact lt_irrefl _ hless

/-- A path that contends for a collection is kept, or an earlier path of the collection is. -/
theorem Findings.Contends.exists_mem_resources (h : document.resources selection = .ok findings)
    (hcontends : findings.Contends document selection rootPath path) :
    ∃ resource ∈ findings.resources, resource.rootPath = rootPath ∧
      resource.instancePath ≤ path := by
  obtain ⟨entries, haccounts⟩ := Document.exists_accounts h
  obtain ⟨verdict, hentry⟩ := haccounts.exists_entry hcontends.candidate
  obtain ⟨accepted, houtcome, hfree⟩ := hcontends.free
  rcases haccounts.kept_or_duplicate hentry houtcome with ⟨rfl, -⟩ | ⟨-, -, -, hclash⟩
  · -- the path is kept, and it has at least one descriptor
    obtain ⟨hne, hpaths, -⟩ := Document.outcome_eq_accepted houtcome
    obtain ⟨resource, hresource⟩ := List.exists_mem_of_ne_nil accepted hne
    have hroot := Document.findRoot_eq_of_accepted houtcome hresource
    rw [hcontends.root] at hroot
    have hkept : findings.resources.filter (fun other => other.instancePath == path) = accepted :=
      haccounts.filter_resources hentry
    refine ⟨resource, ?_, (Except.ok.inj hroot).symm, (hpaths resource hresource).le⟩
    rw [← hkept] at hresource
    exact List.mem_of_mem_filter hresource
  · -- the earlier resource with one of its names is one of the collection
    obtain ⟨resource, hresource, earlier, hearlier, hless, hname⟩ := hclash
    refine ⟨earlier, hearlier, ?_, hless.le⟩
    by_contra hroot
    exact hfree resource hresource earlier hearlier hless hroot hname

/-- **One collection gives one resource.**  Resources of the same collection have the same instance
path, and they are copies of its descriptor.  The path that is kept is the smallest one of those
that contend for the collection. -/
theorem Document.one_resource_per_collection
    (h : document.resources selection = .ok findings) :
    (∀ first ∈ findings.resources, ∀ second ∈ findings.resources,
      first.rootPath = second.rootPath →
        first.instancePath = second.instancePath ∧
        ∃ descriptor, document.resource first.instancePath = .ok descriptor ∧
          descriptor.Copies document.extensions first ∧
          descriptor.Copies document.extensions second) ∧
    ∀ rootPath path,
      (∃ resource ∈ findings.resources, resource.rootPath = rootPath ∧
        resource.instancePath = path) ↔
      findings.Contends document selection rootPath path ∧
        ∀ other, findings.Contends document selection rootPath other → path ≤ other := by
  constructor
  · intro first hfirst second hsecond hroot
    have hpath := instancePath_eq_of_rootPath_eq h hfirst hsecond hroot
    obtain ⟨accepted, houtcome, hmem, -⟩ := exists_accepted_of_mem_resources h hfirst
    obtain ⟨accepted', houtcome', hmem', -⟩ := exists_accepted_of_mem_resources h hsecond
    obtain ⟨descriptor, hdescriptor, hcopies⟩ := exists_copies_of_accepted houtcome hmem
    obtain ⟨descriptor', hdescriptor', hcopies'⟩ := exists_copies_of_accepted houtcome' hmem'
    rw [← hpath, hdescriptor] at hdescriptor'
    cases hdescriptor'
    exact ⟨hpath, descriptor, hdescriptor, hcopies, hcopies'⟩
  · intro rootPath path
    constructor
    · rintro ⟨resource, hmem, rfl, rfl⟩
      refine ⟨Findings.contends_of_mem_resources h hmem, fun other hother => ?_⟩
      obtain ⟨kept, hkept, hroot, hle⟩ := hother.exists_mem_resources h
      rwa [instancePath_eq_of_rootPath_eq h hkept hmem hroot] at hle
    · rintro ⟨hcontends, hleast⟩
      obtain ⟨resource, hmem, rfl, hle⟩ := hcontends.exists_mem_resources h
      have hpath := hleast _ (Findings.contends_of_mem_resources h hmem)
      exact ⟨resource, hmem, rfl, le_antisymm hle hpath⟩

end Run

namespace Sample

/-- Depots in two regions under four instance paths, the smallest of which cannot be read, between
cranes and trucks that have the same name. -/
def depots : Document :=
  { paths := [("/v1/trucks", collection []), ("/v1/trucks/{id}", readable),
      ("/v1/depots",
        collection [("x-terraform-resource-host", .text "depots.$\x7bregion\x7d.api.com")]),
      ("/v1/depots/{key}", readable), ("/v1/depots/{id}/", readable),
      ("/v1/depots/{id}", readable), ("/v1/depots/{code}", {}),
      ("/v1/cranes", collection [("x-terraform-resource-name", .text "trucks")]),
      ("/v1/cranes/{id}", readable)]
    extensions := [("x-terraform-resource-regions-region", .text "us, eu")] }

/-- The depots are copies of one descriptor, that of the smallest of their paths that can be
read. -/
theorem depots_one_resource :
    ∃ findings, depots.resources {} = .ok findings ∧
      findings.resources.map (fun resource => (resource.name, resource.instancePath)) =
        [("trucks_v1", "/v1/cranes/{id}"), ("depots_v1_us", "/v1/depots/{id}"),
          ("depots_v1_eu", "/v1/depots/{id}")] ∧
      (∃ descriptor, depots.resource "/v1/depots/{id}" = .ok descriptor ∧
        ∀ resource ∈ findings.resources, resource.rootPath = "/v1/depots" →
          descriptor.Copies depots.extensions resource) ∧
      findings.Contends depots {} "/v1/depots" "/v1/depots/{id}" ∧
      ∀ other, findings.Contends depots {} "/v1/depots" other → "/v1/depots/{id}" ≤ other := by
  have hrun : (depots.resources {}).toOption.map (fun findings =>
      findings.resources.map fun resource =>
        (resource.name, resource.instancePath, resource.rootPath)) =
      some [("trucks_v1", "/v1/cranes/{id}", "/v1/cranes"),
        ("depots_v1_us", "/v1/depots/{id}", "/v1/depots"),
        ("depots_v1_eu", "/v1/depots/{id}", "/v1/depots")] := by
    decide +kernel
  obtain ⟨findings, hfindings, hresult⟩ := exists_of_toOption_map_eq_some hrun
  obtain ⟨hcopies, hleast⟩ := Document.one_resource_per_collection hfindings
  have hdepot : ("depots_v1_us", "/v1/depots/{id}", "/v1/depots") ∈
      findings.resources.map fun resource =>
        (resource.name, resource.instancePath, resource.rootPath) := by
    simp [hresult]
  obtain ⟨depot, hmem, hfields⟩ := List.mem_map.mp hdepot
  simp only [Prod.mk.injEq] at hfields
  obtain ⟨-, hpath, hroot⟩ := hfields
  refine ⟨findings, hfindings, ?_, ?_, (hleast _ _).mp ⟨depot, hmem, hroot, hpath⟩⟩
  · have hnames := congrArg (List.map fun entry => (entry.1, entry.2.1)) hresult
    rwa [List.map_map] at hnames
  · obtain ⟨-, descriptor, hdescriptor, -, -⟩ := hcopies depot hmem depot hmem rfl
    rw [hpath] at hdescriptor
    refine ⟨descriptor, hdescriptor, fun resource hresource hsame => ?_⟩
    obtain ⟨-, found, hfound, -, hcopy⟩ :=
      hcopies depot hmem resource hresource (hroot.trans hsame.symm)
    rw [hpath, hdescriptor] at hfound
    cases hfound
    exact hcopy

end Sample

end ResourceGraph
