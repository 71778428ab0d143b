import ResourceGraph.Proofs.Accounting

/-!
# Where a resource comes from

Every resource of a run goes back to the candidate of its instance path (`exists_origin`).  It is
the descriptor of this candidate, or the copy of it in one of the regions that its host serves.  A
copy has a name, a host and a region of its own and takes over all the rest (`Describes.inRegion`),
so what holds of the rest is shown for the descriptors of candidates alone.
-/

namespace ResourceGraph

/-! ## Descriptors -/

/-- What a resource takes over from its candidate, in whatever region. -/
structure Candidate.Describes (candidate : Candidate) (document : Document)
    (resource : ResourceDescriptor) : Prop where
  rootPath : resource.rootPath = candidate.rootPath
  instancePath : resource.instancePath = candidate.instancePath
  identifier : resource.identifier = candidate.identifier
  properties : resource.properties =
    candidate.schema.payloadProperties (some candidate.identifier)
  create : candidate.create.descriptor document .post candidate.rootPath =
    .ok resource.operations.create
  read : candidate.read.descriptor document .get candidate.instancePath =
    .ok resource.operations.read
  update : Operation.optionalDescriptor candidate.instanceItem.put document .put
    candidate.instancePath = .ok resource.operations.update
  delete : Operation.optionalDescriptor candidate.instanceItem.delete document .delete
    candidate.instancePath = .ok resource.operations.delete
  parents : resource.parents = Path.parents candidate.rootPath
  ignored : resource.ignored = candidate.root.isIgnored
  computedOnly : resource.computedOnly = candidate.computedOnly

namespace Candidate

variable {candidate : Candidate} {document : Document} {descriptor resource : ResourceDescriptor}

/-- The descriptor of a candidate, field by field. -/
theorem descriptor_eq_ok_iff : candidate.descriptor document = .ok descriptor ↔
    candidate.Describes document descriptor ∧
      descriptor.name = candidate.root.resourceName candidate.rootPath ∧
      descriptor.host = candidate.create.extensions.text? .resourceHost ∧
      descriptor.region = none := by
  constructor
  · intro h
    obtain ⟨create, hcreate, hnext⟩ := bind_eq_ok.mp h
    obtain ⟨read, hread, hnext⟩ := bind_eq_ok.mp hnext
    obtain ⟨update, hupdate, hnext⟩ := bind_eq_ok.mp hnext
    obtain ⟨delete, hdelete, hresult⟩ := bind_eq_ok.mp hnext
    cases hresult
    exact ⟨⟨rfl, rfl, rfl, rfl, hcreate, hread, hupdate, hdelete, rfl, rfl, rfl⟩, rfl, rfl, rfl⟩
  · rintro ⟨hdescribes, hname, hhost, hregion⟩
    refine bind_eq_ok.mpr ⟨_, hdescribes.create, bind_eq_ok.mpr ⟨_, hdescribes.read,
      bind_eq_ok.mpr ⟨_, hdescribes.update, bind_eq_ok.mpr ⟨_, hdescribes.delete, ?_⟩⟩⟩⟩
    obtain ⟨hrootPath, hinstancePath, hidentifier, hproperties, -, -, -, -, hparents, hignored,
      hcomputedOnly⟩ := hdescribes
    cases descriptor
    cases hname
    cases hrootPath
    cases hinstancePath
    cases hhost
    cases hregion
    cases hidentifier
    cases hproperties
    cases hparents
    cases hignored
    cases hcomputedOnly
    rfl

theorem Describes.inRegion (h : candidate.Describes document resource) (region : String) :
    candidate.Describes document (resource.inRegion region) :=
  ⟨h.rootPath, h.instancePath, h.identifier, h.properties, h.create, h.read, h.update, h.delete,
    h.parents, h.ignored, h.computedOnly⟩

end Candidate

/-! ## Parents -/

/-- **Sound parents** are declared, and their collections are not marked as left out. -/
theorem Parent.fault?_eq_none_iff {document : Document} {parents : List Parent} :
    Parent.fault? document parents = none ↔
      ∀ parent ∈ parents, (document.findPath? parent.instancePath).isSome ∧
        ∃ item, document.findPath? parent.rootPath = some item ∧ item.isIgnored = false := by
  rw [fault?, Option.orElse_eq_none, List.findSome?_eq_none_iff, List.findSome?_eq_none_iff,
    ← forall₂_and]
  refine forall₂_congr fun parent _ => and_congr ?_ ?_
  · cases document.findPath? parent.instancePath <;> simp
  · cases document.findPath? parent.rootPath <;> simp

/-! ## Origins -/

/-- A resource is a descriptor whose host serves a single region, or the copy of a descriptor in one
of the regions that its host serves. -/
inductive ResourceDescriptor.Copies (extensions : Extensions) (descriptor : ResourceDescriptor) :
    ResourceDescriptor → Prop
  | single (hhost : Region.ofHost? descriptor.host extensions = .ok none) :
      Copies extensions descriptor descriptor
  | regional {regions : List String} {region : String}
      (hhost : Region.ofHost? descriptor.host extensions = .ok (some regions))
      (hregion : region ∈ regions) : Copies extensions descriptor (descriptor.inRegion region)

theorem Candidate.Describes.of_copies {candidate : Candidate} {document : Document}
    {descriptor resource : ResourceDescriptor} (h : candidate.Describes document descriptor)
    (hcopies : descriptor.Copies document.extensions resource) :
    candidate.Describes document resource := by
  cases hcopies with
  | single => exact h
  | regional => exact h.inRegion _

namespace Document

variable {document : Document} {selection : Selection} {findings : Findings} {path : String}
  {descriptor resource : ResourceDescriptor}

theorem resource_eq_ok_iff : document.resource path = .ok descriptor ↔
    ∃ candidate, document.candidate path = .ok candidate ∧
      candidate.descriptor document = .ok descriptor ∧
      Parent.fault? document descriptor.parents = none := by
  rw [Document.resource, bind_eq_ok]
  refine exists_congr fun candidate => and_congr_right fun _ => ?_
  rw [bind_eq_ok]
  constructor
  · rintro ⟨described, hdescribed, hresult⟩
    split at hresult
    · cases hresult
    · next hfault =>
        cases hresult
        exact ⟨hdescribed, hfault⟩
  · rintro ⟨hdescribed, hfault⟩
    exact ⟨descriptor, hdescribed, by rw [hfault]; rfl⟩

theorem exists_copies_of_accepted {resources : List ResourceDescriptor}
    (h : document.outcome path = .accepted resources) (hmem : resource ∈ resources) :
    ∃ descriptor, document.resource path = .ok descriptor ∧
      descriptor.Copies document.extensions resource := by
  unfold outcome at h
  split at h
  · cases h
  next descriptor hdescriptor =>
  refine ⟨descriptor, hdescriptor, ?_⟩
  split at h
  · cases h
  · next hhost =>
      cases h
      obtain rfl := List.mem_singleton.mp hmem
      exact .single hhost
  · next regions hhost =>
      cases h
      obtain ⟨region, hregion, rfl⟩ := List.mem_map.mp hmem
      exact .regional hhost hregion

/-- The paths of the resources of a run are candidate paths. -/
theorem instancePath_mem_candidatePaths (h : document.resources selection = .ok findings)
    (hmem : resource ∈ findings.resources) :
    resource.instancePath ∈ document.candidatePaths selection := by
  obtain ⟨entries, haccounts⟩ := exists_accounts h
  obtain ⟨verdict, hentry, -⟩ := haccounts.exists_entry_of_mem_resources hmem
  exact haccounts.mem_candidatePaths hentry

/-- **Every resource has an origin**: a candidate with sound parents, whose descriptor it copies. -/
theorem exists_origin (h : document.resources selection = .ok findings)
    (hmem : resource ∈ findings.resources) :
    ∃ candidate descriptor, document.candidate resource.instancePath = .ok candidate ∧
      candidate.descriptor document = .ok descriptor ∧
      Parent.fault? document descriptor.parents = none ∧
      descriptor.Copies document.extensions resource := by
  obtain ⟨entries, haccounts⟩ := exists_accounts h
  obtain ⟨verdict, hentry, hverdict⟩ := haccounts.exists_entry_of_mem_resources hmem
  have hsettles := haccounts.ledger.settles_of_mem hentry
  cases verdict with
  | dropped rejection => simp at hverdict
  | kept resources =>
      obtain ⟨descriptor, hdescriptor, hcopies⟩ := exists_copies_of_accepted hsettles.1 hverdict
      obtain ⟨candidate, hcandidate, hdescribed, hfault⟩ := resource_eq_ok_iff.mp hdescriptor
      exact ⟨candidate, descriptor, hcandidate, hdescribed, hfault, hcopies⟩

/-- A resource of a run is described by the candidate of its path, and its parents are sound. -/
theorem exists_candidate_of_mem_resources (h : document.resources selection = .ok findings)
    (hmem : resource ∈ findings.resources) :
    ∃ candidate, document.candidate resource.instancePath = .ok candidate ∧
      candidate.Describes document resource ∧
      Parent.fault? document resource.parents = none := by
  obtain ⟨candidate, descriptor, hcandidate, hdescribed, hfault, hcopies⟩ := exists_origin h hmem
  have hdescribes := (Candidate.descriptor_eq_ok_iff.mp hdescribed).1
  have hresource := hdescribes.of_copies hcopies
  refine ⟨candidate, hcandidate, hresource, ?_⟩
  rwa [hresource.parents, ← hdescribes.parents]

end Document

end ResourceGraph
