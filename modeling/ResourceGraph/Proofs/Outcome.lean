import ResourceGraph.Analysis.Resource
import ResourceGraph.Proofs.InstancePath
import ResourceGraph.Proofs.Names

/-!
# The outcome of an instance path

What `Document.outcome` says about one instance path, the other paths left aside.

* An accepted path has at least one descriptor.  All of them carry the path, and their names are
  distinct: they are copies of one descriptor, one for each of some distinct regions.
* A rejected path has one rejection, which names the path itself with a single exception.  A
  malformed timeout of the operation that creates a resource is reported under the path of that
  operation, which is the collection path.
-/

namespace ResourceGraph

/-! ## Lists of regions -/

theorem Region.mem_repeated {name : String} {names : List String} :
    name ∈ Region.repeated names ↔ 1 < names.count name := by
  rw [Region.repeated, mem_sortNames, List.mem_eraseDups, List.mem_filter, decide_eq_true_eq]
  exact and_iff_right_of_imp fun hmany => List.count_pos_iff.mp (by omega)

theorem Region.repeated_eq_nil_iff {names : List String} :
    Region.repeated names = [] ↔ names.Nodup := by
  simp only [List.eq_nil_iff_forall_not_mem, Region.mem_repeated, not_lt,
    List.nodup_iff_count_le_one]

/-- The declared regions of a keyword are at least one, and no two of them are the same. -/
theorem Region.resolve_eq_ok {keyword : String} {extensions : Extensions} {regions : List String}
    (h : Region.resolve keyword extensions = .ok regions) : regions ≠ [] ∧ regions.Nodup := by
  unfold Region.resolve at h
  simp only at h
  split at h
  · cases h
  · next value hvalue =>
      split at h
      · cases h
      split at h
      · cases h
      next hall =>
      split at h
      · cases h
      split at h
      · cases h
      next hrepeated =>
      cases h
      refine ⟨fun hnil => hall (by simp [hnil]), Region.repeated_eq_nil_iff.mp ?_⟩
      simpa using hrepeated

theorem Region.ofHost?_eq_some {host : Option String} {extensions : Extensions}
    {regions : List String} (h : Region.ofHost? host extensions = .ok (some regions)) :
    regions ≠ [] ∧ regions.Nodup := by
  unfold Region.ofHost? at h
  split at h
  · cases h
  · obtain ⟨found, hfound, hsome⟩ := map_eq_ok.mp h
    cases hsome
    exact Region.resolve_eq_ok hfound

/-! ## Candidates -/

/-- How the parts of a candidate are declared in a document. -/
structure Candidate.DeclaredIn (candidate : Candidate) (document : Document) : Prop where
  instanceItem : document.paths.get? candidate.instancePath = some candidate.instanceItem
  read : candidate.instanceItem.get = some candidate.read
  root : document.paths.get? candidate.rootPath = some candidate.root
  create : candidate.root.post = some candidate.create
  payload : Compliance.payload candidate.create = .ok (candidate.schema, candidate.computedOnly)
  identifier : Compliance.identifierOf candidate.schema = .ok candidate.identifier

theorem Candidate.validate_eq_ok {document : Document} {rootPath instancePath : String}
    {item : PathItem} {candidate : Candidate}
    (hitem : document.paths.get? instancePath = some item)
    (h : Candidate.validate document rootPath instancePath item = .ok candidate) :
    candidate.rootPath = rootPath ∧ candidate.instancePath = instancePath ∧
      candidate.DeclaredIn document := by
  unfold Candidate.validate at h
  split at h
  · next read hread =>
      split at h
      · next root hroot =>
          split at h
          · next create hcreate =>
              obtain ⟨⟨schema, computedOnly⟩, hpayload, hnext⟩ := bind_eq_ok.mp h
              obtain ⟨identifier, hidentifier, hresult⟩ := bind_eq_ok.mp hnext
              cases hresult
              exact ⟨rfl, rfl, hitem, hread, hroot, hcreate, mapError_eq_ok.mp hpayload,
                hidentifier⟩
          · cases h
      · cases h
  · cases h

namespace Document

variable {document : Document} {path : String} {candidate : Candidate} {rejection : Rejection}

/-- The candidate of a path pairs it with its collection path, and all of it is declared. -/
theorem candidate_eq_ok (h : document.candidate path = .ok candidate) :
    Path.findRoot document.declares path = .ok candidate.rootPath ∧
      candidate.instancePath = path ∧ candidate.DeclaredIn document := by
  obtain ⟨rootPath, hroot, hnext⟩ := bind_eq_ok.mp h
  split at hnext
  · next item hitem =>
      obtain ⟨rfl, hinstance, hdeclared⟩ :=
        Candidate.validate_eq_ok hitem (mapError_eq_ok.mp hnext)
      exact ⟨hroot, hinstance, hdeclared⟩
  · cases hnext

theorem candidate_eq_error (h : document.candidate path = .error rejection) :
    rejection.path = path := by
  rcases bind_eq_error.mp h with hroot | ⟨rootPath, -, hnext⟩
  · exact Path.findRoot_eq_error hroot
  · split at hnext
    · obtain ⟨cause, -, rfl⟩ := mapError_eq_error.mp hnext
      rfl
    · cases hnext
      rfl

end Document

/-! ## Descriptors -/

section Operation

variable {operation : Operation} {document : Document} {method : Method} {path : String}
  {rejection : Rejection}

theorem Operation.timeout_eq_error (h : operation.timeout path = .error rejection) :
    ∃ fault, rejection = ⟨path, .invalidTimeout (operation.label path) fault⟩ := by
  unfold Operation.timeout at h
  split at h
  · cases h
  · split at h
    · cases h
    · next fault _ =>
        cases h
        exact ⟨fault, rfl⟩

/-- The only reason not to describe an operation is its timeout. -/
theorem Operation.descriptor_eq_error :
    operation.descriptor document method path = .error rejection ↔
      operation.timeout path = .error rejection := by
  refine ⟨fun h => ?_, fun h => bind_eq_error.mpr (Or.inl h)⟩
  rcases bind_eq_error.mp h with htimeout | ⟨timeout, -, hnext⟩
  · exact htimeout
  · cases hnext

theorem Operation.optionalDescriptor_eq_error {operation : Option Operation}
    (h : Operation.optionalDescriptor operation document method path = .error rejection) :
    rejection.path = path := by
  cases operation with
  | none => cases h
  | some operation =>
      obtain ⟨fault, rfl⟩ :=
        Operation.timeout_eq_error (Operation.descriptor_eq_error.mp (map_eq_error.mp h))
      rfl

end Operation

namespace Candidate

variable {candidate : Candidate} {document : Document} {descriptor : ResourceDescriptor}
  {rejection : Rejection}

theorem descriptor_eq_ok (h : candidate.descriptor document = .ok descriptor) :
    descriptor.instancePath = candidate.instancePath := by
  obtain ⟨create, -, hread⟩ := bind_eq_ok.mp h
  obtain ⟨read, -, hupdate⟩ := bind_eq_ok.mp hread
  obtain ⟨update, -, hdelete⟩ := bind_eq_ok.mp hupdate
  obtain ⟨delete, -, hresult⟩ := bind_eq_ok.mp hdelete
  cases hresult
  rfl

/-- A candidate is not described because of the timeout of its creation, which is reported under the
collection path, or because of the timeout of another operation. -/
theorem descriptor_eq_error (h : candidate.descriptor document = .error rejection) :
    candidate.create.timeout candidate.rootPath = .error rejection ∨
      rejection.path = candidate.instancePath := by
  rcases bind_eq_error.mp h with hcreate | ⟨create, -, hread⟩
  · exact Or.inl (Operation.descriptor_eq_error.mp hcreate)
  · refine Or.inr ?_
    rcases bind_eq_error.mp hread with hread | ⟨read, -, hupdate⟩
    · obtain ⟨fault, rfl⟩ :=
        Operation.timeout_eq_error (Operation.descriptor_eq_error.mp hread)
      rfl
    rcases bind_eq_error.mp hupdate with hupdate | ⟨update, -, hdelete⟩
    · exact Operation.optionalDescriptor_eq_error hupdate
    rcases bind_eq_error.mp hdelete with hdelete | ⟨delete, -, hresult⟩
    · exact Operation.optionalDescriptor_eq_error hdelete
    · cases hresult

theorem descriptor_of_timeout_eq_error
    (h : candidate.create.timeout candidate.rootPath = .error rejection) :
    candidate.descriptor document = .error rejection :=
  bind_eq_error.mpr (Or.inl (Operation.descriptor_eq_error.mpr h))

end Candidate

/-! ## Outcomes -/

/-- Copies of a descriptor in different regions have different names. -/
theorem ResourceDescriptor.nodup_inRegion_names (descriptor : ResourceDescriptor)
    {regions : List String} (hregions : regions.Nodup) :
    ((regions.map descriptor.inRegion).map ResourceDescriptor.name).Nodup := by
  have hinjective : Function.Injective fun region => (descriptor.inRegion region).name := by
    intro first second h
    simpa [ResourceDescriptor.inRegion] using h
  rw [List.map_map]
  exact hregions.map hinjective

namespace Document

variable {document : Document} {path : String} {rejection : Rejection}

/-- The operation that creates the resource of an instance path has a malformed timeout, which
`rejection` reports. -/
def CreationFault (document : Document) (path : String) (rejection : Rejection) : Prop :=
  ∃ candidate, document.candidate path = .ok candidate ∧
    candidate.create.timeout candidate.rootPath = .error rejection

/-- A malformed timeout of a creation is reported under a path that is no instance path. -/
theorem CreationFault.isInstance_eq_false (h : document.CreationFault path rejection) :
    Path.isInstance rejection.path = false := by
  obtain ⟨candidate, hcandidate, htimeout⟩ := h
  obtain ⟨fault, rfl⟩ := Operation.timeout_eq_error htimeout
  exact Path.isInstance_findRoot (candidate_eq_ok hcandidate).1

theorem resource_eq_ok {descriptor : ResourceDescriptor}
    (h : document.resource path = .ok descriptor) : descriptor.instancePath = path := by
  obtain ⟨candidate, hcandidate, hnext⟩ := bind_eq_ok.mp h
  obtain ⟨described, hdescribed, hresult⟩ := bind_eq_ok.mp hnext
  split at hresult
  · cases hresult
  · cases hresult
    rw [Candidate.descriptor_eq_ok hdescribed, (candidate_eq_ok hcandidate).2.1]

theorem resource_eq_error (h : document.resource path = .error rejection) :
    rejection.path = path ∨ document.CreationFault path rejection := by
  rcases bind_eq_error.mp h with hcandidate | ⟨candidate, hcandidate, hnext⟩
  · exact Or.inl (candidate_eq_error hcandidate)
  rcases bind_eq_error.mp hnext with hdescribed | ⟨descriptor, -, hresult⟩
  · rcases Candidate.descriptor_eq_error hdescribed with htimeout | hpath
    · exact Or.inr ⟨candidate, hcandidate, htimeout⟩
    · exact Or.inl (hpath.trans (candidate_eq_ok hcandidate).2.1)
  · split at hresult
    · cases hresult
      exact Or.inl rfl
    · cases hresult

/-- An accepted path has descriptors, all of them carry it, and their names are distinct. -/
theorem outcome_eq_accepted {resources : List ResourceDescriptor}
    (h : document.outcome path = .accepted resources) :
    resources ≠ [] ∧ (∀ resource ∈ resources, resource.instancePath = path) ∧
      (resources.map ResourceDescriptor.name).Nodup := by
  unfold outcome at h
  split at h
  · cases h
  · next descriptor hdescriptor =>
      have hpath := resource_eq_ok hdescriptor
      split at h
      · cases h
      · cases h
        exact ⟨List.cons_ne_nil _ _, by simpa using hpath, List.nodup_singleton _⟩
      · next regions hregions =>
          obtain ⟨hne, hnodup⟩ := Region.ofHost?_eq_some hregions
          cases h
          refine ⟨by simpa using hne, ?_, descriptor.nodup_inRegion_names hnodup⟩
          intro resource hresource
          obtain ⟨region, -, rfl⟩ := List.mem_map.mp hresource
          exact hpath

/-- A rejection names its own path unless it reports a malformed timeout of the creation. -/
theorem outcome_eq_rejected (h : document.outcome path = .rejected rejection) :
    rejection.path = path ∨ document.CreationFault path rejection := by
  unfold outcome at h
  split at h
  · next hresource =>
      cases h
      exact resource_eq_error hresource
  · split at h <;> cases h

theorem CreationFault.outcome_eq (h : document.CreationFault path rejection) :
    document.outcome path = .rejected rejection := by
  obtain ⟨candidate, hcandidate, htimeout⟩ := h
  have hresource : document.resource path = .error rejection :=
    bind_eq_error.mpr (Or.inr ⟨candidate, hcandidate,
      bind_eq_error.mpr (Or.inl (Candidate.descriptor_of_timeout_eq_error htimeout))⟩)
  rw [outcome, hresource]

end Document

end ResourceGraph
