import ResourceGraph.Proofs.RegionalCopy

/-!
# The stages of an instance path

What becomes of an instance path is found out in three stages.  The path is described, from its own
entry and that of its collection.  Its parents are checked, first whether their instance paths are
declared and then whether their collections can be used.  What is left is spread over the regions of
its host.  A path is rejected at one of the first two stages, and only the last one ends the
analysis.

The checks look a parent up under two spellings of its path, the one without a slash at its end
first. `Document.lookedUpTo?` is the declared path that is found in this way.
-/

namespace ResourceGraph

/-! ## Looking up a parent -/

/-- The declared path that a path is looked up to: the path itself, or else the path with a slash at
its end. -/
def Document.lookedUpTo? (document : Document) (path : String) : Option String :=
  if document.declares path then some path
  else if document.declares (path ++ "/") then some (path ++ "/")
  else none

/-- The first of some parents whose instance path is not declared, as a fault. -/
def Parent.instanceFault? (document : Document) (parents : List Parent) : Option RejectionCause :=
  parents.findSome? fun parent =>
    if (document.findPath? parent.instancePath).isNone then
      some (.missingParentInstance parent.instancePath)
    else none

/-- What is wrong with the collection of a parent. -/
def Parent.rootFault? (document : Document) (parent : Parent) : Option RejectionCause :=
  match document.findPath? parent.rootPath with
  | none => some (.missingParentRoot parent.rootPath)
  | some item => if item.isIgnored then some (.ignoredParentRoot parent.rootPath) else none

/-- All instance paths are looked at before the first collection. -/
theorem Parent.fault?_eq (document : Document) (parents : List Parent) :
    Parent.fault? document parents = (Parent.instanceFault? document parents <|>
      parents.findSome? (Parent.rootFault? document)) := rfl

namespace Document

/-- What is found for a path is what is declared where the path is looked up to. -/
theorem findPath?_eq (document : Document) (path : String) :
    document.findPath? path = (document.lookedUpTo? path).bind document.paths.get? := by
  unfold findPath? lookedUpTo? declares Table.has
  cases hplain : document.paths.get? path with
  | some item => simp [hplain]
  | none => cases hslash : document.paths.get? (path ++ "/") <;> simp [hslash]

variable {document : Document} {path rootPath found : String} {candidate : Candidate}
  {descriptor : ResourceDescriptor} {rejection : Rejection}

theorem declares_of_lookedUpTo? (h : document.lookedUpTo? path = some found) :
    document.declares found := by
  unfold lookedUpTo? at h
  split at h
  · next hplain =>
      cases h
      exact hplain
  split at h
  · next hslash =>
      cases h
      exact hslash
  · cases h

/-! ## Descriptions -/

/-- The descriptor of an instance path before its parents are looked up. -/
def described (document : Document) (path : String) : Except Rejection ResourceDescriptor := do
  (← document.candidate path).descriptor document

theorem described_of_candidate (h : document.candidate path = .ok candidate) :
    document.described path = candidate.descriptor document := by
  rw [described, h]
  rfl

theorem described_of_candidate_error (h : document.candidate path = .error rejection) :
    document.described path = .error rejection := by
  rw [described, h]
  rfl

/-- The parents of what is described at an instance path are those of its collection. -/
theorem parents_of_described (hroot : Path.findRoot document.declares path = .ok rootPath)
    (h : document.described path = .ok descriptor) :
    descriptor.parents = Path.parents rootPath := by
  obtain ⟨candidate, hcandidate, hdescriptor⟩ := bind_eq_ok.mp h
  cases hroot.symm.trans (candidate_eq_ok hcandidate).1
  exact (Candidate.descriptor_eq_ok_iff.mp hdescriptor).1.parents

theorem exists_parents_of_described (h : document.described path = .ok descriptor) :
    ∃ rootPath, descriptor.parents = Path.parents rootPath := by
  obtain ⟨candidate, hcandidate, -⟩ := bind_eq_ok.mp h
  exact ⟨candidate.rootPath, parents_of_described (candidate_eq_ok hcandidate).1 h⟩

/-! ## Outcomes -/

theorem outcome_eq_of_described_eq_error (h : document.described path = .error rejection) :
    document.outcome path = .rejected rejection := by
  have hresource : document.resource path = .error rejection := by
    rcases bind_eq_error.mp h with hcandidate | ⟨candidate, hcandidate, hdescriptor⟩
    · exact bind_eq_error.mpr (Or.inl hcandidate)
    · exact bind_eq_error.mpr (Or.inr ⟨candidate, hcandidate,
        bind_eq_error.mpr (Or.inl hdescriptor)⟩)
  rw [outcome, hresource]

/-- What becomes of a path that is described: its parents are checked, and then its regions are
looked at. -/
theorem outcome_eq_of_described_eq_ok (h : document.described path = .ok descriptor) :
    document.outcome path = match Parent.fault? document descriptor.parents with
      | some cause => .rejected ⟨path, cause⟩
      | none => match descriptor.spread document.extensions with
        | .error error => .failed error
        | .ok resources => .accepted resources := by
  obtain ⟨candidate, hcandidate, hdescriptor⟩ := bind_eq_ok.mp h
  unfold outcome resource
  rw [hcandidate]
  simp only [bind, Except.bind, hdescriptor]
  cases Parent.fault? document descriptor.parents with
  | some cause => rfl
  | none =>
      simp only [pure, Except.pure, ResourceDescriptor.spread]
      cases Region.ofHost? descriptor.host document.extensions with
      | error error => rfl
      | ok regions => cases regions <;> rfl

end Document

end ResourceGraph
