import ResourceGraph.Proofs.Grounding

/-!
# Faults of region lists

A host with a placeholder obliges the document to list its regions.  `Region.Faulty` names what can
be wrong with such a list, one case for each error, and `Document.RegionFault` when an instance path
comes to it: its candidate has passed every other check, those of its timeouts and of its parents
included. So a path that is rejected for any reason never fails, whatever its regions are
(`outcome_eq_failed_iff`).
-/

namespace ResourceGraph

/-! ## Lists of regions -/

namespace Region

/-- What is wrong with the regions of a keyword, and the error that it makes. -/
inductive Faulty (keyword : String) (extensions : Extensions) : AnalysisError → Prop
  | missing (hnone : extensions.lookup? (Extension.regionsName keyword) = none) :
      Faulty keyword extensions (.missingRegions keyword (Extension.regionsName keyword))
  | unwritable {value : Value}
      (hvalue : extensions.lookup? (Extension.regionsName keyword) = some value)
      (hlong : value.isWritable = false) : Faulty keyword extensions .unwritableRegions
  | empty {value : Value}
      (hvalue : extensions.lookup? (Extension.regionsName keyword) = some value)
      (hwritable : value.isWritable = true) (hblank : ∀ name ∈ namesOf value, name = "") :
      Faulty keyword extensions
        (.emptyRegions keyword (Extension.regionsName keyword) value.shown)
  | blank {value : Value}
      (hvalue : extensions.lookup? (Extension.regionsName keyword) = some value)
      (hwritable : value.isWritable = true) (hsome : ∃ name ∈ namesOf value, name ≠ "")
      (hblank : "" ∈ namesOf value) :
      Faulty keyword extensions
        (.blankRegion keyword (Extension.regionsName keyword) value.shown)
  | repeated {value : Value}
      (hvalue : extensions.lookup? (Extension.regionsName keyword) = some value)
      (hwritable : value.isWritable = true) (hsolid : "" ∉ namesOf value)
      (hrepeated : ¬ (namesOf value).Nodup) :
      Faulty keyword extensions (.duplicatedRegions keyword (Extension.regionsName keyword)
        (Region.repeated (namesOf value)))

variable {keyword : String} {extensions : Extensions} {host : Option String}
  {error : AnalysisError}

theorem not_all_isEmpty_iff {names : List String} :
    ¬ names.all String.isEmpty = true ↔ ∃ name ∈ names, name ≠ "" := by simp

theorem any_isEmpty_iff {names : List String} :
    names.any String.isEmpty = true ↔ "" ∈ names := by simp

/-- Of names among which one is repeated, some is not blank if none is. -/
theorem exists_ne_of_not_nodup {names : List String} (hsolid : "" ∉ names)
    (hrepeated : ¬ names.Nodup) : ∃ name ∈ names, name ≠ "" := by
  cases names with
  | nil => exact absurd List.nodup_nil hrepeated
  | cons name rest =>
      exact ⟨name, List.mem_cons_self .., fun hname => hsolid (hname ▸ List.mem_cons_self ..)⟩

theorem Faulty.of_resolve_eq (h : resolve keyword extensions = .error error) :
    Faulty keyword extensions error := by
  unfold resolve at h
  simp only at h
  split at h
  · next hnone =>
      cases h
      exact .missing hnone
  next value hvalue =>
  split at h
  · next hlong =>
      cases h
      exact .unwritable hvalue (by simpa using hlong)
  next hwritable =>
  replace hwritable : value.isWritable = true := by simpa using hwritable
  split at h
  · next hall =>
      cases h
      exact .empty hvalue hwritable (by simpa using hall)
  next hsome =>
  split at h
  · next hblank =>
      cases h
      exact .blank hvalue hwritable (not_all_isEmpty_iff.mp hsome) (any_isEmpty_iff.mp hblank)
  next hsolid =>
  split at h
  · next hrepeated =>
      cases h
      refine .repeated hvalue hwritable (mt any_isEmpty_iff.mpr hsolid) fun hnodup => ?_
      simp [repeated_eq_nil_iff.mpr hnodup] at hrepeated
  · cases h

theorem Faulty.resolve_eq (h : Faulty keyword extensions error) :
    resolve keyword extensions = .error error := by
  unfold resolve
  simp only
  cases h with
  | missing hnone => rw [hnone]
  | unwritable hvalue hlong => simp [hvalue, hlong]
  | @empty value hvalue hwritable hblank =>
      have hall : (namesOf value).all String.isEmpty = true := by simpa using hblank
      simp [hvalue, hwritable, hall]
  | blank hvalue hwritable hsome hblank =>
      simp only [hvalue, hwritable, not_all_isEmpty_iff.mpr hsome, any_isEmpty_iff.mpr hblank]
      rfl
  | @repeated value hvalue hwritable hsolid hrepeated =>
      have hany : ¬ (namesOf value).any String.isEmpty = true := mt any_isEmpty_iff.mp hsolid
      have hall := not_all_isEmpty_iff.mpr (exists_ne_of_not_nodup hsolid hrepeated)
      have hne : (Region.repeated (namesOf value)).isEmpty = false := by
        rw [List.isEmpty_eq_false_iff]
        exact mt repeated_eq_nil_iff.mp hrepeated
      simp only [hvalue, hwritable, hall, hany, hne]
      rfl

/-- **The regions of a keyword are refused exactly for what is wrong with them.** -/
theorem resolve_eq_error_iff :
    resolve keyword extensions = .error error ↔ Faulty keyword extensions error :=
  ⟨.of_resolve_eq, Faulty.resolve_eq⟩

theorem ofHost?_eq_error_iff : ofHost? host extensions = .error error ↔
    ∃ text keyword, host = some text ∧ keyword? text = some keyword ∧
      Faulty keyword extensions error := by
  rw [ofHost?]
  cases host with
  | none => simp
  | some text =>
      cases hkeyword : keyword? text with
      | none => simp [hkeyword]
      | some keyword => simp [hkeyword, map_eq_error, resolve_eq_error_iff]

/-- Only a host that is there serves several regions. -/
theorem isSome_of_ofHost?_eq_some {regions : List String}
    (h : ofHost? host extensions = .ok (some regions)) : host.isSome := by
  cases host with
  | none => cases h
  | some text => rfl

end Region

/-! ## Timeouts -/

/-- The timeout of an operation, if it has one, is a duration. -/
def Operation.TimeoutSound (operation : Operation) : Prop :=
  ∀ value, operation.extensions.lookup? Extension.resourceTimeout.name = some value →
    ∃ seconds, Duration.ofValue value = .ok seconds

/-- The operations that a candidate is described with. -/
def Candidate.operations (candidate : Candidate) : List Operation :=
  [candidate.create, candidate.read] ++ candidate.instanceItem.put.toList ++
    candidate.instanceItem.delete.toList

section Timeout

variable {operation : Operation} (document : Document) (method : Method) (path : String)

theorem Operation.exists_timeout_iff :
    (∃ timeout, operation.timeout path = .ok timeout) ↔ operation.TimeoutSound := by
  unfold Operation.timeout TimeoutSound
  cases operation.extensions.lookup? Extension.resourceTimeout.name with
  | none => simp
  | some value => cases hvalue : Duration.ofValue value <;> simp [hvalue]

theorem Operation.exists_descriptor_iff :
    (∃ described, operation.descriptor document method path = .ok described) ↔
      operation.TimeoutSound := by
  rw [← Operation.exists_timeout_iff path, exists_eq_ok_iff, exists_eq_ok_iff]
  simp only [ne_eq, Operation.descriptor_eq_error]

theorem Operation.exists_optionalDescriptor_iff {operation : Option Operation} :
    (∃ described, Operation.optionalDescriptor operation document method path = .ok described) ↔
      ∀ declared ∈ operation.toList, declared.TimeoutSound := by
  cases operation with
  | none => simp [Operation.optionalDescriptor]
  | some operation =>
      simp [Operation.optionalDescriptor, map_eq_ok,
        ← Operation.exists_descriptor_iff document method path]

/-- A candidate is described exactly if the timeouts of its operations are durations. -/
theorem Candidate.exists_descriptor_iff {candidate : Candidate} :
    (∃ descriptor, candidate.descriptor document = .ok descriptor) ↔
      ∀ operation ∈ candidate.operations, operation.TimeoutSound := by
  have hsplit : (∀ operation ∈ candidate.operations, operation.TimeoutSound) ↔
      candidate.create.TimeoutSound ∧ candidate.read.TimeoutSound ∧
        (∀ declared ∈ candidate.instanceItem.put.toList, declared.TimeoutSound) ∧
        ∀ declared ∈ candidate.instanceItem.delete.toList, declared.TimeoutSound := by
    simp only [Candidate.operations, List.cons_append, List.nil_append, List.forall_mem_cons,
      List.forall_mem_append]
  rw [hsplit, ← Operation.exists_descriptor_iff document .post candidate.rootPath,
    ← Operation.exists_descriptor_iff document .get candidate.instancePath,
    ← Operation.exists_optionalDescriptor_iff document .put candidate.instancePath,
    ← Operation.exists_optionalDescriptor_iff document .delete candidate.instancePath]
  constructor
  · rintro ⟨descriptor, hdescribed⟩
    obtain ⟨hdescribes, -⟩ := Candidate.descriptor_eq_ok_iff.mp hdescribed
    exact ⟨⟨_, hdescribes.create⟩, ⟨_, hdescribes.read⟩, ⟨_, hdescribes.update⟩,
      ⟨_, hdescribes.delete⟩⟩
  · rintro ⟨⟨create, hcreate⟩, ⟨read, hread⟩, ⟨update, hupdate⟩, ⟨delete, hdelete⟩⟩
    exact ⟨_, bind_eq_ok.mpr ⟨create, hcreate, bind_eq_ok.mpr ⟨read, hread,
      bind_eq_ok.mpr ⟨update, hupdate, bind_eq_ok.mpr ⟨delete, hdelete, rfl⟩⟩⟩⟩⟩

end Timeout

/-! ## Instance paths that fail -/

namespace Document

variable {document : Document} {path : String} {error : AnalysisError}

/-- A path passes all checks but that of its regions: it is that of a candidate with sound timeouts
and with grounded parents. -/
structure Passes (document : Document) (path : String) (candidate : Candidate) : Prop where
  compliant : document.candidate path = .ok candidate
  timeouts : ∀ operation ∈ candidate.operations, operation.TimeoutSound
  parents : ∀ parent ∈ Path.parents candidate.rootPath, parent.Grounded document

/-- A path passes all checks but that of its regions, which makes an error. -/
def RegionFault (document : Document) (path : String) (error : AnalysisError) : Prop :=
  ∃ candidate host keyword, document.Passes path candidate ∧
    candidate.create.extensions.text? .resourceHost = some host ∧
    Region.keyword? host = some keyword ∧ Region.Faulty keyword document.extensions error

/-- A path passes exactly if it has a descriptor, which takes its host from the candidate. -/
theorem exists_passes_iff {host : Option String} :
    (∃ descriptor, document.resource path = .ok descriptor ∧ descriptor.host = host) ↔
      ∃ candidate, document.Passes path candidate ∧
        candidate.create.extensions.text? .resourceHost = host := by
  constructor
  · rintro ⟨descriptor, hdescriptor, rfl⟩
    obtain ⟨candidate, hcandidate, hdescribed, hfault⟩ := resource_eq_ok_iff.mp hdescriptor
    obtain ⟨hdescribes, -, hhost, -⟩ := Candidate.descriptor_eq_ok_iff.mp hdescribed
    rw [hdescribes.parents, Parent.fault?_eq_none_iff_grounded] at hfault
    have htimeouts := (Candidate.exists_descriptor_iff document).mp ⟨_, hdescribed⟩
    exact ⟨candidate, ⟨hcandidate, htimeouts, hfault⟩, hhost.symm⟩
  · rintro ⟨candidate, hpasses, rfl⟩
    obtain ⟨descriptor, hdescribed⟩ :=
      (Candidate.exists_descriptor_iff document).mpr hpasses.timeouts
    obtain ⟨hdescribes, -, hhost, -⟩ := Candidate.descriptor_eq_ok_iff.mp hdescribed
    refine ⟨descriptor, resource_eq_ok_iff.mpr ⟨candidate, hpasses.compliant, hdescribed, ?_⟩,
      hhost⟩
    rw [hdescribes.parents]
    exact Parent.fault?_eq_none_iff_grounded.mpr hpasses.parents

/-- **A path fails exactly for a fault of its regions**, never for what rejects a path. -/
theorem outcome_eq_failed_iff :
    document.outcome path = .failed error ↔ document.RegionFault path error := by
  have houtcome : document.outcome path = .failed error ↔
      ∃ descriptor, document.resource path = .ok descriptor ∧
        Region.ofHost? descriptor.host document.extensions = .error error := by
    unfold outcome
    cases document.resource path with
    | error rejection => simp
    | ok descriptor =>
        cases hregions : Region.ofHost? descriptor.host document.extensions with
        | error cause => simp [hregions]
        | ok regions => cases regions <;> simp [hregions]
  rw [houtcome]
  simp only [Region.ofHost?_eq_error_iff]
  constructor
  · rintro ⟨descriptor, hdescriptor, host, keyword, hhost, hkeyword, hfaulty⟩
    obtain ⟨candidate, hpasses, htext⟩ := exists_passes_iff.mp ⟨descriptor, hdescriptor, hhost⟩
    exact ⟨candidate, host, keyword, hpasses, htext, hkeyword, hfaulty⟩
  · rintro ⟨candidate, host, keyword, hpasses, htext, hkeyword, hfaulty⟩
    obtain ⟨descriptor, hdescriptor, hhost⟩ := exists_passes_iff.mpr ⟨candidate, hpasses, htext⟩
    exact ⟨descriptor, hdescriptor, host, keyword, hhost, hkeyword, hfaulty⟩

end Document

end ResourceGraph
