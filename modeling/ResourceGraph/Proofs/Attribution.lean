import ResourceGraph.Proofs.Accounting

/-!
# Under which path a rejection is reported

A candidate without descriptors should be explained under its own path.  It is, with one exception:
a malformed timeout of the operation that creates the resource is reported under the collection
path, which is no instance path and therefore no candidate.  So such a candidate has no diagnostic
of its own, and these are the only diagnostics under a path that is no candidate.
-/

namespace ResourceGraph

/-- Every candidate without descriptors has exactly one diagnostic under its own path, and there are
no diagnostics under other paths. -/
def Findings.Attributed (findings : Findings) (candidates : List String) : Prop :=
  (∀ path ∈ candidates, (∀ resource ∈ findings.resources, resource.instancePath ≠ path) →
    ∃ diagnostic, findings.diagnostics.filter (fun diagnostic => diagnostic.path == path) =
      [diagnostic]) ∧
  ∀ diagnostic ∈ findings.diagnostics, diagnostic.path ∈ candidates

/-! ## The path of a rejection -/

/-- A candidate is dropped under its own path, or for a malformed timeout of its creation. -/
theorem Verdict.Settles.path_eq {document : Document} {path : String} {rejection : Rejection}
    (h : (Verdict.dropped rejection).Settles document path) :
    rejection.path = path ∨ document.CreationFault path rejection := by
  rcases h with hrejected | ⟨_, _, _, -, rfl⟩
  · exact Document.outcome_eq_rejected hrejected
  · exact Or.inl rfl

/-- A malformed timeout of the creation is the reason for which its candidate is dropped. -/
theorem Document.CreationFault.verdict_eq {document : Document} {path : String}
    {rejection : Rejection} {verdict : Verdict} (hfault : document.CreationFault path rejection)
    (h : verdict.Settles document path) : verdict = .dropped rejection := by
  cases verdict with
  | kept resources => cases hfault.outcome_eq.symm.trans h.1
  | dropped reported =>
      rcases h with hrejected | ⟨_, _, _, haccepted, -⟩
      · cases hfault.outcome_eq.symm.trans hrejected
        rfl
      · cases hfault.outcome_eq.symm.trans haccepted

/-- A malformed timeout of the creation is not reported under an instance path. -/
theorem Document.CreationFault.path_ne {document : Document} {path other : String}
    {rejection : Rejection} (hfault : document.CreationFault path rejection)
    (hinstance : Path.isInstance other) : rejection.path ≠ other := by
  rintro rfl
  rw [hfault.isInstance_eq_false] at hinstance
  cases hinstance

/-! ## Diagnostics and entries -/

namespace Accounts

variable {document : Document} {selection : Selection} {findings : Findings} {path : String}
  {verdict : Verdict} {rejection : Rejection} {entries : List (String × Verdict)}

/-- A diagnostic under the path of a candidate belongs to the entry of this candidate. -/
theorem filter_diagnostics (h : Accounts document selection findings entries)
    (hmem : (path, verdict) ∈ entries) :
    findings.diagnostics.filter (fun diagnostic => diagnostic.path == path) =
      verdict.diagnostics.filter fun diagnostic => diagnostic.path == path := by
  rw [h.diagnostics]
  refine Ledger.filter_flatMap_of_mem _ _ h.nodup hmem ?_
  rintro ⟨other, found⟩ hentry hne diagnostic hdiagnostic
  have hsettles := h.ledger.settles_of_mem hentry
  obtain ⟨rejection, rfl, rfl⟩ := Verdict.mem_diagnostics.mp hdiagnostic
  refine beq_eq_false_iff_ne.mpr fun heq => ?_
  -- another candidate is reported under its own path, or under one that is no instance path
  rcases hsettles.path_eq with hpath | hfault
  · exact hne (hpath.symm.trans heq)
  · exact hfault.path_ne (h.isInstance hmem) heq

/-- A dropped candidate has one diagnostic under its own path if its creation has no malformed
timeout, and none otherwise. -/
theorem filter_diagnostics_dropped (h : Accounts document selection findings entries)
    (hmem : (path, Verdict.dropped rejection) ∈ entries) :
    (∃ diagnostic, findings.diagnostics.filter (fun diagnostic => diagnostic.path == path) =
        [diagnostic]) ↔
      ∀ reported, ¬ document.CreationFault path reported := by
  rw [h.filter_diagnostics hmem, Verdict.diagnostics_dropped]
  have hsettles := h.ledger.settles_of_mem hmem
  constructor
  · rintro ⟨diagnostic, hone⟩ reported hfault
    cases hfault.verdict_eq hsettles
    have hne : rejection.path ≠ path := hfault.path_ne (h.isInstance hmem)
    simp [Diagnostic.path, hne] at hone
  · intro hsound
    have hpath : rejection.path = path := hsettles.path_eq.resolve_right (hsound rejection)
    exact ⟨⟨.resource, rejection⟩, by simp [Diagnostic.path, hpath]⟩

/-- A diagnostic is under a path that is no candidate if and only if it reports a malformed timeout
of a creation. -/
theorem path_not_mem_iff {diagnostic : Diagnostic}
    (h : Accounts document selection findings entries)
    (hmem : diagnostic ∈ findings.diagnostics) :
    diagnostic.path ∉ document.candidatePaths selection ↔
      ∃ path ∈ document.candidatePaths selection,
        document.CreationFault path diagnostic.rejection := by
  constructor
  · intro hpath
    rw [h.diagnostics] at hmem
    obtain ⟨⟨path, verdict⟩, hentry, hdiagnostic⟩ := List.mem_flatMap.mp hmem
    obtain ⟨rejection, rfl, rfl⟩ := Verdict.mem_diagnostics.mp hdiagnostic
    have hcandidate := h.mem_candidatePaths hentry
    refine ⟨path, hcandidate, (h.ledger.settles_of_mem hentry).path_eq.resolve_left ?_⟩
    rintro rfl
    exact hpath hcandidate
  · rintro ⟨path, -, hfault⟩ hpath
    exact hfault.path_ne (Document.mem_candidatePaths.mp hpath).2.2 rfl

/-- A candidate without descriptors is dropped. -/
theorem exists_dropped (h : Accounts document selection findings entries)
    (hpath : path ∈ document.candidatePaths selection)
    (hnone : ∀ resource ∈ findings.resources, resource.instancePath ≠ path) :
    ∃ rejection, (path, Verdict.dropped rejection) ∈ entries := by
  obtain ⟨verdict, hentry⟩ := h.exists_entry hpath
  cases verdict with
  | dropped rejection => exact ⟨rejection, hentry⟩
  | kept resources =>
      obtain ⟨-, hne, hcarried⟩ := h.ledger.settles_of_mem hentry
      obtain ⟨resource, hresource⟩ := List.exists_mem_of_ne_nil _ hne
      have hfound : resource ∈ findings.resources := by
        rw [h.resources]
        exact List.mem_flatMap.mpr ⟨_, hentry, hresource⟩
      exact absurd (hcarried resource hresource) (hnone resource hfound)

/-- A candidate whose creation has a malformed timeout has no descriptors. -/
theorem not_mem_resources (h : Accounts document selection findings entries)
    (hfault : document.CreationFault path rejection) :
    ∀ resource ∈ findings.resources, resource.instancePath ≠ path := by
  rintro resource hresource rfl
  obtain ⟨verdict, hentry, hmem⟩ := h.exists_entry_of_mem_resources hresource
  cases hfault.verdict_eq (h.ledger.settles_of_mem hentry)
  simp at hmem

end Accounts

/-! ## Diagnostics of a run -/

section Run

variable {document : Document} {selection : Selection} {findings : Findings}

/-- The diagnostics of a run about a path are what the analysis reports about it as a resource. -/
theorem AnalysisResult.filter_diagnosticsFor {result : AnalysisResult}
    (hfindings : document.resources selection = .ok findings)
    (h : document.analyse selection = .ok result) (path : String) :
    (result.diagnosticsFor path).filter (fun diagnostic => diagnostic.subject == .resource) =
      findings.diagnostics.filter fun diagnostic => diagnostic.path == path := by
  obtain ⟨⟨definitions, schemes⟩, -, hrest⟩ := bind_eq_ok.mp h
  obtain ⟨found, hfound, hrest⟩ := bind_eq_ok.mp hrest
  obtain ⟨backend, -, hresult⟩ := bind_eq_ok.mp hrest
  cases hresult
  cases (mapError_eq_ok.mp hfound).symm.trans hfindings
  have hresources : ∀ diagnostic ∈ findings.diagnostics, diagnostic.subject = .resource := by
    intro diagnostic hdiagnostic
    obtain ⟨rejection, -, rfl⟩ := List.mem_map.mp hdiagnostic
    rfl
  have hlistings : ∀ diagnostic ∈ (document.dataSources selection).diagnostics,
      diagnostic.subject = .dataSource := by
    intro diagnostic hdiagnostic
    obtain ⟨rejection, -, rfl⟩ := List.mem_map.mp hdiagnostic
    rfl
  rw [diagnosticsFor, List.filter_filter, List.filter_append]
  have hnone : (document.dataSources selection).diagnostics.filter (fun diagnostic =>
      diagnostic.subject == .resource && diagnostic.path == path) = [] :=
    List.filter_eq_nil_iff.mpr fun diagnostic hdiagnostic => by
      simp [hlistings diagnostic hdiagnostic]
  rw [hnone, List.append_nil]
  exact List.filter_congr fun diagnostic hdiagnostic => by
    simp [hresources diagnostic hdiagnostic]

/-- **The path of a diagnostic.**  In a run that returns, a candidate without descriptors has
exactly one diagnostic under its own path unless its creation has a malformed timeout, and the
diagnostics of these timeouts are the only ones under a path that is no candidate.  So everything is
reported where it belongs if and only if no candidate has such a timeout.  The analysis reports the
same diagnostics. -/
theorem Document.diagnostics_attributed (h : document.resources selection = .ok findings) :
    (findings.Attributed (document.candidatePaths selection) ↔
      ∀ path ∈ document.candidatePaths selection, ∀ rejection,
        ¬ document.CreationFault path rejection) ∧
      (∀ path ∈ document.candidatePaths selection,
        (∀ resource ∈ findings.resources, resource.instancePath ≠ path) →
          ((∃ diagnostic, findings.diagnostics.filter
              (fun diagnostic => diagnostic.path == path) = [diagnostic]) ↔
            ∀ rejection, ¬ document.CreationFault path rejection)) ∧
      (∀ diagnostic ∈ findings.diagnostics,
        diagnostic.path ∉ document.candidatePaths selection ↔
          ∃ path ∈ document.candidatePaths selection,
            document.CreationFault path diagnostic.rejection) ∧
      ∀ result, document.analyse selection = .ok result → ∀ path,
        (result.diagnosticsFor path).filter (fun diagnostic => diagnostic.subject == .resource) =
          findings.diagnostics.filter fun diagnostic => diagnostic.path == path := by
  obtain ⟨entries, haccounts⟩ := exists_accounts h
  have howned : ∀ path ∈ document.candidatePaths selection,
      (∀ resource ∈ findings.resources, resource.instancePath ≠ path) →
        ((∃ diagnostic, findings.diagnostics.filter
            (fun diagnostic => diagnostic.path == path) = [diagnostic]) ↔
          ∀ rejection, ¬ document.CreationFault path rejection) := by
    intro path hpath hnone
    obtain ⟨rejection, hentry⟩ := haccounts.exists_dropped hpath hnone
    exact haccounts.filter_diagnostics_dropped hentry
  -- the first equivalence is the other two, taken over all candidates and all diagnostics
  refine ⟨⟨?_, ?_⟩, howned, fun diagnostic => haccounts.path_not_mem_iff,
    fun result hresult path => AnalysisResult.filter_diagnosticsFor h hresult path⟩
  · intro hattributed path hpath rejection hfault
    have hnone := haccounts.not_mem_resources hfault
    exact (howned path hpath hnone).mp (hattributed.1 path hpath hnone) rejection hfault
  · intro hsound
    refine ⟨fun path hpath hnone => (howned path hpath hnone).mpr (hsound path hpath), ?_⟩
    intro diagnostic hdiagnostic
    by_contra hpath
    obtain ⟨path, hcandidate, hfault⟩ := (haccounts.path_not_mem_iff hdiagnostic).mp hpath
    exact hsound path hcandidate _ hfault

end Run

/-! ## A timeout reported elsewhere -/

namespace Sample

/-- The notes of the sample document have a malformed timeout. -/
theorem exists_creationFault : ∃ rejection, document.CreationFault "/v1/notes/{id}" rejection := by
  have hrun : (document.candidate "/v1/notes/{id}").toOption.map (fun candidate =>
      (candidate.create.timeout candidate.rootPath).toOption) = some none := by
    decide +kernel
  obtain ⟨candidate, hcandidate, hresult⟩ := exists_of_toOption_map_eq_some hrun
  cases htimeout : candidate.create.timeout candidate.rootPath with
  | error rejection => exact ⟨rejection, candidate, hcandidate, htimeout⟩
  | ok timeout => simp [htimeout, Except.toOption] at hresult

/-- The plans of the sample document are rejected before timeouts are looked at. -/
theorem not_creationFault (rejection : Rejection) :
    ¬ document.CreationFault "/v1/plans/{id}" rejection := by
  rintro ⟨candidate, hcandidate, -⟩
  have hrun : (document.candidate "/v1/plans/{id}").toOption.isNone := by decide +kernel
  simp [hcandidate, Except.toOption] at hrun

/-- Plans are reported under their own path, notes are not. -/
theorem document_diagnostics_attributed :
    ∃ findings, document.resources {} = .ok findings ∧
      ¬ findings.Attributed (document.candidatePaths {}) ∧
      (∃ diagnostic, findings.diagnostics.filter
        (fun diagnostic => diagnostic.path == "/v1/plans/{id}") = [diagnostic]) ∧
      ¬ ∃ diagnostic, findings.diagnostics.filter
        (fun diagnostic => diagnostic.path == "/v1/notes/{id}") = [diagnostic] := by
  obtain ⟨findings, hfindings, hresources, -⟩ := exists_findings
  obtain ⟨rejection, hfault⟩ := exists_creationFault
  obtain ⟨hattributed, howned, -⟩ := Document.diagnostics_attributed hfindings
  obtain ⟨entries, haccounts⟩ := Document.exists_accounts hfindings
  have hnotes : "/v1/notes/{id}" ∈ document.candidatePaths {} := by
    simp [candidatePaths_document]
  have hplans : "/v1/plans/{id}" ∈ document.candidatePaths {} := by
    simp [candidatePaths_document]
  have hnone : ∀ resource ∈ findings.resources, resource.instancePath ≠ "/v1/plans/{id}" := by
    intro resource hresource hpath
    have hmem := List.mem_map_of_mem (f := fun resource : ResourceDescriptor =>
      (resource.name, resource.instancePath)) hresource
    rw [hresources, hpath] at hmem
    simp at hmem
  refine ⟨findings, hfindings, fun hall => ?_, ?_, fun hone => ?_⟩
  · exact hattributed.mp hall _ hnotes rejection hfault
  · exact (howned _ hplans hnone).mpr not_creationFault
  · exact (howned _ hnotes (haccounts.not_mem_resources hfault)).mp hone rejection hfault

/-- **Not everything is reported where it belongs.**  The notes of the sample document are reported
under their collection path. -/
theorem exists_unattributed : ¬ ∀ (document : Document) (selection : Selection)
    (findings : Findings), document.resources selection = .ok findings →
      findings.Attributed (document.candidatePaths selection) := by
  intro hall
  obtain ⟨findings, hfindings, -, hrejections⟩ := exists_findings
  have hpaths := (hall document {} findings hfindings).2
  have hmem : "/v1/notes" ∈ findings.rejections.map Rejection.path := by simp [hrejections]
  obtain ⟨rejection, hrejection, hpath⟩ := List.mem_map.mp hmem
  have hcandidate := hpaths ⟨.resource, rejection⟩ (List.mem_map_of_mem hrejection)
  rw [Diagnostic.path, hpath, candidatePaths_document] at hcandidate
  simp at hcandidate

end Sample

end ResourceGraph
