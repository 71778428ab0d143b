import ResourceGraph.Proofs.Attribution

/-!
# Distinct names

No two resources of a run have the same name, whether they are regional copies of one candidate or
belong to different candidates.  What a ledger has taken before a path are the names of the
resources with a smaller instance path, so the condition on the accumulated names becomes one on the
result: the descriptors of a candidate are dropped together if and only if one of their names
belongs to a resource with a smaller instance path, and then this is what is reported.
-/

namespace ResourceGraph

/-- One of the names belongs to a resource with an instance path that is smaller than the path. -/
def Findings.Clashes (findings : Findings) (path : String)
    (resources : List ResourceDescriptor) : Prop :=
  ∃ resource ∈ resources, ∃ earlier ∈ findings.resources,
    earlier.instancePath < path ∧ earlier.name = resource.name

/-! ## Names of a ledger -/

/-- A verdict takes distinct names that were free. -/
theorem Verdict.Follows.nodup_names {document : Document} {taken : List String} {path : String}
    {verdict : Verdict} (h : verdict.Follows taken path (document.outcome path))
    (htaken : taken.Nodup) : (taken ++ verdict.names).Nodup := by
  generalize houtcome : document.outcome path = outcome at h
  cases h with
  | duplicate hname htaken' hleast => simpa using htaken
  | rejected => simpa using htaken
  | kept hfree =>
      obtain ⟨-, -, hnames⟩ := Document.outcome_eq_accepted houtcome
      refine List.nodup_append.mpr ⟨htaken, hnames, ?_⟩
      rintro name hold _ hnew rfl
      exact hfree name hnew hold

namespace Ledger

variable {document : Document} {taken : List String} {path : String} {verdict : Verdict}
  {entries before after : List (String × Verdict)}

/-- A ledger takes distinct names that were free. -/
theorem nodup_names (h : Ledger document taken entries) (htaken : taken.Nodup) :
    (taken ++ names entries).Nodup := by
  induction h with
  | nil taken => simpa [names, resources] using htaken
  | cons hfirst hrest ih =>
      rw [names_cons, ← List.append_assoc]
      exact ih (hfirst.nodup_names htaken)

/-- The names taken before an entry are those of the resources with a smaller instance path. -/
theorem mem_names_before (h : Ledger document [] (before ++ (path, verdict) :: after))
    (hincreasing : ((before ++ (path, verdict) :: after).map Prod.fst).Pairwise (· < ·))
    {name : String} :
    name ∈ names before ↔
      ∃ resource ∈ resources (before ++ (path, verdict) :: after),
        resource.instancePath < path ∧ resource.name = name := by
  rw [List.map_append, List.map_cons, List.pairwise_append, List.pairwise_cons] at hincreasing
  obtain ⟨-, ⟨hafter, -⟩, hbefore⟩ := hincreasing
  constructor
  · intro hname
    obtain ⟨resource, hresource, rfl⟩ := List.mem_map.mp hname
    obtain ⟨entry, hentry, hverdict⟩ := List.mem_flatMap.mp hresource
    have hmem : entry ∈ before ++ (path, verdict) :: after := List.mem_append_left _ hentry
    have hpath : resource.instancePath = entry.1 :=
      (h.settles_of_mem hmem).instancePath_eq resource hverdict
    refine ⟨resource, List.mem_flatMap.mpr ⟨entry, hmem, hverdict⟩, ?_, rfl⟩
    rw [hpath]
    exact hbefore entry.1 (List.mem_map_of_mem hentry) path (List.mem_cons_self ..)
  · rintro ⟨resource, hresource, hless, rfl⟩
    obtain ⟨found, hentry, hverdict⟩ := h.exists_entry_of_mem_resources hresource
    rcases List.mem_append.mp hentry with hearlier | hlater
    · exact List.mem_map_of_mem (List.mem_flatMap.mpr ⟨_, hearlier, hverdict⟩)
    · -- an entry that is not before the path does not have a smaller one
      rcases List.mem_cons.mp hlater with heq | hlater
      · cases heq
        exact absurd hless (lt_irrefl _)
      · have hgreater := hafter _ (List.mem_map_of_mem hlater)
        exact absurd (hless.trans hgreater) (lt_irrefl _)

end Ledger

/-! ## Names of a run -/

namespace Accounts

variable {document : Document} {selection : Selection} {findings : Findings} {path : String}
  {verdict : Verdict} {entries : List (String × Verdict)}

/-- A candidate that passes its checks is kept if none of its names belongs to a resource with a
smaller instance path, and dropped for a duplicate name otherwise. -/
theorem kept_or_duplicate {accepted : List ResourceDescriptor}
    (h : Accounts document selection findings entries) (hmem : (path, verdict) ∈ entries)
    (houtcome : document.outcome path = .accepted accepted) :
    (verdict = .kept accepted ∧ ¬ findings.Clashes path accepted) ∨
      ∃ name rootPath, verdict = .dropped ⟨path, .duplicateResource name rootPath⟩ ∧
        findings.Clashes path accepted := by
  obtain ⟨before, after, rfl⟩ := List.append_of_mem hmem
  have hclashes : findings.Clashes path accepted ↔
      ∃ name ∈ accepted.map ResourceDescriptor.name, name ∈ Ledger.names before := by
    simp only [Findings.Clashes, h.resources, h.ledger.mem_names_before h.increasing, List.mem_map,
      exists_exists_and_eq_and]
  -- the names taken before the entry decide, and these are the names of smaller instance paths
  have hfollows := h.ledger.follows_of_split
  rw [houtcome, List.nil_append] at hfollows
  cases hfollows with
  | kept hfree =>
      refine Or.inl ⟨rfl, fun hclash => ?_⟩
      obtain ⟨name, hname, htaken⟩ := hclashes.mp hclash
      exact hfree name hname htaken
  | duplicate hname htaken hleast =>
      exact Or.inr ⟨_, _, rfl, hclashes.mpr ⟨_, hname, htaken⟩⟩

end Accounts

/-- **Names are distinct, and a duplicate name drops its whole candidate.**  The names of the
resources of a run are distinct.  Of a candidate that passes its checks either all descriptors are
in the result and nothing is reported, or none is and a duplicate name is reported.  The latter is
so exactly if one of its names belongs to a resource with a smaller instance path. -/
theorem Document.names_distinct {document : Document} {selection : Selection}
    {findings : Findings} (h : document.resources selection = .ok findings) :
    (findings.resources.map ResourceDescriptor.name).Nodup ∧
      ∀ path ∈ document.candidatePaths selection, ∀ accepted,
        document.outcome path = .accepted accepted →
          ((findings.resources.filter (fun resource => resource.instancePath == path) = accepted ∧
              findings.diagnostics.filter (fun diagnostic => diagnostic.path == path) = []) ∨
            (findings.resources.filter (fun resource => resource.instancePath == path) = [] ∧
              ∃ name rootPath,
                findings.diagnostics.filter (fun diagnostic => diagnostic.path == path) =
                  [⟨.resource, path, .duplicateResource name rootPath⟩])) ∧
          ((∃ name rootPath, ⟨.resource, path, .duplicateResource name rootPath⟩ ∈
            findings.diagnostics) ↔ findings.Clashes path accepted) := by
  obtain ⟨entries, haccounts⟩ := exists_accounts h
  refine ⟨?_, fun path hpath accepted houtcome => ?_⟩
  · have hnames := haccounts.ledger.nodup_names List.nodup_nil
    rw [haccounts.resources]
    simpa [Ledger.names] using hnames
  obtain ⟨verdict, hentry⟩ := haccounts.exists_entry hpath
  have hkept := haccounts.filter_resources hentry
  have hreported := haccounts.filter_diagnostics hentry
  -- a report of a duplicate name carries the path, so it is among those under the path
  have hother (name rootPath : String) :
      (⟨.resource, path, .duplicateResource name rootPath⟩ : Diagnostic) ∈ findings.diagnostics ↔
        ⟨.resource, path, .duplicateResource name rootPath⟩ ∈ findings.diagnostics.filter
          fun diagnostic => diagnostic.path == path := by
    simp [Diagnostic.path]
  rcases haccounts.kept_or_duplicate hentry houtcome with
    ⟨rfl, hfree⟩ | ⟨name, rootPath, rfl, hclash⟩
  · have hnone : findings.diagnostics.filter (fun diagnostic => diagnostic.path == path) = [] :=
      hreported
    refine ⟨Or.inl ⟨hkept, hnone⟩, ?_, fun hclash => ?_⟩
    · rintro ⟨name, rootPath, hmem⟩
      rw [hother, hnone] at hmem
      cases hmem
    · exact absurd hclash hfree
  · have hone : findings.diagnostics.filter (fun diagnostic => diagnostic.path == path) =
        [⟨.resource, path, .duplicateResource name rootPath⟩] := by
      rw [hreported]
      simp [Diagnostic.path]
    refine ⟨Or.inr ⟨hkept, name, rootPath, hone⟩, fun _ => hclash, fun _ => ?_⟩
    refine ⟨name, rootPath, ?_⟩
    rw [hother, hone]
    exact List.mem_singleton_self _

namespace Sample

/-- The second template of the sample document for the same collection passes its checks. -/
theorem exists_outcome : ∃ accepted, document.outcome "/v1/cdns/{key}" = .accepted accepted ∧
    accepted.map ResourceDescriptor.name = ["cdns_v1"] := by
  have hrun : (document.resource "/v1/cdns/{key}").toOption.map (fun descriptor =>
      (descriptor.name, (Region.ofHost? descriptor.host document.extensions).toOption)) =
      some ("cdns_v1", some none) := by
    decide +kernel
  obtain ⟨descriptor, hdescriptor, hresult⟩ := exists_of_toOption_map_eq_some hrun
  obtain ⟨hname, hregions⟩ := Prod.mk.inj hresult
  refine ⟨[descriptor], ?_, by simp [hname]⟩
  cases hhost : Region.ofHost? descriptor.host document.extensions with
  | error error => simp [hhost, Except.toOption] at hregions
  | ok regions =>
      obtain rfl : regions = none := by simpa [hhost, Except.toOption] using hregions
      simp [Document.outcome, hdescriptor, hhost]

/-- The second template of the sample document for the same collection is dropped as a whole. -/
theorem document_names_distinct :
    ∃ findings accepted, document.resources {} = .ok findings ∧
      document.outcome "/v1/cdns/{key}" = .accepted accepted ∧ accepted ≠ [] ∧
      (findings.resources.map ResourceDescriptor.name).Nodup ∧
      findings.resources.filter (fun resource => resource.instancePath == "/v1/cdns/{key}") = [] ∧
      ∃ name rootPath,
        findings.diagnostics.filter (fun diagnostic => diagnostic.path == "/v1/cdns/{key}") =
          [⟨.resource, "/v1/cdns/{key}", .duplicateResource name rootPath⟩] := by
  obtain ⟨findings, hfindings, hresources, -⟩ := exists_findings
  obtain ⟨accepted, houtcome, haccepted⟩ := exists_outcome
  have hpath : "/v1/cdns/{key}" ∈ document.candidatePaths {} := by simp [candidatePaths_document]
  obtain ⟨hnodup, hcandidates⟩ := Document.names_distinct hfindings
  obtain ⟨hcase, hreported⟩ := hcandidates _ hpath accepted houtcome
  have hclash : findings.Clashes "/v1/cdns/{key}" accepted := by
    obtain ⟨resource, hresource, hname⟩ := List.mem_map.mp
      (show "cdns_v1" ∈ accepted.map ResourceDescriptor.name by simp [haccepted])
    obtain ⟨earlier, hearlier, heq⟩ := List.mem_map.mp
      (show ("cdns_v1", "/v1/cdns/{id}") ∈ findings.resources.map
        (fun resource => (resource.name, resource.instancePath)) by simp [hresources])
    rw [Prod.mk.injEq] at heq
    refine ⟨resource, hresource, earlier, hearlier, ?_, heq.1.trans hname.symm⟩
    rw [heq.2]
    decide +kernel
  have hne : accepted ≠ [] := by
    rintro rfl
    cases haccepted
  refine ⟨findings, accepted, hfindings, houtcome, hne, hnodup, ?_⟩
  rcases hcase with ⟨-, hnone⟩ | hdropped
  · obtain ⟨name, rootPath, hmem⟩ := hreported.mpr hclash
    exact absurd (beq_self_eq_true _) (List.filter_eq_nil_iff.mp hnone _ hmem)
  · exact hdropped

end Sample

end ResourceGraph
