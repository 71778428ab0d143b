import ResourceGraph.Proofs.Attribution
import ResourceGraph.Proofs.Restriction

/-!
# Rejections are isolated

A path that a run rejects leaves one diagnostic behind and nothing else.  In particular it takes no
name, not even where its descriptors are gone through one after the other and only one of them in
the middle repeats a name.  So its entry can be taken out of the ledger, and what is left is a
ledger of the remaining paths (`Ledger.erase`).

Excluding such a path from the selection is therefore the same as crossing out its diagnostic, for
whatever reason the path has been rejected.  This needs no assumption on duplicate names, unlike the
restriction to any smaller selection: what is excluded here has not been found.
-/

namespace ResourceGraph

/-! ## Excluding a path -/

/-- A selection without one more path. -/
def Selection.exclude (selection : Selection) (path : String) : Selection :=
  { selection with excluded := selection.excluded ++ [path] }

@[simp] theorem Selection.selects_exclude {selection : Selection} {path other : String} :
    (selection.exclude path).selects other = true ↔
      selection.selects other = true ∧ other ≠ path := by
  simp only [selects, exclude, List.contains_eq_mem, List.mem_append, List.mem_singleton,
    Bool.and_eq_true, Bool.not_eq_true', decide_eq_false_iff_not, not_or]
  tauto

/-! ## Ledgers without an entry that takes no names -/

namespace Ledger

variable {document : Document} {taken : List String} {path : String} {verdict : Verdict}
  {before after : List (String × Verdict)}

/-- **What takes no names can be taken out.**  A ledger stays one without such an entry. -/
theorem erase (h : Ledger document taken (before ++ (path, verdict) :: after))
    (hnone : verdict.names = []) : Ledger document taken (before ++ after) := by
  induction before generalizing taken with
  | nil =>
      cases h with
      | cons hfirst hrest =>
          rw [hnone, List.append_nil] at hrest
          exact hrest
  | cons entry rest ih =>
      -- the names that are taken before the entry do not depend on it
      cases h with
      | cons hfirst hrest => exact .cons hfirst (ih hrest)

end Ledger

/-! ## Runs without a rejected path -/

section Run

variable {document : Document} {selection : Selection} {findings : Findings} {path : String}
  {rejection : Rejection} {before after : List (String × Verdict)}

/-- The candidates of a selection without a path are all others. -/
theorem Document.candidatePaths_exclude :
    document.candidatePaths (selection.exclude path) =
      (document.candidatePaths selection).erase path := by
  have hnarrow : ∀ other, document.declares other → (selection.exclude path).selects other →
      selection.selects other := fun other _ hother => (Selection.selects_exclude.mp hother).1
  have hnodup : (document.candidatePaths selection).Nodup :=
    (pairwise_candidatePaths document selection).imp ne_of_lt
  rw [candidatePaths_eq_filter hnarrow, hnodup.erase_eq_filter]
  refine List.filter_congr fun other hother => ?_
  have hselected := (mem_candidatePaths.mp hother).2.1
  rw [Bool.eq_iff_iff, Selection.selects_exclude, bne_iff_ne]
  exact and_iff_right hselected

/-- **A run without a path that it rejects** has the entries of all other paths. -/
theorem Accounts.exclude
    (h : Accounts document selection findings (before ++ (path, .dropped rejection) :: after)) :
    ∃ excluded, document.resources (selection.exclude path) = .ok excluded ∧
      Accounts document (selection.exclude path) excluded (before ++ after) := by
  have hledger : Ledger document [] (before ++ after) := h.ledger.erase (Verdict.names_dropped _)
  refine hledger.exists_accounts ?_
  have hnodup := h.nodup
  rw [List.map_append, List.map_cons, List.nodup_append] at hnodup
  have hbefore : path ∉ before.map Prod.fst := fun hmem =>
    hnodup.2.2 path hmem path (List.mem_cons_self ..) rfl
  rw [Document.candidatePaths_exclude, ← h.paths, List.map_append, List.map_append, List.map_cons,
    List.erase_append_right _ hbefore, List.erase_cons_head]

/-- **A rejection is isolated.**  If a run has found nothing under a candidate path, the run without
this path finds the same resources.  The two runs have the same entries, in the same order, for all
other paths, so their diagnostics are the same but for the one that the path has left. -/
theorem Document.rejection_isolated (h : document.resources selection = .ok findings)
    (hpath : path ∈ document.candidatePaths selection)
    (hnone : ∀ resource ∈ findings.resources, resource.instancePath ≠ path) :
    ∃ excluded, document.resources (selection.exclude path) = .ok excluded ∧
      excluded.resources = findings.resources ∧
      ∃ before rejection after,
        Accounts document selection findings (before ++ (path, .dropped rejection) :: after) ∧
        Accounts document (selection.exclude path) excluded (before ++ after) ∧
        findings.diagnostics = before.flatMap (fun entry => entry.2.diagnostics) ++
          ⟨.resource, rejection⟩ :: after.flatMap (fun entry => entry.2.diagnostics) ∧
        excluded.diagnostics = before.flatMap (fun entry => entry.2.diagnostics) ++
          after.flatMap (fun entry => entry.2.diagnostics) := by
  obtain ⟨entries, haccounts⟩ := exists_accounts h
  obtain ⟨rejection, hentry⟩ := haccounts.exists_dropped hpath hnone
  obtain ⟨before, after, rfl⟩ := List.append_of_mem hentry
  obtain ⟨excluded, hexcluded, hrest⟩ := haccounts.exclude
  refine ⟨excluded, hexcluded, ?_, before, rejection, after, haccounts, hrest, ?_, ?_⟩
  · rw [haccounts.resources, hrest.resources]
    simp [Ledger.resources]
  · rw [haccounts.diagnostics]
    simp
  · rw [hrest.diagnostics, List.flatMap_append]

end Run

/-! ## A clash in the middle of a block -/

namespace Sample

/-- Piers in three regions, of which the second one has a name that landings have taken before, and
wharves with the name of the first region. -/
def piers : Document :=
  { paths := [("/landings", collection [("x-terraform-resource-name", .text "piers_v1_eu")]),
      ("/landings/{id}", readable),
      ("/v1/piers",
        collection [("x-terraform-resource-host", .text "piers.$\x7bregion\x7d.api.com")]),
      ("/v1/piers/{id}", readable),
      ("/wharves", collection [("x-terraform-resource-name", .text "piers_v1_us")]),
      ("/wharves/{id}", readable)]
    extensions := [("x-terraform-resource-regions-region", .text "us, eu, asia")] }

/-- The run on the piers drops all three of them, so the wharves can have their name. -/
theorem exists_piers_findings : ∃ findings, piers.resources {} = .ok findings ∧
    findings.resources.map (fun resource => (resource.name, resource.instancePath)) =
      [("piers_v1_eu", "/landings/{id}"), ("piers_v1_us", "/wharves/{id}")] ∧
    findings.diagnostics =
      [⟨.resource, "/v1/piers/{id}", .duplicateResource "piers_v1_eu" "/v1/piers"⟩] := by
  have hrun : (piers.resources {}).toOption.map (fun findings =>
      (findings.resources.map (fun resource => (resource.name, resource.instancePath)),
        findings.diagnostics)) =
      some ([("piers_v1_eu", "/landings/{id}"), ("piers_v1_us", "/wharves/{id}")],
        [⟨.resource, "/v1/piers/{id}", .duplicateResource "piers_v1_eu" "/v1/piers"⟩]) := by
    decide +kernel
  obtain ⟨findings, hfindings, hresult⟩ := exists_of_toOption_map_eq_some hrun
  exact ⟨findings, hfindings, Prod.mk.inj hresult⟩

/-- Without the piers the landings and the wharves are found as before, and nothing is reported. -/
theorem piers_rejection_isolated :
    ∃ findings excluded, piers.resources {} = .ok findings ∧
      "/v1/piers/{id}" ∈ piers.candidatePaths {} ∧
      (∀ resource ∈ findings.resources, resource.instancePath ≠ "/v1/piers/{id}") ∧
      piers.resources (Selection.exclude {} "/v1/piers/{id}") = .ok excluded ∧
      excluded.resources = findings.resources ∧ findings.diagnostics.length = 1 ∧
      excluded.diagnostics = [] := by
  obtain ⟨findings, hfindings, hresources, hdiagnostics⟩ := exists_piers_findings
  have hpath : "/v1/piers/{id}" ∈ piers.candidatePaths {} := by decide +kernel
  have hnone : ∀ resource ∈ findings.resources, resource.instancePath ≠ "/v1/piers/{id}" := by
    intro resource hresource hsame
    have hmem := List.mem_map_of_mem (f := fun resource : ResourceDescriptor =>
      (resource.name, resource.instancePath)) hresource
    rw [hresources, hsame] at hmem
    simp at hmem
  obtain ⟨excluded, hexcluded, hkept, before, rejection, after, -, -, hall, hrest⟩ :=
    Document.rejection_isolated hfindings hpath hnone
  have hlength : findings.diagnostics.length = 1 := by rw [hdiagnostics, List.length_singleton]
  refine ⟨findings, excluded, hfindings, hpath, hnone, hexcluded, hkept, hlength, ?_⟩
  -- the only diagnostic is the one that is crossed out
  rw [hall, List.length_append, List.length_cons] at hlength
  rw [← List.length_eq_zero_iff, hrest, List.length_append]
  omega

end Sample

end ResourceGraph
