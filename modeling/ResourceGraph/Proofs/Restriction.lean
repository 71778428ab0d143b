import ResourceGraph.Proofs.Grounding

/-!
# Restricting a selection

A selection says which paths are candidates, and nothing else: what becomes of a candidate
(`Document.outcome`) is read off the whole document.  So a run on fewer paths gives the same
verdicts on those that are left, unless a verdict depends on what the run has done before.  This is
so for a name that is taken, and for nothing else (`Verdict.Follows.of_subset`).

A run that reports no duplicate name can therefore be restricted entry by entry
(`Ledger.filter`), and it returns what is left of its resources.  Where a name is repeated, this
fails: the path that has taken the name may be among those that are left out.
-/

namespace ResourceGraph

/-! ## Verdicts on fewer paths -/

/-- No verdict reports a name that is taken. -/
def Verdict.NotDuplicate (verdict : Verdict) : Prop :=
  ∀ diagnostic ∈ verdict.diagnostics, diagnostic.rejection.kind ≠ "DuplicateResource"

/-- The findings of a run report no name that is taken. -/
def Findings.NoDuplicate (findings : Findings) : Prop :=
  ∀ diagnostic ∈ findings.diagnostics, diagnostic.rejection.kind ≠ "DuplicateResource"

theorem Accounts.noDuplicate_iff {document : Document} {selection : Selection}
    {findings : Findings} {entries : List (String × Verdict)}
    (h : Accounts document selection findings entries) :
    findings.NoDuplicate ↔ ∀ entry ∈ entries, entry.2.NotDuplicate := by
  simp only [Findings.NoDuplicate, h.diagnostics, List.mem_flatMap, Verdict.NotDuplicate]
  constructor
  · exact fun hall entry hentry diagnostic hmem => hall diagnostic ⟨entry, hentry, hmem⟩
  · rintro hall diagnostic ⟨entry, hentry, hmem⟩
    exact hall entry hentry diagnostic hmem

/-- A verdict that reports no duplicate name stays the same if fewer names are taken. -/
theorem Verdict.Follows.of_subset {taken taken' : List String} {path : String} {outcome : Outcome}
    {verdict : Verdict} (h : verdict.Follows taken path outcome) (hsubset : taken' ⊆ taken)
    (hsingle : verdict.NotDuplicate) : verdict.Follows taken' path outcome := by
  cases h with
  | kept hfree => exact .kept fun name hname hmem => hfree name hname (hsubset hmem)
  | duplicate hname htaken hleast => exact absurd rfl (hsingle _ (List.mem_singleton_self _))
  | rejected => exact .rejected

namespace Ledger

variable {document : Document} {entries : List (String × Verdict)}

/-- **A ledger without duplicate names can be restricted** to the entries of some paths. -/
theorem filter {taken taken' : List String} (picks : String → Bool)
    (h : Ledger document taken entries) (hsubset : taken' ⊆ taken)
    (hsingle : ∀ entry ∈ entries, entry.2.NotDuplicate) :
    Ledger document taken' (entries.filter fun entry => picks entry.1) := by
  -- an entry that is left out takes no names, so fewer names are taken than before
  induction h generalizing taken' with
  | nil taken => exact .nil taken'
  | @cons taken path verdict rest hfirst hrest ih =>
      have hlater : ∀ entry ∈ rest, entry.2.NotDuplicate := fun entry hentry =>
        hsingle entry (List.mem_cons_of_mem _ hentry)
      cases hpick : picks path with
      | true =>
          have hverdict := hfirst.of_subset hsubset (hsingle _ (List.mem_cons_self ..))
          have hnames : taken' ++ verdict.names ⊆ taken ++ verdict.names :=
            List.append_subset.mpr ⟨List.subset_append_of_subset_left _ hsubset,
              List.subset_append_right ..⟩
          simp only [List.filter_cons, hpick, if_true]
          exact .cons hverdict (ih hnames hlater)
      | false =>
          simp only [List.filter_cons, hpick, Bool.false_eq_true, if_false]
          exact ih (List.subset_append_of_subset_left _ hsubset) hlater

/-- What the remaining entries of a ledger add are the descriptors that carry one of their paths. -/
theorem resources_filter (picks : String → Bool)
    (h : ∀ entry ∈ entries, ∀ resource ∈ entry.2.resources, resource.instancePath = entry.1) :
    resources (entries.filter fun entry => picks entry.1) =
      (resources entries).filter fun resource => picks resource.instancePath := by
  induction entries with
  | nil => rfl
  | cons entry rest ih =>
      have hrest := ih fun other hother => h other (List.mem_cons_of_mem _ hother)
      have hfirst := h entry (List.mem_cons_self ..)
      simp only [resources, List.flatMap_cons, List.filter_append] at hrest ⊢
      rw [← hrest]
      cases hpick : picks entry.1 with
      | true =>
          have hall : entry.2.resources.filter (fun resource => picks resource.instancePath) =
              entry.2.resources :=
            List.filter_eq_self.mpr fun resource hmem => by rw [hfirst resource hmem, hpick]
          simp only [List.filter_cons, hpick, if_true, hall, List.flatMap_cons]
      | false =>
          have hnone : entry.2.resources.filter (fun resource => picks resource.instancePath) =
              [] :=
            List.filter_eq_nil_iff.mpr fun resource hmem => by simp [hfirst resource hmem, hpick]
          simp only [List.filter_cons, hpick, Bool.false_eq_true, if_false, hnone,
            List.nil_append]

end Ledger

/-! ## Candidates of a smaller selection -/

section Run

variable {document : Document} {narrow wide : Selection} {findings : Findings}
  {entries : List (String × Verdict)}

/-- The candidates of a smaller selection are those candidates of the larger one that it selects. -/
theorem Document.candidatePaths_eq_filter (hnarrow : ∀ path, document.declares path →
    narrow.selects path → wide.selects path) :
    document.candidatePaths narrow = (document.candidatePaths wide).filter narrow.selects := by
  refine List.Pairwise.eq_of_mem_iff (pairwise_candidatePaths document narrow)
    ((pairwise_candidatePaths document wide).filter _) fun path => ?_
  rw [List.mem_filter, mem_candidatePaths, mem_candidatePaths]
  constructor
  · rintro ⟨hdeclared, hselected, hform⟩
    exact ⟨⟨hdeclared, hnarrow path hdeclared hselected, hform⟩, hselected⟩
  · rintro ⟨⟨hdeclared, -, hform⟩, hselected⟩
    exact ⟨hdeclared, hselected, hform⟩

/-- **The accounts of a restricted run** are those entries of the larger run whose paths are still
selected. -/
theorem Accounts.restrict (h : Accounts document wide findings entries)
    (hnarrow : ∀ path, document.declares path → narrow.selects path → wide.selects path)
    (hsingle : ∀ entry ∈ entries, entry.2.NotDuplicate) :
    ∃ restricted, document.resources narrow = .ok restricted ∧
      Accounts document narrow restricted (entries.filter fun entry => narrow.selects entry.1) := by
  have hledger := h.ledger.filter narrow.selects (List.Subset.refl _) hsingle
  refine hledger.exists_accounts ?_
  rw [Document.candidatePaths_eq_filter hnarrow, ← h.paths, List.filter_map]
  rfl

end Run

/-! ## Look-ups of a restricted run -/

/-- What a resource says about its collection and about its parents is looked up in the whole
document. -/
structure ResourceDescriptor.LookedUpIn (resource : ResourceDescriptor) (document : Document) :
    Prop where
  rootPath : Path.findRoot document.declares resource.instancePath = .ok resource.rootPath
  root : ∃ root, document.paths.get? resource.rootPath = some root ∧
    resource.name =
      root.resourceName resource.rootPath ++ (resource.region.map ("_" ++ ·)).getD "" ∧
    resource.ignored = root.isIgnored
  parents_eq : resource.parents = Path.parents resource.rootPath
  parents : ∀ parent ∈ resource.parents, parent.Grounded document

section Run

variable {document : Document} {narrow wide selection : Selection} {findings : Findings}

theorem ResourceDescriptor.lookedUpIn_of_mem_resources
    (h : document.resources selection = .ok findings) {resource : ResourceDescriptor}
    (hmem : resource ∈ findings.resources) : resource.LookedUpIn document := by
  obtain ⟨candidate, descriptor, hcandidate, hdescribed, hfault, hcopies⟩ :=
    Document.exists_origin h hmem
  obtain ⟨hdescribes, hname, -, hregion⟩ := Candidate.descriptor_eq_ok_iff.mp hdescribed
  obtain ⟨hroot, -, hdeclared⟩ := Document.candidate_eq_ok hcandidate
  have hresource := hdescribes.of_copies hcopies
  have hparents : resource.parents = descriptor.parents :=
    hresource.parents.trans hdescribes.parents.symm
  refine ⟨hresource.rootPath ▸ hroot,
    ⟨candidate.root, hresource.rootPath ▸ hdeclared.root, ?_, hresource.ignored⟩, ?_, ?_⟩
  · rw [hresource.rootPath, ← hname]
    cases hcopies with
    | single => simp [hregion]
    | regional => simp [inRegion, String.append_assoc]
  · rw [hresource.parents, hresource.rootPath]
  · rw [hparents]
    exact Parent.fault?_eq_none_iff_grounded.mp hfault

/-- **A selection restricts candidates and nothing else.**  If a run reports no duplicate name, the
run on a smaller selection returns as well.  It gives the same verdict on each candidate that is
left, so its resources are those whose instance path is still selected, in the same order.  Their
collections, their parents and whether these are left out are looked up in the whole document, be
they selected or not. -/
theorem Document.resources_restricted
    (hnarrow : ∀ path, document.declares path → narrow.selects path → wide.selects path)
    (h : document.resources wide = .ok findings)
    (hsingle : ∀ diagnostic ∈ findings.diagnostics,
      diagnostic.rejection.kind ≠ "DuplicateResource") :
    ∃ restricted, document.resources narrow = .ok restricted ∧
      restricted.resources =
        findings.resources.filter (fun resource => narrow.selects resource.instancePath) ∧
      (∃ entries, Accounts document wide findings entries ∧
        Accounts document narrow restricted
          (entries.filter fun entry => narrow.selects entry.1)) ∧
      ∀ resource ∈ restricted.resources, resource.LookedUpIn document := by
  obtain ⟨entries, haccounts⟩ := exists_accounts h
  have hverdicts : ∀ entry ∈ entries, entry.2.NotDuplicate := haccounts.noDuplicate_iff.mp hsingle
  obtain ⟨restricted, hrestricted, hkept⟩ := haccounts.restrict hnarrow hverdicts
  refine ⟨restricted, hrestricted, ?_, ⟨entries, haccounts, hkept⟩, fun resource hmem =>
    ResourceDescriptor.lookedUpIn_of_mem_resources hrestricted hmem⟩
  rw [hkept.resources, haccounts.resources, Ledger.resources_filter]
  rintro ⟨path, verdict⟩ hentry
  exact (haccounts.ledger.settles_of_mem hentry).instancePath_eq

end Run

namespace Sample

/-- Trees of orchards, and moles of lawns, which are marked as left out. -/
def grounds : Document :=
  { paths := [("/v1/orchards", collection []), ("/v1/orchards/{id}", readable),
      ("/v1/orchards/{id}/trees", collection []), ("/v1/orchards/{id}/trees/{tree}", readable),
      ("/v1/lawns", collection [("x-terraform-exclude-resource", .bool true)]),
      ("/v1/lawns/{id}", readable),
      ("/v1/lawns/{id}/moles", collection []), ("/v1/lawns/{id}/moles/{mole}", readable)] }

/-- All paths but the orchards. -/
def withoutOrchards : Selection := { excluded := ["/v1/orchards"] }

/-- The instance paths of trees and of moles, without their collections and their parents. -/
def nestedInstances : Selection :=
  { prefixes := some (.many ["/v1/orchards/{id}/", "/v1/lawns/{id}/"])
    excluded := ["/v1/orchards/{id}/trees", "/v1/lawns/{id}/moles"] }

/-- The run on the smaller selection keeps the trees and leaves out the moles. -/
theorem exists_findings_nested : ∃ findings, grounds.resources nestedInstances = .ok findings ∧
    findings.resources.map ResourceDescriptor.name = ["orchards_v1_trees"] ∧
    findings.diagnostics = [⟨.resource, "/v1/lawns/{id}/moles/{mole}",
      .ignoredParentRoot "/v1/lawns"⟩] := by
  have hrun : (grounds.resources nestedInstances).toOption.map (fun findings =>
      (findings.resources.map ResourceDescriptor.name, findings.diagnostics)) =
      some (["orchards_v1_trees"], [⟨.resource, "/v1/lawns/{id}/moles/{mole}",
        .ignoredParentRoot "/v1/lawns"⟩]) := by
    decide +kernel
  obtain ⟨findings, hfindings, hresult⟩ := exists_of_toOption_map_eq_some hrun
  exact ⟨findings, hfindings, Prod.mk.inj hresult⟩

/-- The trees are found with nothing else of the orchards selected, and the moles are left out
because of a lawn that is not selected. -/
theorem grounds_restricted :
    ∃ findings restricted, grounds.resources withoutOrchards = .ok findings ∧
      findings.resources.map ResourceDescriptor.name =
        ["lawns_v1", "orchards_v1", "orchards_v1_trees"] ∧
      grounds.resources nestedInstances = .ok restricted ∧
      restricted.resources = findings.resources.filter
        (fun resource => nestedInstances.selects resource.instancePath) ∧
      restricted.resources.map ResourceDescriptor.name = ["orchards_v1_trees"] ∧
      restricted.diagnostics = [⟨.resource, "/v1/lawns/{id}/moles/{mole}",
        .ignoredParentRoot "/v1/lawns"⟩] ∧
      ∀ resource ∈ restricted.resources, resource.LookedUpIn grounds := by
  have hrun : (grounds.resources withoutOrchards).toOption.map (fun findings =>
      (findings.resources.map ResourceDescriptor.name,
        findings.diagnostics.map fun diagnostic => diagnostic.rejection.kind)) =
      some (["lawns_v1", "orchards_v1", "orchards_v1_trees"],
        ["MissingOrIgnoredParentRootPath"]) := by
    decide +kernel
  obtain ⟨findings, hfindings, hresult⟩ := exists_of_toOption_map_eq_some hrun
  obtain ⟨hnames, hkinds⟩ := Prod.mk.inj hresult
  have hnarrow : ∀ path ∈ grounds.paths.names, nestedInstances.selects path →
      withoutOrchards.selects path := by
    decide +kernel
  have hsingle : ∀ diagnostic ∈ findings.diagnostics,
      diagnostic.rejection.kind ≠ "DuplicateResource" := by
    intro diagnostic hmem
    have hkind := List.mem_map_of_mem (f := fun diagnostic => diagnostic.rejection.kind) hmem
    rw [hkinds, List.mem_singleton] at hkind
    rw [hkind]
    decide
  obtain ⟨restricted, hrestricted, hfilter, -, hlookedUp⟩ := Document.resources_restricted
    (fun path hdeclared => hnarrow path (Table.mem_names.mpr hdeclared)) hfindings hsingle
  obtain ⟨found, hfound, hkept, hreported⟩ := exists_findings_nested
  cases hrestricted.symm.trans hfound
  exact ⟨findings, restricted, hfindings, hnames, hrestricted, hfilter, hkept, hreported,
    hlookedUp⟩

end Sample

end ResourceGraph
