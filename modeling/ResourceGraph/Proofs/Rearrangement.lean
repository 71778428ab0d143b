import ResourceGraph.Proofs.Distinctness
import ResourceGraph.Proofs.Restriction

/-!
# Runs that report no duplicate name

A run that reports no duplicate name gives each candidate the verdict that its outcome asks for,
whatever has been found before (`Ledger.eq_verdicts`).  Conversely, where no two names are the same,
these verdicts make a ledger in any order of the candidates (`Ledger.of_nodup`).

So two such runs can be compared candidate by candidate.  If the candidates of one document are
those of another one under other paths and in another order, and what becomes of each of them is the
same up to a change that keeps the name, then both runs return, and their resources are the same up
to this change and the order.
-/

namespace ResourceGraph

/-! ## Verdicts on their own -/

/-- The verdict on an outcome if none of its names is taken. -/
def Outcome.verdict : Outcome → Verdict
  | accepted resources => .kept resources
  | rejected rejection => .dropped rejection
  | failed _ => .kept []

/-- The verdicts on some paths if no name is ever taken. -/
def Document.verdicts (document : Document) (paths : List String) : List (String × Verdict) :=
  paths.map fun path => (path, (document.outcome path).verdict)

theorem Document.resources_verdicts (document : Document) (paths : List String) :
    Ledger.resources (document.verdicts paths) =
      paths.flatMap fun path => (document.outcome path).verdict.resources := by
  rw [Ledger.resources, verdicts, List.flatMap_map]

theorem Document.map_fst_verdicts (document : Document) (paths : List String) :
    (document.verdicts paths).map Prod.fst = paths := by
  rw [verdicts, List.map_map]
  exact List.map_id paths

/-- A verdict that reports no duplicate name does not depend on the names that are taken. -/
theorem Verdict.Follows.eq_verdict {taken : List String} {path : String} {outcome : Outcome}
    {verdict : Verdict} (h : verdict.Follows taken path outcome) (hsingle : verdict.NotDuplicate) :
    verdict = outcome.verdict ∧ ∀ error, outcome ≠ .failed error := by
  cases h with
  | kept hfree => exact ⟨rfl, fun error herror => by cases herror⟩
  | duplicate hname htaken hleast => exact absurd rfl (hsingle _ (List.mem_singleton_self _))
  | rejected => exact ⟨rfl, fun error herror => by cases herror⟩

namespace Ledger

variable {document : Document} {taken paths : List String} {entries : List (String × Verdict)}

theorem eq_verdict_of_mem (h : Ledger document taken entries)
    (hsingle : ∀ entry ∈ entries, entry.2.NotDuplicate) {entry : String × Verdict}
    (hentry : entry ∈ entries) : entry.2 = (document.outcome entry.1).verdict ∧
      ∀ error, document.outcome entry.1 ≠ .failed error := by
  obtain ⟨path, verdict⟩ := entry
  have hnot : verdict.NotDuplicate := hsingle _ hentry
  obtain ⟨before, after, rfl⟩ := List.append_of_mem hentry
  exact h.follows_of_split.eq_verdict hnot

/-- **A ledger without duplicate names** lists the verdicts that the outcomes ask for. -/
theorem eq_verdicts (h : Ledger document taken entries)
    (hsingle : ∀ entry ∈ entries, entry.2.NotDuplicate) :
    entries = document.verdicts (entries.map Prod.fst) := by
  have hentry : ∀ entry ∈ entries,
      ((fun path => (path, (document.outcome path).verdict)) ∘ Prod.fst) entry = id entry := by
    intro entry hentry
    rw [Function.comp_apply, ← (h.eq_verdict_of_mem hsingle hentry).1]
    rfl
  rw [Document.verdicts, List.map_map, List.map_congr_left hentry, List.map_id]

/-- **Distinct names make a ledger**, in whatever order the paths are gone through. -/
theorem of_nodup (hfailed : ∀ path ∈ paths, ∀ error, document.outcome path ≠ .failed error)
    (hnames : (taken ++ names (document.verdicts paths)).Nodup) :
    Ledger document taken (document.verdicts paths) := by
  -- the names that are taken before the first path grow along the list
  induction paths generalizing taken with
  | nil => exact .nil taken
  | cons path rest ih =>
      rw [Document.verdicts, List.map_cons, names_cons, ← List.append_assoc] at hnames
      have hrest := ih (fun other hother => hfailed other (List.mem_cons_of_mem _ hother)) hnames
      have hfirst : (document.outcome path).verdict.Follows taken path (document.outcome path) := by
        have hsound := hfailed path (List.mem_cons_self ..)
        cases houtcome : document.outcome path with
        | failed error => exact absurd houtcome (hsound error)
        | rejected rejection => exact .rejected
        | accepted resources =>
            refine .kept fun name hname htaken => ?_
            rw [houtcome] at hnames
            exact (List.nodup_append.mp (List.nodup_append.mp hnames).1).2.2 name htaken name
              hname rfl
      exact .cons hfirst hrest

end Ledger

/-! ## Two runs -/

/-- What becomes of a path in one document and of a path in another one: changed descriptors, a
rejection of the same kind, or the same error. -/
inductive Outcome.Corresponds (change : ResourceDescriptor → ResourceDescriptor) :
    Outcome → Outcome → Prop
  | accepted (resources : List ResourceDescriptor) :
      Corresponds change (.accepted resources) (.accepted (resources.map change))
  | rejected {rejection other : Rejection} (hkind : other.kind = rejection.kind) :
      Corresponds change (.rejected rejection) (.rejected other)
  | failed (error : AnalysisError) : Corresponds change (.failed error) (.failed error)

section

variable {change : ResourceDescriptor → ResourceDescriptor} {outcome other : Outcome}

theorem Outcome.Corresponds.resources_eq (h : outcome.Corresponds change other) :
    other.verdict.resources = outcome.verdict.resources.map change := by
  cases h with
  | accepted resources => rfl
  | rejected hkind => rfl
  | failed error => rfl

theorem Outcome.Corresponds.notDuplicate (h : outcome.Corresponds change other)
    (hsingle : outcome.verdict.NotDuplicate) : other.verdict.NotDuplicate := by
  cases h with
  | accepted resources => exact hsingle
  | rejected hkind =>
      intro diagnostic hmem
      rw [List.mem_singleton.mp hmem, hkind]
      exact hsingle _ (List.mem_singleton_self _)
  | failed error => exact hsingle

theorem Outcome.Corresponds.ne_failed (h : outcome.Corresponds change other)
    (hfailed : ∀ error, outcome ≠ .failed error) : ∀ error, other ≠ .failed error := by
  cases h with
  | accepted resources => simp
  | rejected hkind => simp
  | failed error => exact absurd rfl (hfailed error)

end

section

variable {document other : Document} {paths otherPaths : List String} {moved : String → String}
  {change : ResourceDescriptor → ResourceDescriptor}

/-- Corresponding paths, in any order, ask for the changed resources. -/
theorem Document.resources_verdicts_perm (hpaths : otherPaths.Perm (paths.map moved))
    (houtcome : ∀ path ∈ paths,
      (document.outcome path).Corresponds change (other.outcome (moved path))) :
    (Ledger.resources (other.verdicts otherPaths)).Perm
      ((Ledger.resources (document.verdicts paths)).map change) := by
  have hsame : ∀ path ∈ paths, (other.outcome (moved path)).verdict.resources =
      (document.outcome path).verdict.resources.map change := fun path hpath =>
    (houtcome path hpath).resources_eq
  have hblocks := hpaths.flatMap_right fun path => (other.outcome path).verdict.resources
  rw [List.flatMap_map, List.flatMap_congr hsame, ← List.map_flatMap] at hblocks
  rw [resources_verdicts, resources_verdicts]
  exact hblocks

/-- A change that keeps the name of every resource keeps the names that are asked for. -/
theorem Document.names_verdicts_perm (hpaths : otherPaths.Perm (paths.map moved))
    (houtcome : ∀ path ∈ paths,
      (document.outcome path).Corresponds change (other.outcome (moved path)))
    (hname : ∀ resource, (change resource).name = resource.name) :
    (Ledger.names (other.verdicts otherPaths)).Perm (Ledger.names (document.verdicts paths)) := by
  have hkept : ∀ resources : List ResourceDescriptor,
      (resources.map change).map ResourceDescriptor.name =
        resources.map ResourceDescriptor.name := fun resources => by
    rw [List.map_map]
    exact List.map_congr_left fun resource _ => hname resource
  rw [Ledger.names, Ledger.names, ← hkept (Ledger.resources (document.verdicts paths))]
  exact (resources_verdicts_perm hpaths houtcome).map _

end

/-- A run that reports no duplicate name is the ledger of the verdicts on its candidates, and none
of them is a failure. -/
theorem Findings.NoDuplicate.verdicts {document : Document} {selection : Selection}
    {findings : Findings} (hsingle : findings.NoDuplicate)
    (h : document.resources selection = .ok findings) :
    findings.resources =
        Ledger.resources (document.verdicts (document.candidatePaths selection)) ∧
      (Ledger.names (document.verdicts (document.candidatePaths selection))).Nodup ∧
      ∀ path ∈ document.candidatePaths selection,
        (document.outcome path).verdict.NotDuplicate ∧
          ∀ error, document.outcome path ≠ .failed error := by
  obtain ⟨entries, haccounts⟩ := Document.exists_accounts h
  have hverdicts := haccounts.noDuplicate_iff.mp hsingle
  have hentries : entries = document.verdicts (document.candidatePaths selection) :=
    haccounts.paths ▸ haccounts.ledger.eq_verdicts hverdicts
  refine ⟨hentries ▸ haccounts.resources,
    hentries ▸ haccounts.ledger.nodup_names List.nodup_nil, fun path hpath => ?_⟩
  obtain ⟨verdict, hentry⟩ := haccounts.exists_entry hpath
  obtain ⟨heq, hfailed⟩ := haccounts.ledger.eq_verdict_of_mem hverdicts hentry
  exact ⟨heq ▸ hverdicts _ hentry, hfailed⟩

/-- **Corresponding candidates in any order.**  A run that reports no duplicate name returns as well
on a document with corresponding candidates, without such a report, and finds the changed
resources. -/
theorem Document.resources_rearranged {document other : Document}
    {selection otherSelection : Selection} {findings : Findings} {moved : String → String}
    {change : ResourceDescriptor → ResourceDescriptor}
    (hpaths : (other.candidatePaths otherSelection).Perm
      ((document.candidatePaths selection).map moved))
    (houtcome : ∀ path ∈ document.candidatePaths selection,
      (document.outcome path).Corresponds change (other.outcome (moved path)))
    (hname : ∀ resource, (change resource).name = resource.name)
    (h : document.resources selection = .ok findings) (hsingle : findings.NoDuplicate) :
    ∃ found, other.resources otherSelection = .ok found ∧ found.NoDuplicate ∧
      found.resources.Perm (findings.resources.map change) := by
  obtain ⟨hfindings, hnodup, hverdict⟩ := hsingle.verdicts h
  have horiginal : ∀ path ∈ other.candidatePaths otherSelection,
      ∃ first ∈ document.candidatePaths selection, moved first = path := fun path hpath =>
    List.mem_map.mp (hpaths.mem_iff.mp hpath)
  have hfailed : ∀ path ∈ other.candidatePaths otherSelection,
      ∀ error, other.outcome path ≠ .failed error := by
    intro path hpath
    obtain ⟨first, hfirst, rfl⟩ := horiginal path hpath
    exact (houtcome first hfirst).ne_failed (hverdict first hfirst).2
  -- the names of both runs are the same, so that those of the other one are distinct as well
  have hledger : Ledger other [] (other.verdicts (other.candidatePaths otherSelection)) :=
    .of_nodup hfailed ((names_verdicts_perm hpaths houtcome hname).nodup_iff.mpr hnodup)
  obtain ⟨found, hfound, hothers⟩ := hledger.exists_accounts (map_fst_verdicts _ _)
  have hresources : found.resources.Perm (findings.resources.map change) := by
    rw [hothers.resources, hfindings]
    exact resources_verdicts_perm hpaths houtcome
  refine ⟨found, hfound, hothers.noDuplicate_iff.mpr fun entry hentry => ?_, hresources⟩
  obtain ⟨path, hpath, rfl⟩ := List.mem_map.mp hentry
  obtain ⟨first, hfirst, rfl⟩ := horiginal path hpath
  exact (houtcome first hfirst).notDuplicate (hverdict first hfirst).1

end ResourceGraph
