import ResourceGraph.Analysis.Result
import ResourceGraph.Proofs.Outcome

/-!
# The ledger of a run

`Document.resources` goes through the instance paths with the findings so far.  What one path adds
to the findings depends on these only through the names that are already taken.  A ledger lists the
paths of a run with the verdict on each of them, and `Ledger` says how a verdict follows from the
outcome of its path and the names that the entries before it have taken.

`resources_eq_ok_iff` is the bridge: the runs that return are exactly the ledgers of the candidate
paths, and the findings are what their entries add, one entry after the other.  From here on a
property of all runs is an induction on ledgers.
-/

namespace ResourceGraph

/-! ## Verdicts -/

/-- What becomes of an instance path in a run: its descriptors are found, or it is left out for one
reason. -/
inductive Verdict where
  | kept (resources : List ResourceDescriptor)
  | dropped (rejection : Rejection)

namespace Verdict

/-- The descriptors that a verdict adds to the findings. -/
def resources : Verdict → List ResourceDescriptor
  | kept resources => resources
  | dropped _ => []

/-- The rejections that a verdict adds to the findings. -/
def rejections : Verdict → List Rejection
  | kept _ => []
  | dropped rejection => [rejection]

/-- The diagnostics that a verdict adds to the result of an analysis. -/
def diagnostics (verdict : Verdict) : List Diagnostic :=
  verdict.rejections.map (Diagnostic.mk .resource)

/-- The names that a verdict takes. -/
def names (verdict : Verdict) : List String := verdict.resources.map ResourceDescriptor.name

section

variable (resources : List ResourceDescriptor) (rejection : Rejection)

@[simp] theorem resources_kept : (kept resources).resources = resources := rfl

@[simp] theorem resources_dropped : (dropped rejection).resources = [] := rfl

@[simp] theorem rejections_kept : (kept resources).rejections = [] := rfl

@[simp] theorem rejections_dropped : (dropped rejection).rejections = [rejection] := rfl

@[simp] theorem diagnostics_kept : (kept resources).diagnostics = [] := rfl

@[simp] theorem diagnostics_dropped :
    (dropped rejection).diagnostics = [⟨.resource, rejection⟩] := rfl

@[simp] theorem names_kept :
    (kept resources).names = resources.map ResourceDescriptor.name := rfl

@[simp] theorem names_dropped : (dropped rejection).names = [] := rfl

end

theorem mem_diagnostics {verdict : Verdict} {diagnostic : Diagnostic} :
    diagnostic ∈ verdict.diagnostics ↔
      ∃ rejection, verdict = dropped rejection ∧ diagnostic = ⟨.resource, rejection⟩ := by
  cases verdict with
  | kept resources => simp
  | dropped rejection => simp

/-- The verdict on a path follows from its outcome and from the names that are taken.  Descriptors
with a name that is taken are dropped together, and the smallest such name is reported. -/
inductive Follows (taken : List String) (path : String) : Outcome → Verdict → Prop
  | kept {resources : List ResourceDescriptor}
      (hfree : ∀ name ∈ resources.map ResourceDescriptor.name, name ∉ taken) :
      Follows taken path (.accepted resources) (.kept resources)
  | duplicate {resources : List ResourceDescriptor} {name : String}
      (hname : name ∈ resources.map ResourceDescriptor.name) (htaken : name ∈ taken)
      (hleast : ∀ other ∈ resources.map ResourceDescriptor.name, other ∈ taken → name ≤ other) :
      Follows taken path (.accepted resources) (.dropped ⟨path, .duplicateResource name
        ((resources.head?.map ResourceDescriptor.rootPath).getD "")⟩)
  | rejected {rejection : Rejection} :
      Follows taken path (.rejected rejection) (.dropped rejection)

end Verdict

namespace Findings

/-- The findings with what a verdict adds. -/
def add (findings : Findings) (verdict : Verdict) : Findings :=
  { resources := findings.resources ++ verdict.resources
    rejections := findings.rejections ++ verdict.rejections }

/-- The names of the descriptors found so far. -/
def names (findings : Findings) : List String :=
  findings.resources.map ResourceDescriptor.name

variable {findings next : Findings} {resources : List ResourceDescriptor} {name path : String}
  {outcome : Outcome}

@[simp] theorem resources_add (findings : Findings) (verdict : Verdict) :
    (findings.add verdict).resources = findings.resources ++ verdict.resources := rfl

@[simp] theorem rejections_add (findings : Findings) (verdict : Verdict) :
    (findings.add verdict).rejections = findings.rejections ++ verdict.rejections := rfl

@[simp] theorem names_add (findings : Findings) (verdict : Verdict) :
    (findings.add verdict).names = findings.names ++ verdict.names := by
  simp [names, Verdict.names]

theorem clash?_eq_none (h : findings.clash? resources = none) :
    ∀ name ∈ resources.map ResourceDescriptor.name, name ∉ findings.names := by
  intro name hname htaken
  have hnone := List.filter_eq_nil_iff.mp (head?_sortNames_eq_none h) name hname
  exact hnone (by simpa [names] using htaken)

theorem clash?_eq_some (h : findings.clash? resources = some name) :
    name ∈ resources.map ResourceDescriptor.name ∧ name ∈ findings.names ∧
      ∀ other ∈ resources.map ResourceDescriptor.name, other ∈ findings.names → name ≤ other := by
  obtain ⟨hmem, hleast⟩ := head?_sortNames_eq_some h
  obtain ⟨hname, htaken⟩ := List.mem_filter.mp hmem
  refine ⟨hname, by simpa [names] using htaken, fun other hother hknown => ?_⟩
  exact hleast other (List.mem_filter.mpr ⟨hother, by simpa [names] using hknown⟩)

/-- **One step of a run.**  The findings after a path are those before it with what the verdict on
the path adds. -/
theorem record_eq_ok_iff :
    findings.record path outcome = .ok next ↔
      ∃ verdict, Verdict.Follows findings.names path outcome verdict ∧
        next = findings.add verdict := by
  constructor
  · intro h
    cases outcome with
    | failed error => cases h
    | rejected rejection =>
        cases h
        exact ⟨.dropped rejection, .rejected, by simp [add]⟩
    | accepted resources =>
        simp only [record] at h
        split at h
        · next hclash =>
            cases h
            exact ⟨.kept resources, .kept (clash?_eq_none hclash),
              by simp [add]⟩
        · next name hclash =>
            obtain ⟨hname, htaken, hleast⟩ := clash?_eq_some hclash
            cases h
            exact ⟨_, .duplicate hname htaken hleast,
              by simp [add]⟩
  · rintro ⟨verdict, hfollows, rfl⟩
    cases hfollows with
    | rejected => simp [record, add]
    | @kept resources hfree =>
        cases hclash : findings.clash? resources with
        | none => simp [record, hclash, add]
        | some name =>
            obtain ⟨hname, htaken, -⟩ := clash?_eq_some hclash
            exact absurd htaken (hfree name hname)
    | @duplicate resources name hname htaken hleast =>
        cases hclash : findings.clash? resources with
        | none => exact absurd htaken (clash?_eq_none hclash name hname)
        | some other =>
            obtain ⟨hother, hknown, hsmallest⟩ := clash?_eq_some hclash
            obtain rfl : name = other :=
              le_antisymm (hleast other hother hknown) (hsmallest name hname htaken)
            simp [record, hclash, add]

end Findings

/-! ## Ledgers -/

/-- The verdicts on some paths, one after the other, when some names are taken before them. -/
inductive Ledger (document : Document) : List String → List (String × Verdict) → Prop
  | nil (taken : List String) : Ledger document taken []
  | cons {taken : List String} {path : String} {verdict : Verdict}
      {rest : List (String × Verdict)}
      (hfirst : verdict.Follows taken path (document.outcome path))
      (hrest : Ledger document (taken ++ verdict.names) rest) :
      Ledger document taken ((path, verdict) :: rest)

namespace Ledger

/-- The descriptors that the entries of a ledger add. -/
def resources (entries : List (String × Verdict)) : List ResourceDescriptor :=
  entries.flatMap fun entry => entry.2.resources

/-- The rejections that the entries of a ledger add. -/
def rejections (entries : List (String × Verdict)) : List Rejection :=
  entries.flatMap fun entry => entry.2.rejections

/-- The names that the entries of a ledger take. -/
def names (entries : List (String × Verdict)) : List String :=
  (resources entries).map ResourceDescriptor.name

variable {document : Document} {taken : List String} {path : String} {verdict : Verdict}
  {entries before after : List (String × Verdict)}

@[simp] theorem resources_cons (entry : String × Verdict) (rest : List (String × Verdict)) :
    resources (entry :: rest) = entry.2.resources ++ resources rest := rfl

@[simp] theorem rejections_cons (entry : String × Verdict) (rest : List (String × Verdict)) :
    rejections (entry :: rest) = entry.2.rejections ++ rejections rest := rfl

@[simp] theorem names_cons (entry : String × Verdict) (rest : List (String × Verdict)) :
    names (entry :: rest) = entry.2.names ++ names rest := by
  simp [names, Verdict.names]

/-- The part of a ledger after some entries starts with the names that these have taken. -/
theorem of_append (h : Ledger document taken (before ++ after)) :
    Ledger document (taken ++ names before) after := by
  induction before generalizing taken with
  | nil => simpa [names, resources] using h
  | cons entry rest ih =>
      cases h with
      | cons hfirst hrest => simpa using ih hrest

/-- The verdict on a path follows from its outcome and the names taken by the entries before it. -/
theorem follows_of_split (h : Ledger document taken (before ++ (path, verdict) :: after)) :
    verdict.Follows (taken ++ names before) path (document.outcome path) := by
  cases h.of_append with
  | cons hfirst hrest => exact hfirst

end Ledger

/-! ## Candidate paths -/

namespace Document

/-- The candidates are the paths that are declared, selected and instance paths. -/
theorem mem_candidatePaths {document : Document} {selection : Selection} {path : String} :
    path ∈ document.candidatePaths selection ↔
      document.declares path ∧ selection.selects path ∧ Path.isInstance path := by
  rw [candidatePaths, Path.instances, mem_sortNames, List.mem_filter, selectedPaths,
    List.mem_filter, Table.mem_names, and_assoc, declares]

/-- The candidates are gone through in strictly increasing order. -/
theorem pairwise_candidatePaths (document : Document) (selection : Selection) :
    (document.candidatePaths selection).Pairwise (· < ·) := by
  have hnames : document.paths.names.Nodup := document.paths.pairwise_names.imp ne_of_lt
  exact pairwise_lt_sortNames ((hnames.filter _).filter _)

end Document

/-! ## Runs and ledgers -/

/-- **A whole run.**  Going through some paths adds to the findings what the entries of a ledger of
these paths add. -/
theorem foldlM_record_eq_ok_iff {document : Document} {paths : List String}
    {start findings : Findings} :
    paths.foldlM (fun findings path => findings.record path (document.outcome path)) start =
        .ok findings ↔
      ∃ entries, entries.map Prod.fst = paths ∧ Ledger document start.names entries ∧
        findings.resources = start.resources ++ Ledger.resources entries ∧
        findings.rejections = start.rejections ++ Ledger.rejections entries := by
  -- the findings so far, and with them the names that are taken, change along the paths
  induction paths generalizing start with
  | nil =>
      constructor
      · intro h
        cases h
        exact ⟨[], rfl, .nil _, by simp [Ledger.resources], by simp [Ledger.rejections]⟩
      · rintro ⟨entries, hpaths, -, hresources, hrejections⟩
        obtain rfl := List.map_eq_nil_iff.mp hpaths
        obtain ⟨resources, rejections⟩ := findings
        simp only [Ledger.resources, Ledger.rejections, List.flatMap_nil, List.append_nil]
          at hresources hrejections
        subst hresources hrejections
        rfl
  | cons path rest ih =>
      simp only [List.foldlM_cons, bind_eq_ok, Findings.record_eq_ok_iff]
      constructor
      · rintro ⟨next, ⟨verdict, hfollows, rfl⟩, hrun⟩
        obtain ⟨entries, hpaths, hledger, hresources, hrejections⟩ := ih.mp hrun
        rw [Findings.names_add] at hledger
        refine ⟨(path, verdict) :: entries, by simp [hpaths], .cons hfollows hledger, ?_, ?_⟩
        · simp [hresources]
        · simp [hrejections]
      · rintro ⟨entries, hpaths, hledger, hresources, hrejections⟩
        cases hledger with
        | nil => simp at hpaths
        | @cons taken first verdict rest hfollows hrest =>
            simp only [List.map_cons, List.cons.injEq] at hpaths
            obtain ⟨rfl, hpaths⟩ := hpaths
            refine ⟨start.add verdict, ⟨verdict, hfollows, rfl⟩, ih.mpr ⟨rest, hpaths, ?_, ?_, ?_⟩⟩
            · rw [Findings.names_add]
              exact hrest
            · simp [hresources]
            · simp [hrejections]

/-- **The runs that return are the ledgers of the candidate paths**, and the findings are what their
entries add. -/
theorem Document.resources_eq_ok_iff {document : Document} {selection : Selection}
    {findings : Findings} :
    document.resources selection = .ok findings ↔
      ∃ entries, entries.map Prod.fst = document.candidatePaths selection ∧
        Ledger document [] entries ∧ findings.resources = Ledger.resources entries ∧
        findings.rejections = Ledger.rejections entries := by
  rw [Document.resources, foldlM_record_eq_ok_iff]
  simp [Findings.names]

end ResourceGraph
