import ResourceGraph.Proofs.Ledger

/-!
# Every candidate is accounted for

A run that returns has one verdict for each candidate: a block of descriptors, or one rejection.
The blocks in the order of the candidates are the resources of the run, and the rejections in the
same order are its diagnostics, whichever check they come from.  So no candidate is lost, and none
is counted twice.
-/

namespace ResourceGraph

/-! ## Verdicts and outcomes -/

/-- A verdict settles a path: it keeps the descriptors of the outcome, at least one and all of them
carrying the path, or it drops the path for the reason that the outcome gives or for a name that is
taken. -/
def Verdict.Settles (document : Document) (path : String) : Verdict → Prop
  | kept resources =>
    document.outcome path = .accepted resources ∧ resources ≠ [] ∧
      ∀ resource ∈ resources, resource.instancePath = path
  | dropped rejection =>
    document.outcome path = .rejected rejection ∨
      ∃ resources name rootPath, document.outcome path = .accepted resources ∧
        rejection = ⟨path, .duplicateResource name rootPath⟩

theorem Verdict.Follows.settles {document : Document} {taken : List String} {path : String}
    {verdict : Verdict} (h : verdict.Follows taken path (document.outcome path)) :
    verdict.Settles document path := by
  generalize houtcome : document.outcome path = outcome at h
  cases h with
  | kept hfree =>
      obtain ⟨hne, hpath, -⟩ := Document.outcome_eq_accepted houtcome
      exact ⟨houtcome, hne, hpath⟩
  | duplicate hname htaken hleast => exact Or.inr ⟨_, _, _, houtcome, rfl⟩
  | rejected => exact Or.inl houtcome

theorem Verdict.Settles.instancePath_eq {document : Document} {path : String} {verdict : Verdict}
    (h : verdict.Settles document path) :
    ∀ resource ∈ verdict.resources, resource.instancePath = path := by
  cases verdict with
  | kept resources => exact h.2.2
  | dropped rejection => simp

/-! ## Blocks of a ledger -/

namespace Ledger

variable {document : Document} {taken : List String} {path : String} {verdict : Verdict}
  {entries : List (String × Verdict)}

theorem settles_of_mem (h : Ledger document taken entries) (hmem : (path, verdict) ∈ entries) :
    verdict.Settles document path := by
  obtain ⟨before, after, rfl⟩ := List.append_of_mem hmem
  exact h.follows_of_split.settles

/-- A descriptor of a ledger belongs to the entry of the path that it carries. -/
theorem exists_entry_of_mem_resources (h : Ledger document taken entries)
    {resource : ResourceDescriptor} (hresource : resource ∈ resources entries) :
    ∃ verdict, (resource.instancePath, verdict) ∈ entries ∧ resource ∈ verdict.resources := by
  obtain ⟨⟨path, verdict⟩, hmem, hverdict⟩ := List.mem_flatMap.mp hresource
  have hpath := (h.settles_of_mem hmem).instancePath_eq resource hverdict
  exact ⟨verdict, hpath ▸ hmem, hverdict⟩

/-- What is picked from the parts of a ledger stands in the entry of one path, if nothing is picked
from the entries of other paths. -/
theorem filter_flatMap_of_mem {α : Type} (parts : String × Verdict → List α) (picks : α → Bool)
    (hnodup : (entries.map Prod.fst).Nodup) (hmem : (path, verdict) ∈ entries)
    (hothers : ∀ entry ∈ entries, entry.1 ≠ path → ∀ part ∈ parts entry, picks part = false) :
    (entries.flatMap parts).filter picks = (parts (path, verdict)).filter picks := by
  induction entries with
  | nil => simp at hmem
  | cons entry rest ih =>
      rw [List.map_cons, List.nodup_cons] at hnodup
      rw [List.flatMap_cons, List.filter_append]
      -- the entry of the path is the first one or in the rest, and the other part gives nothing
      rcases List.mem_cons.mp hmem with rfl | hrest
      · have hnone : (rest.flatMap parts).filter picks = [] := by
          refine List.filter_eq_nil_iff.mpr fun part hpart => ?_
          obtain ⟨other, hother, hpart⟩ := List.mem_flatMap.mp hpart
          have hne : other.1 ≠ path := fun heq =>
            hnodup.1 (List.mem_map.mpr ⟨other, hother, heq⟩)
          simp [hothers other (List.mem_cons_of_mem _ hother) hne part hpart]
        rw [hnone, List.append_nil]
      · have hne : entry.1 ≠ path := fun heq =>
          hnodup.1 (List.mem_map.mpr ⟨_, hrest, heq.symm⟩)
        have hnone : (parts entry).filter picks = [] :=
          List.filter_eq_nil_iff.mpr fun part hpart => by
            simp [hothers entry (List.mem_cons_self ..) hne part hpart]
        rw [hnone, List.nil_append]
        exact ih hnodup.2 hrest fun other hother =>
          hothers other (List.mem_cons_of_mem _ hother)

/-- The descriptors that carry a path are those of its verdict. -/
theorem filter_resources (h : Ledger document taken entries)
    (hnodup : (entries.map Prod.fst).Nodup) (hmem : (path, verdict) ∈ entries) :
    (resources entries).filter (fun resource => resource.instancePath == path) =
      verdict.resources := by
  rw [resources, filter_flatMap_of_mem _ _ hnodup hmem]
  · refine List.filter_eq_self.mpr fun resource hresource => ?_
    simpa using (h.settles_of_mem hmem).instancePath_eq resource hresource
  · intro entry hentry hne resource hresource
    rw [(h.settles_of_mem hentry).instancePath_eq resource hresource]
    simpa using hne

end Ledger

/-! ## The ledger of a run -/

/-- The entries of a ledger account for the findings of a run. -/
structure Accounts (document : Document) (selection : Selection) (findings : Findings)
    (entries : List (String × Verdict)) : Prop where
  ledger : Ledger document [] entries
  paths : entries.map Prod.fst = document.candidatePaths selection
  increasing : (entries.map Prod.fst).Pairwise (· < ·)
  resources : findings.resources = Ledger.resources entries
  diagnostics : findings.diagnostics = entries.flatMap fun entry => entry.2.diagnostics

/-- A run that returns has a ledger that accounts for its findings. -/
theorem Document.exists_accounts {document : Document} {selection : Selection}
    {findings : Findings} (h : document.resources selection = .ok findings) :
    ∃ entries, Accounts document selection findings entries := by
  obtain ⟨entries, hpaths, hledger, hresources, hrejections⟩ := resources_eq_ok_iff.mp h
  refine ⟨entries, hledger, hpaths, hpaths ▸ pairwise_candidatePaths document selection,
    hresources, ?_⟩
  rw [Findings.diagnostics, hrejections, Ledger.rejections, List.map_flatMap]
  rfl

/-- A ledger of the candidate paths is that of a run that returns. -/
theorem Ledger.exists_accounts {document : Document} {selection : Selection}
    {entries : List (String × Verdict)} (h : Ledger document [] entries)
    (hpaths : entries.map Prod.fst = document.candidatePaths selection) :
    ∃ findings, document.resources selection = .ok findings ∧
      Accounts document selection findings entries := by
  have hrun : document.resources selection = .ok ⟨resources entries, rejections entries⟩ :=
    Document.resources_eq_ok_iff.mpr ⟨entries, hpaths, h, rfl, rfl⟩
  have hrejections : (rejections entries).map (Diagnostic.mk .resource) =
      entries.flatMap fun entry => entry.2.diagnostics := List.map_flatMap
  exact ⟨_, hrun, h, hpaths, hpaths ▸ Document.pairwise_candidatePaths document selection, rfl,
    hrejections⟩

namespace Accounts

variable {document : Document} {selection : Selection} {findings : Findings} {path : String}
  {verdict : Verdict} {entries : List (String × Verdict)}

theorem nodup (h : Accounts document selection findings entries) :
    (entries.map Prod.fst).Nodup := h.increasing.imp ne_of_lt

theorem exists_entry (h : Accounts document selection findings entries)
    (hpath : path ∈ document.candidatePaths selection) : ∃ verdict, (path, verdict) ∈ entries := by
  rw [← h.paths] at hpath
  obtain ⟨⟨_, verdict⟩, hentry, rfl⟩ := List.mem_map.mp hpath
  exact ⟨verdict, hentry⟩

theorem mem_candidatePaths (h : Accounts document selection findings entries)
    (hmem : (path, verdict) ∈ entries) : path ∈ document.candidatePaths selection := by
  rw [← h.paths]
  exact List.mem_map.mpr ⟨_, hmem, rfl⟩

theorem isInstance (h : Accounts document selection findings entries)
    (hmem : (path, verdict) ∈ entries) : Path.isInstance path :=
  (Document.mem_candidatePaths.mp (h.mem_candidatePaths hmem)).2.2

/-- A descriptor of a run belongs to the entry of the path that it carries. -/
theorem exists_entry_of_mem_resources (h : Accounts document selection findings entries)
    {resource : ResourceDescriptor} (hmem : resource ∈ findings.resources) :
    ∃ verdict, (resource.instancePath, verdict) ∈ entries ∧ resource ∈ verdict.resources := by
  rw [h.resources] at hmem
  exact h.ledger.exists_entry_of_mem_resources hmem

/-- The descriptors of a run that carry a path are those of the verdict on the path. -/
theorem filter_resources (h : Accounts document selection findings entries)
    (hmem : (path, verdict) ∈ entries) :
    findings.resources.filter (fun resource => resource.instancePath == path) =
      verdict.resources := by
  rw [h.resources]
  exact h.ledger.filter_resources h.nodup hmem

end Accounts

/-! ## A run on a sample document

The document has a candidate for every stage at which one can be rejected, between two that are
kept. -/

namespace Sample

/-- The payload of the resources of the sample document. -/
def payload : Schema :=
  { type := some "object", properties := [("id", { type := some "string" })] }

/-- An operation that creates a resource, with some extensions. -/
def creation (extensions : Extensions) : Operation :=
  { parameters := [{ name := "body", location := .body, schema := some payload }], extensions }

/-- A collection that can be added to. -/
def collection (extensions : Extensions) : PathItem := { post := some (creation extensions) }

/-- An instance that can be read. -/
def readable : PathItem := { get := some {} }

/-- Candidates that are kept, also in two regions, and candidates that are rejected. -/
def document : Document :=
  { paths := [("/v1/plans", collection []), ("/v1/plans/{id}", {}),
      ("/v1/orphans/{id}", readable),
      ("/v1/notes", collection [("x-terraform-resource-timeout", .text "soon")]),
      ("/v1/notes/{id}", readable),
      ("/v1/lost/{id}/items", collection []), ("/v1/lost/{id}/items/{item}", readable),
      ("/v1/cdns", collection []), ("/v1/cdns/{key}", readable), ("/v1/cdns/{id}", readable),
      ("/v1/accounts",
        collection [("x-terraform-resource-host", .text "accounts.$\x7bregion\x7d.api.com")]),
      ("/v1/accounts/{id}", readable)]
    extensions := [("x-terraform-resource-regions-region", .text "us, eu")] }

/-- The run on the sample document returns. -/
theorem exists_findings : ∃ findings, document.resources {} = .ok findings ∧
    findings.resources.map (fun resource => (resource.name, resource.instancePath)) =
      [("accounts_v1_us", "/v1/accounts/{id}"), ("accounts_v1_eu", "/v1/accounts/{id}"),
        ("cdns_v1", "/v1/cdns/{id}")] ∧
    findings.rejections.map Rejection.path = ["/v1/cdns/{key}", "/v1/lost/{id}/items/{item}",
      "/v1/notes", "/v1/orphans/{id}", "/v1/plans/{id}"] := by
  have hrun : (document.resources {}).toOption.map (fun findings =>
      (findings.resources.map (fun resource => (resource.name, resource.instancePath)),
        findings.rejections.map Rejection.path)) =
      some ([("accounts_v1_us", "/v1/accounts/{id}"), ("accounts_v1_eu", "/v1/accounts/{id}"),
        ("cdns_v1", "/v1/cdns/{id}")], ["/v1/cdns/{key}", "/v1/lost/{id}/items/{item}",
        "/v1/notes", "/v1/orphans/{id}", "/v1/plans/{id}"]) := by
    decide +kernel
  obtain ⟨findings, hfindings, hresult⟩ := exists_of_toOption_map_eq_some hrun
  exact ⟨findings, hfindings, congrArg Prod.fst hresult, congrArg Prod.snd hresult⟩

/-- The candidates of the sample document. -/
theorem candidatePaths_document : document.candidatePaths {} = ["/v1/accounts/{id}",
    "/v1/cdns/{id}", "/v1/cdns/{key}", "/v1/lost/{id}/items/{item}", "/v1/notes/{id}",
    "/v1/orphans/{id}", "/v1/plans/{id}"] := by
  decide +kernel

end Sample

/-! ## The accounts of a run -/

/-- **Every candidate is accounted for.**  A run that returns goes through the declared, selected
instance paths in strictly increasing order and settles each of them.  The blocks of descriptors in
this order are the resources, the block of a path being all that carries the path, and the
rejections in this order are the diagnostics. -/
theorem Document.candidates_accounted {document : Document} {selection : Selection}
    {findings : Findings} (h : document.resources selection = .ok findings) :
    (document.candidatePaths selection).Pairwise (· < ·) ∧
      (∀ path, path ∈ document.candidatePaths selection ↔
        document.declares path ∧ selection.selects path ∧ Path.isInstance path) ∧
      ∃ entries : List (String × Verdict),
        entries.map Prod.fst = document.candidatePaths selection ∧
        (∀ entry ∈ entries, entry.2.Settles document entry.1 ∧
          findings.resources.filter (fun resource => resource.instancePath == entry.1) =
            entry.2.resources) ∧
        findings.resources = entries.flatMap (fun entry => entry.2.resources) ∧
        findings.diagnostics = entries.flatMap (fun entry => entry.2.diagnostics) := by
  obtain ⟨entries, haccounts⟩ := exists_accounts h
  refine ⟨pairwise_candidatePaths document selection, fun path => mem_candidatePaths, entries,
    haccounts.paths, ?_, haccounts.resources, haccounts.diagnostics⟩
  rintro ⟨path, verdict⟩ hmem
  exact ⟨haccounts.ledger.settles_of_mem hmem, haccounts.filter_resources hmem⟩

/-- The seven candidates of the sample document, two of which are kept. -/
theorem Sample.document_candidates_accounted :
    ∃ findings, Sample.document.resources {} = .ok findings ∧
      findings.resources.length = 3 ∧ findings.diagnostics.length = 5 ∧
      ∃ entries : List (String × Verdict),
        entries.map Prod.fst = ["/v1/accounts/{id}", "/v1/cdns/{id}", "/v1/cdns/{key}",
          "/v1/lost/{id}/items/{item}", "/v1/notes/{id}", "/v1/orphans/{id}",
          "/v1/plans/{id}"] ∧
        (∀ entry ∈ entries, entry.2.Settles Sample.document entry.1 ∧
          findings.resources.filter (fun resource => resource.instancePath == entry.1) =
            entry.2.resources) ∧
        findings.resources = entries.flatMap (fun entry => entry.2.resources) ∧
        findings.diagnostics = entries.flatMap (fun entry => entry.2.diagnostics) := by
  obtain ⟨findings, hfindings, hnames, hpaths⟩ := Sample.exists_findings
  obtain ⟨-, -, entries, hentries, haccounts⟩ := Document.candidates_accounted hfindings
  refine ⟨findings, hfindings, ?_, ?_, entries, hentries.trans Sample.candidatePaths_document,
    haccounts⟩
  · simpa using congrArg List.length hnames
  · simpa [Findings.diagnostics] using congrArg List.length hpaths

end ResourceGraph
