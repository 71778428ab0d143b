import ResourceGraph.Proofs.Authentication
import ResourceGraph.Proofs.RegionFault

/-!
# Hard failures

An analysis fails for what the document asserts and cannot honour, and for nothing else: a declared
key at an unsupported location, then a required scheme that is not declared, then the regions of the
first path that comes to them (`Document.HardFailure`).  The address that the document was fetched
from is taken to be readable.  What rejects a path never makes the analysis fail, and neither does a
name that is taken: a path fails in the same way after whatever other paths.

All of these are errors that are reported as such, with one exception.  A list of regions may hold
an integer that is too long to be written, and the analysis then fails without such an error
(`Sample.exists_unreported`).
-/

namespace ResourceGraph

/-! ## Faults of the whole document -/

/-- The host can be read off the address that a document was fetched from, if it was fetched. -/
def Document.SourceReadable (document : Document) : Prop :=
  ∀ source, document.source = some source → ServerAddress.isRemote source = true →
    ∃ host, ServerAddress.host source = .ok host

/-- A path is the first one, among the candidate paths, whose regions make an error. -/
structure Document.FirstRegionFault (document : Document) (selection : Selection) (path : String)
    (error : AnalysisError) : Prop where
  mem : path ∈ document.candidatePaths selection
  fault : document.RegionFault path error
  least : ∀ other ∈ document.candidatePaths selection, ∀ cause,
    document.RegionFault other cause → path ≤ other

/-- What a document asserts and cannot honour, in the order in which it is looked for. -/
inductive Document.HardFailure (document : Document) (selection : Selection) :
    AnalysisFailure → Prop
  | location {name : String} {location : Option String}
      (hkey : document.UnsupportedKey name location)
      (hleast : ∀ other otherLocation, document.UnsupportedKey other otherLocation → name ≤ other) :
      HardFailure document selection (.error (.unsupportedLocation name location))
  | scheme {name : String} (hkeys : ∀ name location, ¬ document.UnsupportedKey name location)
      (hfirst : document.FirstUnknownScheme name) :
      HardFailure document selection (.error (.unresolvedScheme name))
  | regions {path : String} {error : AnalysisError}
      (hkeys : ∀ name location, ¬ document.UnsupportedKey name location)
      (hschemes : document.SchemesKnown)
      (hfirst : document.FirstRegionFault selection path error) :
      HardFailure document selection (.ofError error)

/-! ## Runs that fail -/

variable {document : Document} {selection : Selection}

/-- A path fails whatever has been found before. -/
theorem Findings.record_eq_error_iff {findings : Findings} {path : String} {outcome : Outcome}
    {error : AnalysisError} :
    findings.record path outcome = .error error ↔ outcome = .failed error := by
  cases outcome with
  | accepted resources =>
      rw [record]
      split <;> simp
  | rejected rejection => simp [record]
  | failed cause => simp [record]

theorem Document.resources_eq_error_iff_firstFailure {error : AnalysisError} :
    document.resources selection = .error error ↔
      FirstFailure document.RegionFault (document.candidatePaths selection) error :=
  foldlM_eq_error_iff fun _ _ _ => Findings.record_eq_error_iff.trans outcome_eq_failed_iff

/-- **The first path with a fault ends the run.** -/
theorem Document.resources_eq_error_iff {error : AnalysisError} :
    document.resources selection = .error error ↔
      ∃ path, document.FirstRegionFault selection path error := by
  rw [resources_eq_error_iff_firstFailure,
    firstFailure_iff_of_pairwise id (pairwise_candidatePaths document selection)]
  constructor
  · rintro ⟨path, hmem, hfault, hleast⟩
    exact ⟨path, hmem, hfault, hleast⟩
  · rintro ⟨path, hmem, hfault, hleast⟩
    exact ⟨path, hmem, hfault, hleast⟩

theorem Document.exists_findings_iff : (∃ findings, document.resources selection = .ok findings) ↔
    ∀ path ∈ document.candidatePaths selection, ∀ error, ¬ document.RegionFault path error := by
  rw [exists_eq_ok_iff, ← forall_not_firstFailure_iff]
  simp only [ne_eq, resources_eq_error_iff_firstFailure]

/-- Where the API is served is known if the address of the document can be read. -/
theorem Document.SourceReadable.exists_backend (h : document.SourceReadable) :
    ∃ backend, document.backend = .ok backend := by
  have hhost : ∃ host, document.servingHost = .ok host := by
    unfold servingHost
    simp only
    split
    · exact ⟨_, rfl⟩
    split
    · next source hsource =>
        split
        · next hremote =>
            obtain ⟨host, hhost⟩ := h source hsource hremote
            exact ⟨_, bind_eq_ok.mpr ⟨host, hhost, rfl⟩⟩
        · exact ⟨_, rfl⟩
    · exact ⟨_, rfl⟩
  obtain ⟨host, hhost⟩ := hhost
  exact ⟨_, bind_eq_ok.mpr ⟨host, hhost, rfl⟩⟩

/-- Authentication is looked at first, then the resources, and nothing else fails. -/
theorem Document.analyse_eq_error_iff_stages (h : document.SourceReadable)
    {failure : AnalysisFailure} : document.analyse selection = .error failure ↔
    (∃ error, document.authentication = .error error ∧ .ofError error = failure) ∨
      (∃ ways, document.authentication = .ok ways) ∧
        ∃ error, document.resources selection = .error error ∧ .ofError error = failure := by
  obtain ⟨backend, hbackend⟩ := h.exists_backend
  rw [analyse, bind_eq_error, mapError_eq_error, ← exists_and_right]
  simp only [mapError_eq_ok]
  refine or_congr_right (exists_congr fun ways => and_congr_right fun _ => ?_)
  rw [bind_eq_error, mapError_eq_error]
  refine or_iff_left ?_
  rintro ⟨findings, -, hnext⟩
  rw [hbackend] at hnext
  cases hnext

theorem Document.exists_result_iff (h : document.SourceReadable) :
    (∃ result, document.analyse selection = .ok result) ↔
      (∃ ways, document.authentication = .ok ways) ∧
        ∃ findings, document.resources selection = .ok findings := by
  simp only [exists_eq_ok_iff, ne_eq, analyse_eq_error_iff_stages h, not_or, not_and, not_exists]
  constructor
  · intro hsound
    have hways : ∀ error, ¬ document.authentication = .error error :=
      fun error herror => (hsound (.ofError error)).1 error herror rfl
    exact ⟨hways, fun error herror => (hsound (.ofError error)).2 hways error herror rfl⟩
  · rintro ⟨hways, hfindings⟩ failure
    exact ⟨fun error herror => absurd herror (hways error),
      fun _ error herror => absurd herror (hfindings error)⟩

/-- An error is reported as such unless it says that regions cannot be written. -/
theorem AnalysisFailure.exists_ofError_eq_iff {error : AnalysisError} :
    (∃ reported, AnalysisFailure.ofError error = .error reported) ↔
      error ≠ .unwritableRegions := by
  cases error <;> simp [ofError]

/-! ## Look-ups -/

/-- Whatever the analysis takes for granted when it looks something up. -/
structure Document.LookUpsSafe (document : Document) (selection : Selection) : Prop where
  /-- Selected paths are declared. -/
  selected : ∀ path ∈ document.selectedPaths selection, ∃ item, document.paths.get? path = some item
  /-- A candidate has both its paths, and the operations that create and read. -/
  candidate : ∀ path candidate, document.candidate path = .ok candidate →
    candidate.DeclaredIn document
  /-- A resource that is copied into regions has a host. -/
  regional : ∀ path descriptor regions, document.resource path = .ok descriptor →
    Region.ofHost? descriptor.host document.extensions = .ok (some regions) →
      descriptor.host.isSome
  /-- A path that lists items can be read. -/
  listed : ∀ item : PathItem, ∀ read items, item.listedItems = .ok (read, items) →
    item.get = some read

theorem PathItem.get_of_listedItems {item : PathItem} {read : Operation} {items : Schema}
    (h : item.listedItems = .ok (read, items)) : item.get = some read := by
  unfold listedItems at h
  split at h
  · next found hget =>
      rw [hget]
      split at h
      · split at h
        · simp only at h
          split at h
          · cases h
          split at h
          · split at h
            · cases h
            split at h
            · cases h
            · cases h
              rfl
          · cases h
        · cases h
      · cases h
  · cases h

theorem Document.lookUpsSafe (document : Document) (selection : Selection) :
    document.LookUpsSafe selection where
  selected path hpath := by
    have hdeclared := Table.mem_names.mp (List.mem_filter.mp hpath).1
    exact Option.isSome_iff_exists.mp hdeclared
  candidate path candidate hcandidate := (candidate_eq_ok hcandidate).2.2
  regional path descriptor regions _ hregions := Region.isSome_of_ofHost?_eq_some hregions
  listed item read items hitems := PathItem.get_of_listedItems hitems

/-! ## Hard failures -/

/-- **When an analysis fails.**  An analysis fails exactly for what the document asserts and cannot
honour, the first such assertion in the order of `HardFailure`, and has a result in every other
case. The failure is reported as an error unless it is that the regions of the first failing path
cannot be written. -/
theorem Document.analyse_fails_iff {document : Document} {selection : Selection}
    (hsource : document.SourceReadable) :
    (∀ failure, document.analyse selection = .error failure ↔
        document.HardFailure selection failure) ∧
      ((∃ result, document.analyse selection = .ok result) ↔
        (∀ name location, ¬ document.UnsupportedKey name location) ∧ document.SchemesKnown ∧
          ∀ path ∈ document.candidatePaths selection, ∀ error,
            ¬ document.RegionFault path error) ∧
      ((∀ failure, document.analyse selection = .error failure →
          ∃ error, failure = .error error) ↔
        ((∀ name location, ¬ document.UnsupportedKey name location) → document.SchemesKnown →
          ∀ path, ¬ document.FirstRegionFault selection path .unwritableRegions)) ∧
      document.LookUpsSafe selection := by
  have hfails : ∀ failure, document.analyse selection = .error failure ↔
      document.HardFailure selection failure := by
    intro failure
    rw [analyse_eq_error_iff_stages hsource, authentication_eq_ok_iff]
    simp only [authentication_eq_error_iff, resources_eq_error_iff]
    constructor
    · rintro (⟨_, ⟨name, location, rfl, hkey, hleast⟩ | ⟨hkeys, name, rfl, hfirst⟩, rfl⟩ |
        ⟨⟨hkeys, hschemes⟩, error, ⟨path, hfirst⟩, rfl⟩)
      · exact .location hkey hleast
      · exact .scheme hkeys hfirst
      · exact .regions hkeys hschemes hfirst
    · intro hfailure
      cases hfailure with
      | location hkey hleast => exact Or.inl ⟨_, Or.inl ⟨_, _, rfl, hkey, hleast⟩, rfl⟩
      | scheme hkeys hfirst => exact Or.inl ⟨_, Or.inr ⟨hkeys, _, rfl, hfirst⟩, rfl⟩
      | regions hkeys hschemes hfirst => exact Or.inr ⟨⟨hkeys, hschemes⟩, _, ⟨_, hfirst⟩, rfl⟩
  refine ⟨hfails, ?_, ?_, lookUpsSafe document selection⟩
  · rw [exists_result_iff hsource, authentication_eq_ok_iff, exists_findings_iff, and_assoc]
  · simp only [hfails]
    constructor
    · intro hreported hkeys hschemes path hfirst
      obtain ⟨error, herror⟩ := hreported _ (.regions hkeys hschemes hfirst)
      cases herror
    · intro hwritable failure hfailure
      cases hfailure with
      | location hkey hleast => exact ⟨_, rfl⟩
      | scheme hkeys hfirst => exact ⟨_, rfl⟩
      | @regions path error hkeys hschemes hfirst =>
          refine AnalysisFailure.exists_ofError_eq_iff.mpr ?_
          rintro rfl
          exact hwritable hkeys hschemes path hfirst

namespace Sample

/-- Accounts in the regions of a list, fetched from a server. -/
def accounts (regions : Value) : Document :=
  { paths := [("/v1/accounts",
        collection [("x-terraform-resource-host", .text "accounts.$\x7bregion\x7d.api.com")]),
      ("/v1/accounts/{id}", readable)]
    extensions := [("x-terraform-resource-regions-region", regions)]
    source := some "https://api.example.com/spec" }

theorem accounts_sourceReadable (regions : Value) : (accounts regions).SourceReadable := by
  rintro source hsource -
  cases hsource
  have hrun : (ServerAddress.host "https://api.example.com/spec").toOption.map id =
      some "api.example.com" := by
    decide +kernel
  obtain ⟨host, hhost, -⟩ := exists_of_toOption_map_eq_some hrun
  exact ⟨host, hhost⟩

/-- Accounts in a region that is listed twice fail, and accounts in two regions do not. -/
theorem accounts_hard_failures :
    (accounts (.text "us, us")).HardFailure {} (.error (.duplicatedRegions "region"
      "x-terraform-resource-regions-region" ["us"])) ∧
    ∀ path ∈ (accounts (.text "us, eu")).candidatePaths {}, ∀ error,
      ¬ (accounts (.text "us, eu")).RegionFault path error := by
  have hrepeated : failure? ((accounts (.text "us, us")).analyse {}) =
      some (.error (.duplicatedRegions "region" "x-terraform-resource-regions-region" ["us"])) := by
    decide +kernel
  have hresult : ((accounts (.text "us, eu")).analyse {}).toOption.map (fun _ => ()) = some () := by
    decide +kernel
  obtain ⟨hfails, -⟩ :=
    @Document.analyse_fails_iff _ {} (accounts_sourceReadable (.text "us, us"))
  obtain ⟨-, hreturns, -⟩ :=
    @Document.analyse_fails_iff _ {} (accounts_sourceReadable (.text "us, eu"))
  obtain ⟨result, hresult, -⟩ := exists_of_toOption_map_eq_some hresult
  exact ⟨(hfails _).mp (failure?_eq_some_iff.mp hrepeated), (hreturns.mp ⟨result, hresult⟩).2.2⟩

/-- **Not every failure is reported as an error.**  The region of the accounts is an integer that is
too long to be written. -/
theorem exists_unreported : ¬ ∀ (document : Document) (selection : Selection),
    document.SourceReadable → ∀ failure, document.analyse selection = .error failure →
      ∃ error, failure = .error error := by
  intro hall
  have hrun : failure? ((accounts (.list [.scalar (.int Number.leastLong)])).analyse {}) =
      some .unwritable := by
    decide +kernel
  obtain ⟨error, herror⟩ := hall _ _ (accounts_sourceReadable _) _ (failure?_eq_some_iff.mp hrun)
  cases herror

end Sample

end ResourceGraph
