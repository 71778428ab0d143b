import ResourceGraph.Proofs.Distinctness
import ResourceGraph.Proofs.Listing
import ResourceGraph.Proofs.ParentName
import ResourceGraph.Proofs.RegionalCopy

/-!
# Names that are empty

A name is cut out of a path: it is the last segment after the last closing brace.  Nothing is left
of a path that ends in a parameter, or that consists of slashes (`Path.Nameless`), and then the name
is empty unless something else provides one.

* **Data sources.**  Nothing else provides a name, so a data source is without one exactly if its
  path is nameless (`Document.dataSource_name_eq_empty_iff`).
* **Resources.**  A nested resource has the names of its parents, a regional copy has its region,
  and a collection may ask for a name.  A resource is without a name exactly if its collection path
  is nameless and there is none of these (`Document.LeavesUnnamed`).

An empty name is a name like any other for the check of duplicate names, so the first nameless path
in order keeps it.  A result therefore holds an empty name exactly if some path would give one
(`Document.unnamed_iff`).
-/

namespace ResourceGraph

/-! ## Paths that leave nothing to name -/

namespace Path

/-- Nothing is left to name a collection: the path without the slashes at its end is empty or ends
in a parameter. -/
def Nameless (path : String) : Prop :=
  withoutSlashes path.toList = [] ∨ (withoutSlashes path.toList).getLast? = some '}'

instance (path : String) : Decidable (Nameless path) :=
  inferInstanceAs (Decidable (_ = [] ∨ _ = some '}'))

theorem segments_eq_nil_iff {path : List Char} : segments path = [] ↔ ∀ c ∈ path, c = '/' := by
  induction path with
  | nil => simp [segments]
  | cons c rest ih =>
      by_cases hc : c = '/'
      · subst hc
        have hsegments : segments ('/' :: rest) = segments rest := by
          rw [segments, segments, List.splitOn_eq_splitOnP, List.splitOnP_cons_eq_if_modifyHead]
          rfl
        rw [hsegments, ih]
        simp
      · -- the first segment begins with the character
        have hsegments : segments (c :: rest) ≠ [] := by
          rw [segments, List.splitOn_eq_splitOnP, List.splitOnP_cons_eq_if_modifyHead,
            if_neg (by simpa using hc)]
          cases hsplit : rest.splitOnP (· == '/') with
          | nil => exact absurd hsplit (List.splitOnP_ne_nil _ _)
          | cons first others => simp
        simp [hsegments, hc]

/-- Reading from the end, slashes alone come before a brace exactly if what follows the slashes is a
brace or nothing. -/
theorem forall_takeWhile_eq_slash_iff {reversed : List Char} :
    (∀ c ∈ reversed.takeWhile (· != '}'), c = '/') ↔
      reversed.dropWhile (· == '/') = [] ∨
        (reversed.dropWhile (· == '/')).head? = some '}' := by
  induction reversed with
  | nil => simp
  | cons c rest ih =>
      by_cases hbrace : c = '}'
      · subst hbrace
        simp
      by_cases hslash : c = '/'
      · subst hslash
        have htake : ('/' :: rest).takeWhile (· != '}') = '/' :: rest.takeWhile (· != '}') := by
          simp
        have hdrop : ('/' :: rest).dropWhile (· == '/') = rest.dropWhile (· == '/') := by simp
        rw [htake, hdrop, List.forall_mem_cons, ih]
        exact and_iff_right rfl
      · have hdrop : (c :: rest).dropWhile (· == '/') = c :: rest := by simp [hslash]
        simp [hdrop, hbrace, hslash]

/-- **A path leaves nothing to name** exactly if its last section has no segment. -/
theorem segments_lastSection_eq_nil_iff {path : String} :
    segments (lastSection path.toList) = [] ↔ Nameless path := by
  rw [segments_eq_nil_iff, Nameless, lastSection, withoutSlashes, List.getLast?_reverse,
    List.reverse_eq_nil_iff]
  simp only [List.mem_reverse]
  exact forall_takeWhile_eq_slash_iff

theorem nameless_trimSlashes {path : String} : Nameless (trimSlashes path) ↔ Nameless path := by
  rw [Nameless, Nameless, trimSlashes, String.toList_ofList, withoutSlashes_idem]

/-- **A name is empty** exactly if the path leaves nothing to name and none is asked for. -/
theorem resourceName_eq_empty_iff {path : String} {preferred : Option String} :
    resourceName path preferred = "" ↔ Nameless path ∧ preferred.getD "" = "" := by
  rw [← segments_lastSection_eq_nil_iff, resourceName]
  cases hlast : (segments (lastSection path.toList)).getLast? with
  | none =>
      have hnil := List.getLast?_eq_none_iff.mp hlast
      simp [hnil]
  | some last =>
      have hmem : last ∈ segments (lastSection path.toList) := List.mem_of_getLast? hlast
      have hne : segments (lastSection path.toList) ≠ [] := List.ne_nil_of_mem hmem
      have hsegment : last ≠ [] := by
        have hkept := (List.mem_filter.mp hmem).2
        simpa using hkept
      simp only [hne, false_and, iff_false]
      -- the name is the wanted one or the last segment, and a version only adds to it
      split
      · simp
      · split
        · next hasked => simpa using hsegment
        · next hasked => simpa using hasked

end Path

/-! ## Data sources without a name -/

theorem Document.dataSource_name_eq_empty_iff {document : Document} {path : String}
    {dataSource : DataSourceDescriptor} (h : document.dataSource path = .ok dataSource) :
    dataSource.name = "" ↔ Path.Nameless path := by
  have hname : dataSource.name = Path.resourceName
      (if (Path.trimSlashes path).isEmpty then path else Path.trimSlashes path) none := by
    unfold Document.dataSource at h
    split at h
    · cases h
    · rw [PathItem.dataSource, bind_eq_ok] at h
      obtain ⟨⟨read, items⟩, -, hnext⟩ := h
      simp only [bind_eq_ok] at hnext
      obtain ⟨operation, -, hresult⟩ := hnext
      have hfields := Except.ok.inj hresult
      rw [← hfields]
  rw [hname, Path.resourceName_eq_empty_iff]
  simp only [Option.getD_none, and_true]
  split
  · rfl
  · exact Path.nameless_trimSlashes

/-! ## Resources without a name -/

/-- Nothing gives a resource a name: neither its collection path nor its parents nor its region, and
its collection asks for none. -/
structure Document.LeavesUnnamed (document : Document) (resource : ResourceDescriptor) : Prop where
  nameless : Path.Nameless resource.rootPath
  parents : resource.parents = []
  region : resource.region = none
  unasked : (document.paths.get? resource.rootPath).bind PathItem.preferredName? = none

theorem Parent.qualified_eq_empty_iff {parents : List Parent} {name : String} :
    Parent.qualified parents name = "" ↔ parents = [] ∧ name = "" := by
  cases parents with
  | nil => simp [qualified]
  | cons first rest => simp [qualified]

namespace Document

variable {document : Document} {selection : Selection} {findings : Findings} {path : String}
  {descriptor resource : ResourceDescriptor}

/-- The descriptor of a path is without a name if nothing gives it one. -/
theorem descriptor_name_eq_empty_iff (h : document.resource path = .ok descriptor) :
    descriptor.name = "" ↔ document.LeavesUnnamed descriptor := by
  obtain ⟨candidate, hcandidate, hdescribed, -⟩ := resource_eq_ok_iff.mp h
  obtain ⟨hdescribes, hname, -, hregion⟩ := Candidate.descriptor_eq_ok_iff.mp hdescribed
  have hroot := (candidate_eq_ok hcandidate).2.2.root
  rw [← hdescribes.rootPath] at hroot hname
  have hparents := hdescribes.parents
  rw [← hdescribes.rootPath] at hparents
  -- a name that is asked for is not empty
  have hasked : candidate.root.preferredName?.getD "" = "" ↔
      candidate.root.preferredName? = none := by
    cases hpreferred : candidate.root.preferredName? with
    | none => simp
    | some preferred =>
        simpa using candidate.root.ne_empty_of_preferredName?_eq_some hpreferred
  rw [hname, PathItem.resourceName_eq, Parent.qualified_eq_empty_iff, ← hparents,
    Path.resourceName_eq_empty_iff, hasked]
  constructor
  · rintro ⟨hchain, hnameless, hnone⟩
    exact ⟨hnameless, hchain, hregion, by rw [hroot, Option.bind_some, hnone]⟩
  · rintro ⟨hnameless, hchain, -, hnone⟩
    rw [hroot, Option.bind_some] at hnone
    exact ⟨hchain, hnameless, hnone⟩

/-- A copy of a descriptor is without a name if it is the descriptor itself and this has none. -/
theorem name_eq_empty_iff_of_copies (h : document.resource path = .ok descriptor)
    (hcopies : descriptor.Copies document.extensions resource) :
    resource.name = "" ↔ document.LeavesUnnamed resource := by
  cases hcopies with
  | single => exact descriptor_name_eq_empty_iff h
  | regional =>
      constructor
      · intro hempty
        simp [ResourceDescriptor.inRegion] at hempty
      · intro hunnamed
        cases hunnamed.region

theorem resource_name_eq_empty_iff (h : document.resources selection = .ok findings)
    (hmem : resource ∈ findings.resources) :
    resource.name = "" ↔ document.LeavesUnnamed resource := by
  obtain ⟨candidate, descriptor, hcandidate, hdescribed, hfault, hcopies⟩ := exists_origin h hmem
  exact name_eq_empty_iff_of_copies (resource_eq_ok_iff.mpr ⟨candidate, hcandidate, hdescribed,
    hfault⟩) hcopies

/-! ## Empty names in a result -/

theorem analyse_eq_ok {result : AnalysisResult} (h : document.analyse selection = .ok result) :
    ∃ findings, document.resources selection = .ok findings ∧
      result.resources = findings.resources ∧
      result.dataSources = (document.dataSources selection).dataSources := by
  rw [analyse, bind_eq_ok] at h
  obtain ⟨⟨definitions, required⟩, -, hnext⟩ := h
  obtain ⟨findings, hfindings, hnext⟩ := bind_eq_ok.mp hnext
  obtain ⟨backend, -, hresult⟩ := bind_eq_ok.mp hnext
  have hfields := Except.ok.inj hresult
  rw [← hfields]
  exact ⟨findings, mapError_eq_ok.mp hfindings, rfl, rfl⟩

/-- A resource without a name is the only one of its path. -/
theorem eq_singleton_of_leavesUnnamed {accepted : List ResourceDescriptor}
    (h : document.outcome path = .accepted accepted) (hmem : resource ∈ accepted)
    (hunnamed : document.LeavesUnnamed resource) : accepted = [resource] := by
  obtain ⟨descriptor, -, hspread⟩ := outcome_eq_accepted_iff.mp h
  obtain ⟨regions, -, hcopies⟩ := map_eq_ok.mp hspread
  cases regions with
  | none =>
      simp only at hcopies
      rw [← hcopies] at hmem ⊢
      rw [List.mem_singleton.mp hmem]
  | some regions =>
      simp only at hcopies
      rw [← hcopies] at hmem
      obtain ⟨region, -, rfl⟩ := List.mem_map.mp hmem
      cases hunnamed.region

/-- The name of the only resource of a path is that of a resource of the run, of this one or of one
with a smaller path. -/
theorem exists_name_of_outcome_eq (h : document.resources selection = .ok findings)
    (hpath : path ∈ document.candidatePaths selection)
    (haccepted : document.outcome path = .accepted [resource]) :
    ∃ kept ∈ findings.resources, kept.name = resource.name := by
  obtain ⟨entries, haccounts⟩ := exists_accounts h
  obtain ⟨verdict, hentry⟩ := haccounts.exists_entry hpath
  rcases haccounts.kept_or_duplicate hentry haccepted with ⟨rfl, -⟩ | ⟨_, _, -, hclash⟩
  · refine ⟨resource, ?_, rfl⟩
    rw [haccounts.resources]
    exact List.mem_flatMap.mpr ⟨_, hentry, List.mem_singleton_self _⟩
  · -- a name that is taken is taken by a resource of the run
    obtain ⟨other, hother, earlier, hearlier, -, hname⟩ := hclash
    rw [List.mem_singleton.mp hother] at hname
    exact ⟨earlier, hearlier, hname⟩

end Document

/-- The name of what a path gives is listed, for this path or for a smaller one. -/
theorem Listings.Covers.name_mem {document : Document} {listings : Listings} {paths : List String}
    {path : String} {dataSource : DataSourceDescriptor} (h : listings.Covers document paths)
    (hpath : path ∈ paths) (hok : document.dataSource path = .ok dataSource) :
    ∃ listed ∈ listings.dataSources, listed.name = dataSource.name := by
  rcases h.mem_or_mem hpath with hfound | hrejected
  · obtain ⟨found, hmem, hsame⟩ := List.mem_map.mp hfound
    have hfoundOk := h.found found hmem
    rw [hsame, hok] at hfoundOk
    cases hfoundOk
    exact ⟨dataSource, hmem, rfl⟩
  · obtain ⟨rejection, hmem, hsame⟩ := List.mem_map.mp hrejected
    cases h.explained rejection hmem with
    | unfit hunfit =>
        rw [hsame, hok] at hunfit
        cases hunfit
    | duplicate hother _ hearlier _ hname =>
        rw [hsame, hok] at hother
        cases hother
        exact ⟨_, hearlier, hname⟩

/-- **When something is published without a name.**  A resource is without a name exactly if nothing
gives it one, and a data source exactly if its path is nameless.  There is such a resource, or such
a data source, exactly if some selected path would give one, the other paths left aside. -/
theorem Document.unnamed_iff {document : Document} {selection : Selection}
    {result : AnalysisResult} (h : document.analyse selection = .ok result) :
    (∀ resource ∈ result.resources, resource.name = "" ↔ document.LeavesUnnamed resource) ∧
    (∀ dataSource ∈ result.dataSources,
      dataSource.name = "" ↔ Path.Nameless dataSource.path) ∧
    ((∃ resource ∈ result.resources, resource.name = "") ↔
      ∃ path ∈ document.candidatePaths selection, ∃ resource,
        document.outcome path = .accepted [resource] ∧ document.LeavesUnnamed resource) ∧
    ((∃ dataSource ∈ result.dataSources, dataSource.name = "") ↔
      ∃ path ∈ document.selectedPaths selection, Path.Nameless path ∧
        ∃ dataSource, document.dataSource path = .ok dataSource) := by
  obtain ⟨findings, hfindings, hresources, hdataSources⟩ := analyse_eq_ok h
  have hcovers := document.covers_dataSources selection
  have hresource (resource : ResourceDescriptor) (hmem : resource ∈ findings.resources) :=
    resource_name_eq_empty_iff hfindings hmem
  have hdataSource : ∀ dataSource ∈ (document.dataSources selection).dataSources,
      dataSource.name = "" ↔ Path.Nameless dataSource.path := by
    intro dataSource hmem
    exact dataSource_name_eq_empty_iff (hcovers.found dataSource hmem)
  rw [hresources, hdataSources]
  refine ⟨hresource, hdataSource, ⟨?_, ?_⟩, ?_, ?_⟩
  · rintro ⟨resource, hmem, hempty⟩
    have hunnamed := (hresource resource hmem).mp hempty
    obtain ⟨accepted, haccepted, hin, -⟩ := exists_accepted_of_mem_resources hfindings hmem
    rw [eq_singleton_of_leavesUnnamed haccepted hin hunnamed] at haccepted
    exact ⟨_, instancePath_mem_candidatePaths hfindings hmem, resource, haccepted, hunnamed⟩
  · rintro ⟨path, hpath, resource, haccepted, hunnamed⟩
    obtain ⟨descriptor, hdescriptor, hcopies⟩ :=
      exists_copies_of_accepted haccepted (List.mem_singleton_self resource)
    have hempty := (name_eq_empty_iff_of_copies hdescriptor hcopies).mpr hunnamed
    obtain ⟨kept, hkept, hname⟩ := exists_name_of_outcome_eq hfindings hpath haccepted
    exact ⟨kept, hkept, hname.trans hempty⟩
  · rintro ⟨dataSource, hmem, hempty⟩
    exact ⟨dataSource.path, hcovers.found_sublist.subset (List.mem_map_of_mem hmem),
      (hdataSource dataSource hmem).mp hempty, dataSource, hcovers.found dataSource hmem⟩
  · rintro ⟨path, hpath, hnameless, dataSource, hok⟩
    have hempty := (dataSource_name_eq_empty_iff hok).mpr hnameless
    obtain ⟨listed, hlisted, hname⟩ := hcovers.name_mem hpath hok
    exact ⟨listed, hlisted, hname.trans hempty⟩

/-! ## A sample document -/

namespace Sample

/-- An array of objects. -/
def roll : Schema :=
  { type := some "array", items := some { type := some "object", properties := [("id", {})] } }

/-- A path that lists objects. -/
def listing : PathItem :=
  { get := some { responses := [("200", { status := "200", schema := some roll })] } }

/-- Moorings that can be listed in one place, and a collection under nothing but slashes. -/
def moorings : Document :=
  { paths := [("//", collection []), ("//{id}", readable), ("/v1/moorings", collection []),
      ("/v1/moorings/{id}", readable), ("/v1/moorings/{id}/ships/{ship}", listing)] }

/-- The analysis of the moorings finds a resource and a data source without a name. -/
theorem exists_moorings_result : ∃ result, moorings.analyse {} = .ok result ∧
    result.resources.map (fun resource => (resource.name, resource.rootPath)) =
      [("", "//"), ("moorings_v1", "/v1/moorings")] ∧
    result.dataSources.map (fun dataSource => (dataSource.name, dataSource.path)) =
      [("", "/v1/moorings/{id}/ships/{ship}")] := by
  have hrun : (moorings.analyse {}).toOption.map (fun result =>
      (result.resources.map (fun resource => (resource.name, resource.rootPath)),
        result.dataSources.map (fun dataSource => (dataSource.name, dataSource.path)))) =
      some ([("", "//"), ("moorings_v1", "/v1/moorings")],
        [("", "/v1/moorings/{id}/ships/{ship}")]) := by
    decide +kernel
  obtain ⟨result, hresult, hfound⟩ := exists_of_toOption_map_eq_some hrun
  exact ⟨result, hresult, congrArg Prod.fst hfound, congrArg Prod.snd hfound⟩

/-- The paths of the moorings tell that there is a resource and a data source without a name. -/
theorem moorings_unnamed : ∃ result, moorings.analyse {} = .ok result ∧
    (∃ path ∈ moorings.candidatePaths {}, ∃ resource,
      moorings.outcome path = .accepted [resource] ∧ moorings.LeavesUnnamed resource) ∧
    ∃ path ∈ moorings.selectedPaths {}, Path.Nameless path ∧
      ∃ dataSource, moorings.dataSource path = .ok dataSource := by
  obtain ⟨result, hresult, hresources, hdataSources⟩ := exists_moorings_result
  obtain ⟨-, -, hresourceIff, hdataSourceIff⟩ := Document.unnamed_iff hresult
  refine ⟨result, hresult, hresourceIff.mp ?_, hdataSourceIff.mp ?_⟩
  · obtain ⟨resource, hmem, hfields⟩ := List.mem_map.mp
      (hresources ▸ List.mem_cons_self .. : ("", "//") ∈ result.resources.map fun resource =>
        (resource.name, resource.rootPath))
    exact ⟨resource, hmem, congrArg Prod.fst hfields⟩
  · obtain ⟨dataSource, hmem, hfields⟩ := List.mem_map.mp
      (hdataSources ▸ List.mem_cons_self .. : ("", "/v1/moorings/{id}/ships/{ship}") ∈
        result.dataSources.map fun dataSource => (dataSource.name, dataSource.path))
    exact ⟨dataSource, hmem, congrArg Prod.fst hfields⟩

/-- **Not everything that is published has a name.**  The path of a listing ends in a parameter. -/
theorem exists_unnamed : ¬ ∀ (document : Document) (selection : Selection)
    (result : AnalysisResult), document.analyse selection = .ok result →
      (∀ resource ∈ result.resources, resource.name ≠ "") ∧
      ∀ dataSource ∈ result.dataSources, dataSource.name ≠ "" := by
  intro hall
  obtain ⟨result, hresult, -, hdataSources⟩ := exists_moorings_result
  have hnames : result.dataSources.map DataSourceDescriptor.name = [""] := by
    have hfirst := congrArg (List.map Prod.fst) hdataSources
    simpa using hfirst
  obtain ⟨dataSource, hmem, hempty⟩ := List.mem_map.mp (hnames ▸ List.mem_singleton_self "")
  exact (hall moorings {} result hresult).2 dataSource hmem hempty

end Sample

end ResourceGraph
