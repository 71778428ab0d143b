import ResourceGraph.Analysis.Result
import ResourceGraph.Proofs.HardFailure

/-!
# Every selected path is listed once

`Document.dataSources` goes through the selected paths with the listings so far.  Each path adds one
data source or one rejection to them, and the data sources found before it matter for nothing but
their names.

`Listings.Covers` says what the listings are after some paths.  One more path keeps it
(`Covers.record`), so it holds after all of them (`covers_listingsOf`).  What it says about a path
is read off its two lists: they name every path once, a data source is what its path gives, and a
rejection is that of its path or reports the name of a data source with a smaller path.
-/

namespace ResourceGraph

/-! ## The data source of a path -/

/-- The reasons for which a path lists no items. -/
def unlistedCauses : List RejectionCause :=
  [.missingDataSourceRead, .missingSuccessResponse, .missingResponseSchema, .responseNotArray,
    .invalidItems, .emptyItems]

theorem PathItem.mem_of_listedItems_eq_error {item : PathItem} {cause : RejectionCause}
    (h : item.listedItems = .error cause) : cause ∈ unlistedCauses := by
  unfold listedItems at h
  split at h
  · split at h
    · split at h
      · simp only at h
        split at h
        · cases h
          decide
        split at h
        · split at h
          · cases h
            decide
          split at h
          · cases h
            decide
          · cases h
        · cases h
          decide
      · cases h
        decide
    · cases h
      decide
  · cases h
    decide

/-- None of these reasons is a duplicate name. -/
theorem kind_ne_of_mem_unlistedCauses :
    ∀ cause ∈ unlistedCauses, cause.kind ≠ "DuplicateDataSource" := by
  decide

section DataSource

variable {document other : Document} {item : PathItem} {path : String}
  {dataSource : DataSourceDescriptor} {rejection : Rejection}

theorem PathItem.dataSource_eq_ok (h : item.dataSource document path = .ok dataSource) :
    dataSource.path = path := by
  rw [PathItem.dataSource, bind_eq_ok] at h
  obtain ⟨⟨read, items⟩, -, hnext⟩ := h
  simp only [bind_eq_ok] at hnext
  obtain ⟨operation, -, hresult⟩ := hnext
  exact congrArg DataSourceDescriptor.path (Except.ok.inj hresult).symm

/-- A path is no data source because it lists no items or because of the timeout of reading them. -/
theorem PathItem.dataSource_eq_error_iff :
    item.dataSource document path = .error rejection ↔
      (∃ cause, item.listedItems = .error cause ∧ rejection = ⟨path, cause⟩) ∨
        ∃ read items, item.listedItems = .ok (read, items) ∧
          read.timeout path = .error rejection := by
  rw [PathItem.dataSource, bind_eq_error]
  refine or_congr ?_ ?_
  · rw [mapError_eq_error]
    exact exists_congr fun cause => and_congr_right fun _ => eq_comm
  · constructor
    · rintro ⟨⟨read, items⟩, hitems, hnext⟩
      refine ⟨read, items, mapError_eq_ok.mp hitems, ?_⟩
      rcases bind_eq_error.mp hnext with hread | ⟨operation, -, hresult⟩
      · exact Operation.descriptor_eq_error.mp hread
      · cases hresult
    · rintro ⟨read, items, hitems, htimeout⟩
      refine ⟨(read, items), mapError_eq_ok.mpr hitems, bind_eq_error.mpr (Or.inl ?_)⟩
      exact Operation.descriptor_eq_error.mpr htimeout

namespace Document

theorem dataSource_eq_ok (h : document.dataSource path = .ok dataSource) :
    dataSource.path = path := by
  unfold Document.dataSource at h
  split at h
  · cases h
  · exact PathItem.dataSource_eq_ok h

/-- What keeps a path from being a data source is reported under the path, and it is no duplicate
name. -/
theorem dataSource_eq_error (h : document.dataSource path = .error rejection) :
    rejection.path = path ∧ rejection.kind ≠ "DuplicateDataSource" := by
  unfold Document.dataSource at h
  split at h
  · cases h
    exact ⟨rfl, by simp [Rejection.kind, RejectionCause.kind]⟩
  · rcases PathItem.dataSource_eq_error_iff.mp h with ⟨cause, hcause, rfl⟩ | ⟨read, items, -, htime⟩
    · exact ⟨rfl, kind_ne_of_mem_unlistedCauses cause (PathItem.mem_of_listedItems_eq_error hcause)⟩
    · obtain ⟨fault, rfl⟩ := Operation.timeout_eq_error htime
      exact ⟨rfl, by simp [Rejection.kind, RejectionCause.kind]⟩

/-- What keeps a path from being a data source is read off its own operations. -/
theorem dataSource_eq_error_congr (hitem : other.paths.get? path = document.paths.get? path) :
    other.dataSource path = .error rejection ↔ document.dataSource path = .error rejection := by
  unfold Document.dataSource
  rw [hitem]
  cases document.paths.get? path with
  | none => rfl
  | some item =>
      simp only [PathItem.dataSource_eq_error_iff]

end Document

end DataSource

/-! ## What one path adds -/

namespace Listings

/-- The names of the data sources found so far. -/
def names (listings : Listings) : List String :=
  listings.dataSources.map DataSourceDescriptor.name

/-- The paths of the data sources found so far. -/
def foundPaths (listings : Listings) : List String :=
  listings.dataSources.map DataSourceDescriptor.path

/-- The paths that have been rejected so far. -/
def rejectedPaths (listings : Listings) : List String :=
  listings.rejections.map Rejection.path

/-- Why a path is rejected: for a reason of its own, or because the name of its data source belongs
to one that has been found under a smaller path. -/
inductive Explains (listings : Listings) (document : Document) (rejection : Rejection) : Prop
  | unfit (h : document.dataSource rejection.path = .error rejection)
  | duplicate {dataSource earlier : DataSourceDescriptor}
      (h : document.dataSource rejection.path = .ok dataSource)
      (hcause : rejection.cause = .duplicateDataSource dataSource.name)
      (hearlier : earlier ∈ listings.dataSources) (hless : earlier.path < rejection.path)
      (hname : earlier.name = dataSource.name)

/-- What the listings are after some paths of a document. -/
structure Covers (listings : Listings) (document : Document) (paths : List String) : Prop where
  found_sublist : listings.foundPaths.Sublist paths
  rejected_sublist : listings.rejectedPaths.Sublist paths
  perm : (listings.foundPaths ++ listings.rejectedPaths).Perm paths
  names_nodup : listings.names.Nodup
  found : ∀ dataSource ∈ listings.dataSources,
    document.dataSource dataSource.path = .ok dataSource
  explained : ∀ rejection ∈ listings.rejections, listings.Explains document rejection

variable {listings : Listings} {document : Document} {paths : List String} {path : String}
  {dataSource : DataSourceDescriptor} {rejection : Rejection}

theorem takes_iff {name : String} : listings.takes name ↔ name ∈ listings.names := by
  simp [takes, names]

/-- The listings with one more data source. -/
theorem Covers.found_one (h : listings.Covers document paths)
    (hok : document.dataSource path = .ok dataSource) (hfree : dataSource.name ∉ listings.names) :
    Covers { listings with dataSources := listings.dataSources ++ [dataSource] } document
      (paths ++ [path]) := by
  have hpath : dataSource.path = path := Document.dataSource_eq_ok hok
  have hfound : foundPaths { listings with dataSources := listings.dataSources ++ [dataSource] } =
      listings.foundPaths ++ [path] := by
    simp [foundPaths, hpath]
  refine ⟨?_, ?_, ?_, ?_, ?_, ?_⟩
  · rw [hfound]
    exact h.found_sublist.append (List.Sublist.refl _)
  · exact h.rejected_sublist.trans (List.sublist_append_left ..)
  · rw [hfound, List.append_assoc]
    have hswap : (listings.foundPaths ++ ([path] ++ listings.rejectedPaths)).Perm
        (listings.foundPaths ++ (listings.rejectedPaths ++ [path])) :=
      List.perm_append_comm.append_left _
    rw [← List.append_assoc _ _ [path]] at hswap
    exact hswap.trans (h.perm.append_right _)
  · have hnames : names { listings with dataSources := listings.dataSources ++ [dataSource] } =
        listings.names ++ [dataSource.name] := by
      simp [names]
    rw [hnames, ← List.concat_eq_append]
    exact h.names_nodup.concat hfree
  · intro other hother
    rcases List.mem_append.mp hother with hold | hnew
    · exact h.found other hold
    · rw [List.mem_singleton.mp hnew, hpath, hok]
  · intro rejection hrejection
    cases h.explained rejection hrejection with
    | unfit hunfit => exact .unfit hunfit
    | duplicate hother hcause hearlier hless hname =>
        exact .duplicate hother hcause (List.mem_append_left _ hearlier) hless hname

/-- The listings with one more rejection. -/
theorem Covers.rejected_one (h : listings.Covers document paths) (hpath : rejection.path = path)
    (hexplains : listings.Explains document rejection) :
    Covers { listings with rejections := listings.rejections ++ [rejection] } document
      (paths ++ [path]) := by
  have hrejected :
      rejectedPaths { listings with rejections := listings.rejections ++ [rejection] } =
        listings.rejectedPaths ++ [path] := by
    simp [rejectedPaths, hpath]
  have hkept : ∀ other, listings.Explains document other →
      Explains { listings with rejections := listings.rejections ++ [rejection] } document
        other := by
    intro other hother
    cases hother with
    | unfit hunfit => exact .unfit hunfit
    | duplicate hok hcause hearlier hless hname => exact .duplicate hok hcause hearlier hless hname
  refine ⟨?_, ?_, ?_, h.names_nodup, h.found, ?_⟩
  · exact h.found_sublist.trans (List.sublist_append_left ..)
  · rw [hrejected]
    exact h.rejected_sublist.append (List.Sublist.refl _)
  · rw [hrejected, ← List.append_assoc]
    exact h.perm.append_right _
  · intro other hother
    rcases List.mem_append.mp hother with hold | hnew
    · exact hkept other (h.explained other hold)
    · rw [List.mem_singleton.mp hnew]
      exact hkept rejection hexplains

/-- **One more path.**  A path that is larger than all before it keeps what the listings are. -/
theorem Covers.record (h : listings.Covers document paths)
    (hlarger : ∀ other ∈ paths, other < path) :
    (listings.record path (document.dataSource path)).Covers document (paths ++ [path]) := by
  cases hresult : document.dataSource path with
  | error rejection =>
      have hpath : rejection.path = path := (Document.dataSource_eq_error hresult).1
      have hunfit : document.dataSource rejection.path = .error rejection := by rw [hpath, hresult]
      exact h.rejected_one hpath (.unfit hunfit)
  | ok dataSource =>
      by_cases htaken : dataSource.name ∈ listings.names
      · obtain ⟨earlier, hearlier, hname⟩ := List.mem_map.mp htaken
        have hless : earlier.path < path :=
          hlarger _ (h.found_sublist.subset (List.mem_map_of_mem hearlier))
        simp only [Listings.record, if_pos (takes_iff.mpr htaken)]
        exact h.rejected_one rfl (.duplicate hresult rfl hearlier hless hname)
      · have hfree : ¬ listings.takes dataSource.name := mt takes_iff.mp htaken
        simp only [Listings.record, if_neg hfree]
        exact h.found_one hresult htaken

end Listings

/-! ## All paths -/

/-- The listings after some paths of a document. -/
def Document.listingsOf (document : Document) (paths : List String) : Listings :=
  paths.foldl (fun listings path => listings.record path (document.dataSource path)) {}

/-- **All paths.**  The listings after paths in increasing order. -/
theorem Document.covers_listingsOf (document : Document) {paths : List String}
    (hpaths : paths.Pairwise (· < ·)) : (document.listingsOf paths).Covers document paths := by
  induction paths using List.reverseRecOn with
  | nil =>
      exact ⟨List.Sublist.refl _, List.Sublist.refl _, List.Perm.refl _, List.nodup_nil,
        fun _ hmem => (List.not_mem_nil hmem).elim, fun _ hmem => (List.not_mem_nil hmem).elim⟩
  | append_singleton before path ih =>
      obtain ⟨hbefore, -, hlarger⟩ := List.pairwise_append.mp hpaths
      have hstep := (ih hbefore).record fun other hother =>
        hlarger other hother path (List.mem_singleton_self _)
      rw [listingsOf, List.foldl_append]
      exact hstep

theorem Document.pairwise_selectedPaths (document : Document) (selection : Selection) :
    (document.selectedPaths selection).Pairwise (· < ·) :=
  document.paths.pairwise_names.filter _

/-! ## Reading the listings -/

namespace Listings

variable {listings : Listings} {document : Document} {paths : List String} {path : String}

@[simp] theorem mem_diagnostics {rejection : Rejection} :
    (⟨.dataSource, rejection⟩ : Diagnostic) ∈ listings.diagnostics ↔
      rejection ∈ listings.rejections := by
  simp [diagnostics]

theorem map_path_diagnostics :
    listings.diagnostics.map Diagnostic.path = listings.rejectedPaths := by
  rw [diagnostics, rejectedPaths, List.map_map]
  rfl

/-- A path has one outcome: one data source and no diagnostic, or one diagnostic and no data
source. -/
def Settles (listings : Listings) (path : String) : Prop :=
  (∃ dataSource,
    listings.dataSources.filter (fun dataSource => dataSource.path == path) = [dataSource] ∧
      listings.diagnostics.filter (fun diagnostic => diagnostic.path == path) = []) ∨
  (listings.dataSources.filter (fun dataSource => dataSource.path == path) = [] ∧
    ∃ diagnostic,
      listings.diagnostics.filter (fun diagnostic => diagnostic.path == path) = [diagnostic])

theorem length_filter_dataSources :
    (listings.dataSources.filter fun dataSource => dataSource.path == path).length =
      listings.foundPaths.count path := by
  rw [foundPaths, List.count, List.countP_map, List.countP_eq_length_filter]
  rfl

theorem length_filter_diagnostics :
    (listings.diagnostics.filter fun diagnostic => diagnostic.path == path).length =
      listings.rejectedPaths.count path := by
  rw [← map_path_diagnostics, List.count, List.countP_map, List.countP_eq_length_filter]
  rfl

namespace Covers

theorem mem_or_mem (h : listings.Covers document paths) (hpath : path ∈ paths) :
    path ∈ listings.foundPaths ∨ path ∈ listings.rejectedPaths :=
  List.mem_append.mp (h.perm.mem_iff.mpr hpath)

/-- Every path has one outcome, since the two lists name it once together. -/
theorem settles (h : listings.Covers document paths) (hnodup : paths.Nodup)
    (hpath : path ∈ paths) : listings.Settles path := by
  have hcount : listings.foundPaths.count path + listings.rejectedPaths.count path = 1 := by
    rw [← List.count_append, h.perm.count_eq, List.count_eq_one_of_mem hnodup hpath]
  rw [← length_filter_dataSources, ← length_filter_diagnostics] at hcount
  rcases Nat.eq_zero_or_pos
    (listings.dataSources.filter fun dataSource => dataSource.path == path).length with
    hnone | hsome
  · refine Or.inr ⟨List.length_eq_zero_iff.mp hnone, List.length_eq_one_iff.mp ?_⟩
    omega
  · refine Or.inl ?_
    obtain ⟨dataSource, hone⟩ := List.length_eq_one_iff.mp (by omega :
      (listings.dataSources.filter fun dataSource => dataSource.path == path).length = 1)
    exact ⟨dataSource, hone, List.length_eq_zero_iff.mp (by omega)⟩

/-- A reason other than a duplicate name is reported exactly if it keeps the path from being a data
source. -/
theorem mem_rejections_iff {cause : RejectionCause} (h : listings.Covers document paths)
    (hpath : path ∈ paths) (hkind : cause.kind ≠ "DuplicateDataSource") :
    ⟨path, cause⟩ ∈ listings.rejections ↔ document.dataSource path = .error ⟨path, cause⟩ := by
  constructor
  · intro hmem
    cases h.explained _ hmem with
    | unfit hunfit => exact hunfit
    | duplicate hok hcause hearlier hless hname =>
        exact absurd (congrArg RejectionCause.kind hcause) hkind
  · intro hunfit
    rcases h.mem_or_mem hpath with hfound | hrejected
    · obtain ⟨dataSource, hmem, hsame⟩ := List.mem_map.mp hfound
      have hok := h.found dataSource hmem
      rw [hsame, hunfit] at hok
      cases hok
    · obtain ⟨other, hmem, hsame⟩ := List.mem_map.mp hrejected
      cases h.explained other hmem with
      | unfit hother =>
          rw [hsame, hunfit] at hother
          cases hother
          exact hmem
      | duplicate hok hcause hearlier hless hname =>
          rw [hsame, hunfit] at hok
          cases hok

/-- **A duplicate name is reported** exactly if the path would be a data source and the name of this
belongs to one with a smaller path. -/
theorem duplicate_iff (h : listings.Covers document paths) (hpath : path ∈ paths) :
    (∃ name, ⟨path, .duplicateDataSource name⟩ ∈ listings.rejections) ↔
      ∃ dataSource, document.dataSource path = .ok dataSource ∧
        ∃ earlier ∈ listings.dataSources, earlier.path < path ∧
          earlier.name = dataSource.name := by
  constructor
  · rintro ⟨name, hmem⟩
    cases h.explained _ hmem with
    | unfit hunfit => exact absurd rfl (Document.dataSource_eq_error hunfit).2
    | duplicate hok hcause hearlier hless hname => exact ⟨_, hok, _, hearlier, hless, hname⟩
  · rintro ⟨dataSource, hok, earlier, hearlier, hless, hname⟩
    rcases h.mem_or_mem hpath with hfound | hrejected
    · -- two data sources with one name are the same, so they have the same path
      obtain ⟨found, hmem, hsame⟩ := List.mem_map.mp hfound
      have hfoundOk := h.found found hmem
      rw [hsame, hok] at hfoundOk
      cases hfoundOk
      have heq := List.inj_on_of_nodup_map h.names_nodup hearlier hmem hname
      rw [heq, hsame] at hless
      exact absurd hless (lt_irrefl _)
    · obtain ⟨rejection, hmem, hsame⟩ := List.mem_map.mp hrejected
      cases h.explained rejection hmem with
      | unfit hunfit =>
          rw [hsame, hok] at hunfit
          cases hunfit
      | @duplicate other _ hother hcause _ _ _ =>
          refine ⟨other.name, ?_⟩
          rw [← hcause, ← hsame]
          exact hmem

end Covers

/-! ## The listings of a document -/

/-- The listings of a run account for every selected path. -/
structure Accounted (listings : Listings) (document : Document) (selection : Selection) : Prop where
  /-- A selected path is declared, and where it lists items there is an operation that reads them.
  Nothing else is looked up on the way. -/
  lookedUp : ∀ path ∈ document.selectedPaths selection, ∃ item,
    document.paths.get? path = some item ∧
      ∀ read items, item.listedItems = .ok (read, items) → item.get = some read
  settled : ∀ path ∈ document.selectedPaths selection, listings.Settles path
  found_selected : ∀ dataSource ∈ listings.dataSources,
    dataSource.path ∈ document.selectedPaths selection
  reported_selected : ∀ diagnostic ∈ listings.diagnostics,
    diagnostic.path ∈ document.selectedPaths selection
  found_increasing : (listings.dataSources.map DataSourceDescriptor.path).Pairwise (· < ·)
  reported_increasing : (listings.diagnostics.map Diagnostic.path).Pairwise (· < ·)
  names_nodup : (listings.dataSources.map DataSourceDescriptor.name).Nodup
  /-- What is found is what its path gives, the other paths left aside. -/
  found : ∀ dataSource ∈ listings.dataSources,
    document.dataSource dataSource.path = .ok dataSource
  duplicate : ∀ path ∈ document.selectedPaths selection,
    (∃ name, ⟨.dataSource, path, .duplicateDataSource name⟩ ∈ listings.diagnostics) ↔
      ∃ dataSource, document.dataSource path = .ok dataSource ∧
        ∃ earlier ∈ listings.dataSources, earlier.path < path ∧ earlier.name = dataSource.name
  /-- Every other reason is reported in each document with the same entry under the path, whatever
  else is declared or selected there. -/
  independent : ∀ path ∈ document.selectedPaths selection, ∀ (other : Document)
    (otherSelection : Selection), path ∈ other.selectedPaths otherSelection →
    other.paths.get? path = document.paths.get? path → ∀ cause : RejectionCause,
      cause.kind ≠ "DuplicateDataSource" →
        (⟨.dataSource, path, cause⟩ ∈ listings.diagnostics ↔
          ⟨.dataSource, path, cause⟩ ∈ (other.dataSources otherSelection).diagnostics)

end Listings

namespace Document

theorem covers_dataSources (document : Document) (selection : Selection) :
    (document.dataSources selection).Covers document (document.selectedPaths selection) :=
  document.covers_listingsOf (document.pairwise_selectedPaths selection)

/-- **Every selected path is accounted for.**  It has one outcome, a data source or a diagnostic,
and both are listed by increasing path.  The names of the data sources are distinct.  A path is
rejected for a duplicate name exactly if it would be a data source but for one with this name under
a smaller path, and for any other reason no matter what the other paths are. -/
theorem dataSources_accounted (document : Document) (selection : Selection) :
    (document.dataSources selection).Accounted document selection := by
  have hcovers := document.covers_dataSources selection
  have hincreasing := document.pairwise_selectedPaths selection
  have hlookUps := document.lookUpsSafe selection
  have hreported : ∀ diagnostic ∈ (document.dataSources selection).diagnostics,
      diagnostic.path ∈ (document.dataSources selection).rejectedPaths := by
    intro diagnostic hdiagnostic
    rw [← Listings.map_path_diagnostics]
    exact List.mem_map_of_mem hdiagnostic
  exact {
    lookedUp := fun path hpath => by
      obtain ⟨item, hitem⟩ := hlookUps.selected path hpath
      exact ⟨item, hitem, hlookUps.listed item⟩
    settled := fun path hpath => hcovers.settles (hincreasing.imp ne_of_lt) hpath
    found_selected := fun dataSource hmem =>
      hcovers.found_sublist.subset (List.mem_map_of_mem hmem)
    reported_selected := fun diagnostic hmem =>
      hcovers.rejected_sublist.subset (hreported diagnostic hmem)
    found_increasing := hincreasing.sublist hcovers.found_sublist
    reported_increasing := by
      rw [Listings.map_path_diagnostics]
      exact hincreasing.sublist hcovers.rejected_sublist
    names_nodup := hcovers.names_nodup
    found := hcovers.found
    duplicate := fun path hpath => by
      simp only [Listings.mem_diagnostics]
      exact hcovers.duplicate_iff hpath
    independent := fun path hpath other otherSelection hother hitem cause hkind => by
      have hcoversOther := other.covers_dataSources otherSelection
      rw [Listings.mem_diagnostics, Listings.mem_diagnostics,
        hcovers.mem_rejections_iff hpath hkind, hcoversOther.mem_rejections_iff hother hkind]
      exact (dataSource_eq_error_congr hitem).symm }

end Document

end ResourceGraph
