import ResourceGraph.Analysis.DataSource
import ResourceGraph.Proofs.Lists
import ResourceGraph.Proofs.Precedence

/-!
# Blank settings

The variable for the prefixes is taken apart at its commas, and blank pieces name no prefix.  So a
text of commas and blank characters names none at all (`Settings.prefixesOf_eq_nil_iff`), and one
may expect that it counts as a variable that is not set.

Whether the variable is set is asked of the text as a whole, however, before it is taken apart.
Only the empty text counts as none; any other text provides a list of prefixes, be it empty.  For a
selection an empty list is the opposite of none: it selects no path
(`Selection.forall_selects_eq_false_iff`), so the analysis finds nothing and reports nothing.

## Strategy

Sources with a text in the variable are compared with the same sources without it.

* A text that is empty or overridden by arguments provides nothing
  (`Sources.Sets.resolve_eq_of_hidden`).
* Any other text takes the place of what the project file says.  Prefixes of the right kind decide
  those of the settings and nothing else (`Settings.ofValues_includePrefix`), so the outcome is the
  one without the text, with the prefixes emptied (`Sources.Sets.resolve_eq_emptied`).
* Prefixes of the wrong kind in the project file are reported only while nothing hides them, so
  what is reported tells the two outcomes apart (`Sources.Sets.prefixesFit_of_selectAlike`).
-/

namespace ResourceGraph

/-! ## Selecting nothing -/

/-- Every text begins some path that is not among given ones. -/
theorem exists_path_not_mem (text : String) (paths : List String) :
    ∃ path, path ∉ paths ∧ text.toList <+: path.toList := by
  -- a path that is longer than all the given ones together
  let extra := List.replicate ((paths.map String.length).sum + 1) '/'
  refine ⟨String.ofList (text.toList ++ extra), fun hmem => ?_, ?_⟩
  · have hlength : (String.ofList (text.toList ++ extra)).length ≤
        (paths.map String.length).sum :=
      List.le_sum_of_mem (List.mem_map_of_mem hmem)
    rw [← String.length_toList, String.toList_ofList, List.length_append,
      List.length_replicate] at hlength
    omega
  · rw [String.toList_ofList]
    exact List.prefix_append text.toList extra

namespace Selection

variable {selection : Selection}

theorem selects_iff {path : String} : selection.selects path = true ↔
    path ∉ selection.excluded ∧ ∀ prefixes, selection.prefixes = some prefixes →
      ∃ text ∈ prefixes.toList, text.toList <+: path.toList := by
  unfold selects
  cases selection.prefixes with
  | none => simp
  | some prefixes => simp [List.isPrefixOf_iff_prefix]

/-- **Only an empty list of prefixes leaves out every path.** -/
theorem forall_selects_eq_false_iff :
    (∀ path, selection.selects path = false) ↔ selection.prefixes = some (.many []) := by
  constructor
  · intro h
    cases hprefixes : selection.prefixes with
    | none =>
        obtain ⟨path, hpath, -⟩ := exists_path_not_mem "" selection.excluded
        have hselected : selection.selects path = true :=
          selects_iff.mpr ⟨hpath, by simp [hprefixes]⟩
        exact absurd hselected (Bool.eq_false_iff.mp (h path))
    | some prefixes =>
        have hempty : prefixes.toList = [] := by
          by_contra hne
          obtain ⟨text, rest, hlist⟩ := List.exists_cons_of_ne_nil hne
          obtain ⟨path, hpath, hbegins⟩ := exists_path_not_mem text selection.excluded
          have hselected : selection.selects path = true := by
            refine selects_iff.mpr ⟨hpath, fun other hother => ⟨text, ?_, hbegins⟩⟩
            rw [hprefixes, Option.some_inj] at hother
            rw [← hother, hlist]
            exact List.mem_cons_self ..
          exact absurd hselected (Bool.eq_false_iff.mp (h path))
        cases prefixes with
        | one text => cases hempty
        | many texts =>
            cases hempty
            rfl
  · intro h path
    rw [Bool.eq_false_iff, ne_eq, selects_iff]
    rintro ⟨-, hall⟩
    obtain ⟨text, htext, -⟩ := hall _ h
    cases htext

end Selection

section Overlooked

variable {selection : Selection}

theorem Document.selectedPaths_eq_nil (document : Document)
    (h : ∀ path, selection.selects path = false) : document.selectedPaths selection = [] := by
  unfold selectedPaths
  exact List.filter_eq_nil_iff.mpr fun path _ => by simp [h path]

/-- Where no path is selected there are no resources, and nothing is reported. -/
theorem Document.resources_eq_nil (document : Document)
    (h : ∀ path, selection.selects path = false) : document.resources selection = .ok {} := by
  unfold resources candidatePaths
  rw [document.selectedPaths_eq_nil h]
  rfl

/-- Where no path is selected there are no data sources, and nothing is reported. -/
theorem Document.dataSources_eq_nil (document : Document)
    (h : ∀ path, selection.selects path = false) : document.dataSources selection = {} := by
  unfold dataSources
  rw [document.selectedPaths_eq_nil h]
  rfl

end Overlooked

/-! ## Texts without prefixes -/

/-- A text is blank exactly if nothing is left when it is trimmed. -/
theorem Text.trim_eq_empty_iff {text : String} :
    trim text = "" ↔ ∀ c ∈ text.toList, isBlank c = true := by
  rw [trim_eq_iff]
  constructor
  · rintro ⟨⟨before, after, htext, hbefore, hafter⟩, -, -⟩ c hc
    rw [htext, String.toList_empty, List.append_nil, List.mem_append] at hc
    exact hc.elim (hbefore c) (hafter c)
  · intro h
    refine ⟨⟨text.toList, [], by simp, h, by simp⟩, ?_, ?_⟩
    · intro c hc
      cases hc
    · intro c hc
      cases hc

namespace Settings

/-- A text names no prefix: it has commas and blank characters and nothing else. -/
def NamesNoPrefix (text : String) : Prop := ∀ c ∈ text.toList, c = ',' ∨ Text.isBlank c = true

/-- The texts that list no prefix are those of commas and blank characters. -/
theorem prefixesOf_eq_nil_iff {text : String} : prefixesOf text = [] ↔ NamesNoPrefix text := by
  have hpieces : prefixesOf text = [] ↔
      ∀ piece ∈ text.toList.splitOn ',', ∀ c ∈ piece, Text.isBlank c = true := by
    unfold prefixesOf
    rw [List.filter_eq_nil_iff, List.forall_mem_map]
    refine forall₂_congr fun piece _ => ?_
    rw [Bool.not_eq_true, Bool.not_eq_false', String.isEmpty_iff, Text.trim_eq_empty_iff,
      String.toList_ofList]
  rw [hpieces]
  constructor
  · intro h c hc
    by_cases hcomma : c = ','
    · exact .inl hcomma
    · obtain ⟨piece, hpiece, hmem⟩ := exists_mem_splitOn hc hcomma
      exact .inr (h piece hpiece c hmem)
  · intro h piece hpiece c hc
    obtain ⟨hcomma, hmem⟩ := ne_and_mem_of_mem_splitOn hpiece hc
    exact (h c hmem).resolve_left hcomma

/-! ## Prefixes among the values -/

/-- A value gives prefixes exactly if there is nothing to report about it. -/
theorem prefixMismatches_eq_nil_iff {value : Value} :
    PreferenceValues.prefixMismatches value = [] ↔
      (PreferenceValues.prefixes? value).isSome = true := by
  unfold PreferenceValues.prefixMismatches
  split
  · next hgiven => simp [hgiven]
  · next hgiven =>
      refine iff_of_false (fun hnone => ?_) hgiven
      obtain ⟨htexts, htext⟩ := List.append_eq_nil_iff.mp hnone
      rw [List.map_eq_nil_iff] at htexts htext
      -- a scalar is no list, and everything else is no text
      cases value with
      | scalar value => cases htexts
      | list items => cases htext
      | map entries => cases htext
      | set members => cases htext
      | pair first second => cases htext

/-- Nothing but an empty list gives an empty list of prefixes. -/
theorem prefixes?_eq_nil_iff {value : Value} :
    PreferenceValues.prefixes? value = some (some (.many [])) ↔ value = .list [] := by
  constructor
  · intro h
    cases value with
    | scalar value => cases value <;> cases h
    | list items =>
        cases items with
        | nil => rfl
        | cons first rest =>
            simp [PreferenceValues.prefixes?, PreferenceValues.texts?, List.mapM_cons,
              Option.bind_eq_some_iff] at h
    | map entries => cases h
    | set members => cases h
    | pair first second => cases h
  · rintro rfl
    rfl

/-- A field for prefixes takes what it is given: nothing, or a value that gives prefixes. -/
def PrefixesFit (value : Option Value) : Prop :=
  ∀ given, value = some given → (PreferenceValues.prefixes? given).isSome = true

/-- Settings with other prefixes. -/
def withPrefixes (settings : Settings) (prefixes : Option PathPrefixes) : Settings :=
  { settings with selection := { settings.selection with prefixes } }

theorem withPrefixes_eq_self {settings : Settings} {prefixes : Option PathPrefixes}
    (h : settings.selection.prefixes = prefixes) : settings.withPrefixes prefixes = settings := by
  subst h
  rfl

theorem prefixesFit_iff {value : Option Value} : PrefixesFit value ↔
    PreferenceValues.mismatchesOf "include_prefix" PreferenceValues.prefixMismatches value =
      [] := by
  unfold PrefixesFit PreferenceValues.mismatchesOf Mismatch.ofField
  cases value with
  | none => simp
  | some given =>
      rw [List.map_eq_nil_iff]
      simp [prefixMismatches_eq_nil_iff]

/-- An empty list is of the right kind. -/
theorem prefixesFit_nil : PrefixesFit (some (.list [])) := by
  intro given hgiven
  cases hgiven
  rfl

theorem prefixesFit_of_mismatches_eq_nil {values : PreferenceValues}
    (h : values.mismatches = []) : PrefixesFit values.includePrefix := by
  rw [PreferenceValues.mismatches, List.append_eq_nil_iff, List.append_eq_nil_iff] at h
  exact prefixesFit_iff.mpr h.1.2

/-- Prefixes add nothing to what is reported exactly if they are of the right kind. -/
theorem mismatches_includePrefix_iff (values : PreferenceValues) {value : Option Value} :
    PreferenceValues.mismatches { values with includePrefix := value } =
        PreferenceValues.mismatches { values with includePrefix := none } ↔ PrefixesFit value := by
  rw [prefixesFit_iff]
  unfold PreferenceValues.mismatches
  rw [List.append_left_inj]
  exact List.append_right_inj _

/-- **Prefixes of the right kind decide the prefixes of the settings, and nothing else.** -/
theorem ofValues_includePrefix (values : PreferenceValues) {value : Option Value}
    (h : PrefixesFit value) :
    ofValues { values with includePrefix := value } =
      (ofValues { values with includePrefix := none }).map fun settings =>
        settings.withPrefixes ((value.bind PreferenceValues.prefixes?).getD none) := by
  have hmismatches := (mismatches_includePrefix_iff values).mpr h
  unfold ofValues PreferenceValues.preferences
  rw [hmismatches]
  split
  · rfl
  · simp only [Except.mapError, bind, Except.bind, ofPreferences]
    -- the level and the format are read in the same way on both sides
    split <;> rfl

/-- What is reported about the values is what the outcome reports, unless there is nothing. -/
theorem ofValues_eq_malformed_iff {values : PreferenceValues} {mismatches : List Mismatch} :
    ofValues values = .error (.malformed mismatches) ↔
      values.mismatches = mismatches ∧ mismatches ≠ [] := by
  have hnamed (preferences : Preferences) :
      ofPreferences preferences ≠ .error (.malformed mismatches) := by
    intro h
    unfold ofPreferences at h
    split at h <;> cases h
  unfold ofValues PreferenceValues.preferences
  cases hvalues : values.mismatches with
  | nil =>
      refine iff_of_false (hnamed _) ?_
      rintro ⟨rfl, hne⟩
      exact hne rfl
  | cons first rest =>
      constructor
      · intro h
        cases h
        exact ⟨rfl, List.cons_ne_nil _ _⟩
      · rintro ⟨rfl, -⟩
        rfl

/-- With a project file that can be read the mismatches are those of the provided values. -/
theorem Sources.IsReadable.resolve_eq_malformed_iff {sources : Sources} (h : sources.IsReadable)
    {mismatches : List Mismatch} : sources.resolve = .error (.fault (.malformed mismatches)) ↔
      sources.values.mismatches = mismatches ∧ mismatches ≠ [] := by
  rw [h.resolve_eq, mapError_eq_error, ← ofValues_eq_malformed_iff]
  constructor
  · rintro ⟨fault, hfault, heq⟩
    cases heq
    exact hfault
  · intro hfault
    exact ⟨_, hfault, rfl⟩

/-! ## A variable that is set and one that is not -/

/-- Two outcomes select the same paths: there are settings that do, or the same failure. -/
def SelectAlike (outcome outcome' : Except SettingsFailure Settings) : Prop :=
  ∀ path, (outcome.map fun settings => settings.selection.selects path) =
    outcome'.map fun settings => settings.selection.selects path

namespace Sources

/-- The first sources have a text in the variable for the prefixes, which is not set in the second
ones.  Apart from it the same is found in both. -/
structure Sets (text : String) (sources unset : Sources) : Prop where
  overrides : sources.overrides = unset.overrides
  directory : sources.directory = unset.directory
  files : sources.surroundings.files = unset.surroundings.files
  given : sources.surroundings.environment.get? prefixVariable = some text
  missing : unset.surroundings.environment.get? prefixVariable = none
  others : ∀ name, name ≠ prefixVariable →
    sources.surroundings.environment.get? name = unset.surroundings.environment.get? name

/-- The cases in which the text does not matter. -/
inductive Immaterial (unset : Sources) (text : String) : Prop
  /-- An empty variable counts as one that is not set. -/
  | empty (htext : text = "")
  /-- Prefixes among the arguments go before the variable. -/
  | overridden (hprefixes : unset.overrides.prefixes ≠ [])
  /-- The project file asks for an empty list as well. -/
  | repeated (hproject : unset.value? .includePrefix .project = some (.list []))
  /-- There are no settings anyway, and the prefixes in the project file are not the reason. -/
  | unsettled (hnone : ∀ settings, unset.resolve ≠ .ok settings)
      (hfits : PrefixesFit (unset.value? .includePrefix .project))

variable {text : String} {sources unset : Sources}

namespace Sets

theorem readProject_eq (h : sources.Sets text unset) :
    readProject sources.surroundings sources.directory =
      readProject unset.surroundings unset.directory := by
  unfold readProject
  rw [h.directory, h.files]

theorem isReadable (h : sources.Sets text unset) (hunset : unset.IsReadable) :
    sources.IsReadable := by
  obtain ⟨project, hread⟩ := hunset
  exact ⟨project, h.readProject_eq.trans hread⟩

theorem project_eq (h : sources.Sets text unset) : sources.project = unset.project := by
  unfold project
  rw [h.readProject_eq]

theorem valueOf?_eq (h : sources.Sets text unset) {name : String} (hname : name ≠ prefixVariable) :
    sources.surroundings.valueOf? name = unset.surroundings.valueOf? name := by
  unfold Surroundings.valueOf?
  rw [h.others name hname]

theorem value?_argument_eq (h : sources.Sets text unset) (field : Field) :
    sources.value? field .argument = unset.value? field .argument := by
  cases field <;> simp only [value?, h.overrides]

theorem value?_project_eq (h : sources.Sets text unset) (field : Field) :
    sources.value? field .project = unset.value? field .project := by
  cases field <;> simp only [value?, h.project_eq]

/-- The other fields have the same provider and the same value. -/
theorem provided?_eq_of_ne (h : sources.Sets text unset) {field : Field}
    (hfield : field ≠ .includePrefix) : sources.provided? field = unset.provided? field := by
  have henvironment : sources.value? field .environment = unset.value? field .environment := by
    cases field with
    | logLevel =>
        have hname : logLevelVariable ≠ prefixVariable := by decide
        simp only [value?, h.valueOf?_eq hname]
    | outputFormat =>
        have hname : formatVariable ≠ prefixVariable := by decide
        simp only [value?, h.valueOf?_eq hname]
    | includePrefix => exact absurd rfl hfield
  rw [Sources.provided?_eq, Sources.provided?_eq, h.value?_argument_eq, h.value?_project_eq,
    henvironment]

theorem values_eq (h : sources.Sets text unset) :
    sources.values =
      { unset.values with includePrefix := sources.provided? .includePrefix } := by
  have hexcluded : sources.excluded? = unset.excluded? := by
    unfold excluded?
    rw [h.project_eq]
  have hlevel : Field.logLevel ≠ .includePrefix := by decide
  have hformat : Field.outputFormat ≠ .includePrefix := by decide
  rw [Sources.values_eq, Sources.values_eq, h.provided?_eq_of_ne hlevel,
    h.provided?_eq_of_ne hformat, hexcluded]

/-- A change of the settings that the values make is made to the outcome. -/
theorem resolve_eq_map (h : sources.Sets text unset) {change : Settings → Settings}
    (hvalues : ofValues sources.values = (ofValues unset.values).map change) :
    sources.resolve = unset.resolve.map change := by
  cases hread : readProject unset.surroundings unset.directory with
  | error failure =>
      -- without a project file that can be read the values do not come in
      have hunset : unset.resolve = .error failure := bind_eq_error.mpr (.inl hread)
      have hsources : sources.resolve = .error failure :=
        bind_eq_error.mpr (.inl (h.readProject_eq.trans hread))
      rw [hunset, hsources]
      rfl
  | ok project =>
      have hunset : unset.IsReadable := ⟨project, hread⟩
      rw [hunset.resolve_eq, (h.isReadable hunset).resolve_eq, hvalues]
      cases ofValues unset.values <;> rfl

/-! ### An empty or overridden text -/

/-- A text that is empty or overridden is as good as none. -/
theorem resolve_eq_of_hidden (h : sources.Sets text unset)
    (hhidden : text = "" ∨ unset.overrides.prefixes ≠ []) : sources.resolve = unset.resolve := by
  have hprovided : sources.provided? .includePrefix = unset.provided? .includePrefix := by
    rw [Sources.provided?_eq, Sources.provided?_eq, h.value?_argument_eq, h.value?_project_eq]
    rcases hhidden with rfl | hprefixes
    · simp only [value?, Surroundings.valueOf?, h.given, h.missing]
      rfl
    · have hargument : unset.value? .includePrefix .argument =
          some (textList unset.overrides.prefixes) :=
        if_neg (by simpa using hprefixes)
      rw [hargument]
      rfl
  have hvalues : sources.values = unset.values := by
    rw [h.values_eq, hprovided, Sources.values_eq]
  have hsame : sources.resolve = unset.resolve.map id := by
    apply h.resolve_eq_map
    rw [hvalues, Except.map_id]
    rfl
  rw [hsame, Except.map_id]
  rfl

/-! ### Without the text -/

section Unset

variable (h : sources.Sets text unset) (hprefixes : unset.overrides.prefixes = [])

include h hprefixes

/-- Without the text the project file provides the prefixes. -/
theorem unset_includePrefix_eq :
    unset.values.includePrefix = unset.value? .includePrefix .project := by
  have hargument : unset.value? .includePrefix .argument = none := if_pos (by simp [hprefixes])
  have henvironment : unset.value? .includePrefix .environment = none := by
    simp only [value?, Surroundings.valueOf?, h.missing]
    rfl
  rw [Sources.values_eq]
  simp only [Sources.provided?_eq, hargument, henvironment]
  rfl

/-- Without the text an empty list of prefixes is one in the project file. -/
theorem prefixes_eq_nil_iff {settings : Settings} (hresolve : unset.resolve = .ok settings) :
    settings.selection.prefixes = some (.many []) ↔
      unset.value? .includePrefix .project = some (.list []) := by
  obtain ⟨-, hvalues⟩ := resolve_eq_ok_iff.mp hresolve
  obtain ⟨-, -, -, hselection, -⟩ := ofValues_eq_ok_iff.mp hvalues
  rw [hselection, h.unset_includePrefix_eq hprefixes]
  cases unset.value? .includePrefix .project with
  | none => simp
  | some value =>
      rw [Option.bind_some, Option.some_inj, ← prefixes?_eq_nil_iff]
      cases PreferenceValues.prefixes? value <;> simp

/-- Without the text there are only settings if the project file has prefixes of the right kind. -/
theorem prefixesFit_of_resolve {settings : Settings} (hresolve : unset.resolve = .ok settings) :
    PrefixesFit (unset.value? .includePrefix .project) := by
  obtain ⟨-, hvalues⟩ := resolve_eq_ok_iff.mp hresolve
  obtain ⟨hmismatches, -⟩ := ofValues_eq_ok_iff.mp hvalues
  rw [← h.unset_includePrefix_eq hprefixes]
  exact prefixesFit_of_mismatches_eq_nil hmismatches

end Unset

/-! ### A blank text that counts -/

section Counting

variable (h : sources.Sets text unset) (hblank : NamesNoPrefix text) (htext : text ≠ "")
  (hprefixes : unset.overrides.prefixes = [])

include h hblank htext hprefixes

/-- The text provides the empty list. -/
theorem values_eq_emptied :
    sources.values = { unset.values with includePrefix := some (.list []) } := by
  have hargument : sources.value? .includePrefix .argument = none := by
    rw [h.value?_argument_eq]
    exact if_pos (by simp [hprefixes])
  have hvalue : sources.surroundings.valueOf? prefixVariable = some text := by
    unfold Surroundings.valueOf?
    rw [h.given, Option.filter_some]
    exact if_pos (by simpa using htext)
  have henvironment : sources.value? .includePrefix .environment = some (.list []) := by
    simp only [value?, hvalue, Option.map_some, prefixesOf_eq_nil_iff.mpr hblank]
    rfl
  rw [h.values_eq, Sources.provided?_eq, hargument, henvironment]
  rfl

/-- Settings that are resolved with the text have no prefix to select by. -/
theorem prefixes_eq_of_resolve {settings : Settings} (hresolve : sources.resolve = .ok settings) :
    settings.selection.prefixes = some (.many []) := by
  obtain ⟨-, hvalues⟩ := resolve_eq_ok_iff.mp hresolve
  rw [h.values_eq_emptied hblank htext hprefixes] at hvalues
  obtain ⟨-, -, -, hselection, -⟩ := ofValues_eq_ok_iff.mp hvalues
  exact hselection

/-- **The text empties the list of prefixes and changes nothing else**, unless the prefixes in the
project file are of the wrong kind. -/
theorem resolve_eq_emptied (hfits : PrefixesFit (unset.value? .includePrefix .project)) :
    sources.resolve =
      unset.resolve.map fun settings => settings.withPrefixes (some (.many [])) := by
  apply h.resolve_eq_map
  have hunset : unset.values =
      { unset.values with includePrefix := unset.value? .includePrefix .project } := by
    rw [← h.unset_includePrefix_eq hprefixes]
  rw [h.values_eq_emptied hblank htext hprefixes, ofValues_includePrefix _ prefixesFit_nil, hunset,
    ofValues_includePrefix _ hfits]
  -- the prefixes of the project file are overwritten
  cases ofValues { unset.values with includePrefix := none } <;> rfl

/-- Prefixes of the wrong kind in the project file are reported unless the text hides them. -/
theorem prefixesFit_of_selectAlike (halike : SelectAlike sources.resolve unset.resolve) :
    PrefixesFit (unset.value? .includePrefix .project) := by
  cases hread : readProject unset.surroundings unset.directory with
  | error failure =>
      -- a project file that cannot be read has no prefixes
      intro given hgiven
      simp only [value?, project, hread] at hgiven
      cases hgiven
  | ok project =>
      have hunset : unset.IsReadable := ⟨project, hread⟩
      rw [← h.unset_includePrefix_eq hprefixes]
      by_cases hnone : unset.values.mismatches = []
      · exact prefixesFit_of_mismatches_eq_nil hnone
      · have hreported := hunset.resolve_eq_malformed_iff.mpr ⟨rfl, hnone⟩
        have hsame : sources.resolve =
            .error (.fault (.malformed unset.values.mismatches)) := by
          apply map_eq_error.mp
          rw [halike "", hreported]
          rfl
        -- with the text the same is reported, though it hides the prefixes of the project file
        have hmismatches := ((h.isReadable hunset).resolve_eq_malformed_iff.mp hsame).1
        rw [h.values_eq_emptied hblank htext hprefixes,
          (mismatches_includePrefix_iff _).mpr prefixesFit_nil] at hmismatches
        exact (mismatches_includePrefix_iff unset.values).mp hmismatches.symm

end Counting

end Sets

/-- In each of the cases the text does not matter to the outcome at all. -/
theorem Immaterial.resolve_eq (hcase : unset.Immaterial text) (h : sources.Sets text unset)
    (hblank : NamesNoPrefix text) : sources.resolve = unset.resolve := by
  by_cases hhidden : text = "" ∨ unset.overrides.prefixes ≠ []
  · exact h.resolve_eq_of_hidden hhidden
  · rw [not_or, not_not] at hhidden
    obtain ⟨htext, hprefixes⟩ := hhidden
    cases hcase with
    | empty hempty => exact absurd hempty htext
    | overridden hgiven => exact absurd hprefixes hgiven
    | repeated hproject =>
        have hfits : PrefixesFit (unset.value? .includePrefix .project) := by
          rw [hproject]
          exact prefixesFit_nil
        rw [h.resolve_eq_emptied hblank htext hprefixes hfits]
        cases hunset : unset.resolve with
        | error failure => rfl
        | ok settings =>
            have hsame := (h.prefixes_eq_nil_iff hprefixes hunset).mpr hproject
            rw [Except.map, withPrefixes_eq_self hsame]
    | unsettled hnone hfits =>
        rw [h.resolve_eq_emptied hblank htext hprefixes hfits]
        cases hunset : unset.resolve with
        | error failure => rfl
        | ok settings => exact absurd hunset (hnone settings)

/-- If the paths are selected as without the text, then in one of the cases. -/
theorem Sets.immaterial_of_selectAlike (h : sources.Sets text unset) (hblank : NamesNoPrefix text)
    (halike : SelectAlike sources.resolve unset.resolve) : unset.Immaterial text := by
  by_cases htext : text = ""
  · exact .empty htext
  · by_cases hprefixes : unset.overrides.prefixes = []
    · have hfits := h.prefixesFit_of_selectAlike hblank htext hprefixes halike
      by_cases hnone : ∀ settings, unset.resolve ≠ .ok settings
      · exact .unsettled hnone hfits
      · push Not at hnone
        obtain ⟨settings, hsettings⟩ := hnone
        have hselects : ∀ path, settings.selection.selects path = false := by
          intro path
          have hpath := halike path
          rw [h.resolve_eq_emptied hblank htext hprefixes hfits, hsettings] at hpath
          have hnothing : (settings.withPrefixes (some (.many []))).selection.selects path =
              false := Selection.forall_selects_eq_false_iff.mpr rfl path
          exact (Except.ok.inj hpath).symm.trans hnothing
        have hempty := Selection.forall_selects_eq_false_iff.mp hselects
        exact .repeated ((h.prefixes_eq_nil_iff hprefixes hsettings).mp hempty)
    · exact .overridden hprefixes

end Sources

/-- **A blank value is as good as none in four cases only.**  The same paths are selected, and the
outcome is the same altogether, if the text is empty, if it is overridden by arguments, if the
project file has an empty list itself, or if there are no settings anyway.  Otherwise a blank text
empties the list of prefixes: no path is selected, and an analysis finds nothing and reports
nothing. -/
theorem blank_immaterial_iff {text : String} {sources unset : Sources}
    (hblank : NamesNoPrefix text) (h : sources.Sets text unset) :
    (SelectAlike sources.resolve unset.resolve ↔ unset.Immaterial text) ∧
      (unset.Immaterial text → sources.resolve = unset.resolve) ∧
      (text ≠ "" → unset.overrides.prefixes = [] →
        (∀ settings, unset.resolve = .ok settings →
          sources.resolve = .ok (settings.withPrefixes (some (.many [])))) ∧
        ∀ settings, sources.resolve = .ok settings →
          (∀ path, settings.selection.selects path = false) ∧
          ∀ document : Document, document.resources settings.selection = .ok {} ∧
            document.dataSources settings.selection = {}) := by
  refine ⟨⟨h.immaterial_of_selectAlike hblank, ?_⟩, fun hcase => hcase.resolve_eq h hblank, ?_⟩
  · intro hcase path
    rw [hcase.resolve_eq h hblank]
  · intro htext hprefixes
    constructor
    · intro settings hsettings
      have hfits := h.prefixesFit_of_resolve hprefixes hsettings
      rw [h.resolve_eq_emptied hblank htext hprefixes hfits, hsettings]
      rfl
    · intro settings hsettings
      have hselects : ∀ path, settings.selection.selects path = false :=
        Selection.forall_selects_eq_false_iff.mpr
          (h.prefixes_eq_of_resolve hblank htext hprefixes hsettings)
      exact ⟨hselects, fun document =>
        ⟨document.resources_eq_nil hselects, document.dataSources_eq_nil hselects⟩⟩

end Settings

/-! ## A sample project file with prefixes -/

namespace Sample

/-- A text that names no prefix. -/
def blankText : String := " ,\t"

/-- A project file that narrows the analysis. -/
def narrowing : String :=
  "\x7b\"include_prefix\": \"/v1/\", \"exclude_paths\": [\"/v1/internal\"]\x7d"

/-- Sources without arguments, with such a project file, and with a text in the variable or none. -/
def lobby (setting : Option String) : Settings.Sources where
  overrides := {}
  surroundings :=
    { (desk narrowing).surroundings with
      environment := (setting.map fun text => (Settings.prefixVariable, text)).toList }
  directory := FilePath.ofText "/work"

/-- The settings that the project file asks for. -/
def narrowed : Settings where
  logLevel := .warning
  outputFormat := .auto
  selection := { prefixes := some (.one "/v1/"), excluded := ["/v1/internal"] }

theorem blankText_namesNoPrefix : Settings.NamesNoPrefix blankText := by
  intro c hc
  have hcharacters : blankText.toList = [' ', ',', '\t'] := rfl
  rw [hcharacters] at hc
  simp only [List.mem_cons, List.not_mem_nil, or_false] at hc
  rcases hc with rfl | rfl | rfl
  · exact .inr (by decide)
  · exact .inl rfl
  · exact .inr (by decide)

theorem lobby_sets (text : String) : (lobby (some text)).Sets text (lobby none) where
  overrides := rfl
  directory := rfl
  files := rfl
  given := by
    unfold lobby Table.get?
    exact List.lookup_cons_self
  missing := rfl
  others := by
    intro name hname
    unfold lobby Table.get?
    rw [Option.map_some, Option.toList_some, List.lookup_cons, beq_eq_false_iff_ne.mpr hname]
    rfl

theorem lobby_resolve : (lobby none).resolve = .ok narrowed := by
  have hresolved : (lobby none).resolve.toOption.map id = some narrowed := by decide +kernel
  obtain ⟨settings, hsettings, rfl⟩ := exists_of_toOption_map_eq_some hresolved
  exact hsettings

/-- A blank text empties the list of prefixes, though the project file has one. -/
theorem lobby_not_selectAlike : Settings.NamesNoPrefix blankText ∧
    (lobby (some blankText)).Sets blankText (lobby none) ∧
    (lobby none).resolve = .ok narrowed ∧
    (lobby (some blankText)).resolve = .ok (narrowed.withPrefixes (some (.many []))) ∧
    ¬ Settings.SelectAlike (lobby (some blankText)).resolve (lobby none).resolve := by
  have htext : blankText ≠ "" := by decide
  obtain ⟨hiff, -, hcounts⟩ :=
    Settings.blank_immaterial_iff blankText_namesNoPrefix (lobby_sets blankText)
  obtain ⟨hemptied, -⟩ := hcounts htext rfl
  refine ⟨blankText_namesNoPrefix, lobby_sets blankText, lobby_resolve,
    hemptied narrowed lobby_resolve, fun halike => ?_⟩
  cases hiff.mp halike with
  | empty hempty => exact htext hempty
  | overridden hprefixes => exact hprefixes rfl
  | repeated hproject =>
      have hsame := ((lobby_sets blankText).prefixes_eq_nil_iff rfl lobby_resolve).mpr hproject
      cases hsame
  | unsettled hnone => exact hnone narrowed lobby_resolve

/-- **A blank value can deselect everything.**  With a text of a comma and blank characters in the
variable, a path is not selected that is selected while the variable is not set. -/
theorem exists_deselected : ¬ ∀ (text : String) (sources unset : Settings.Sources)
    (settings settings' : Settings), Settings.NamesNoPrefix text → sources.Sets text unset →
      sources.resolve = .ok settings → unset.resolve = .ok settings' →
        ∀ path, settings.selection.selects path = settings'.selection.selects path := by
  intro h
  have hfits := (lobby_sets blankText).prefixesFit_of_resolve rfl lobby_resolve
  have hemptied := (lobby_sets blankText).resolve_eq_emptied blankText_namesNoPrefix (by decide)
    rfl hfits
  rw [lobby_resolve] at hemptied
  have hsame := h blankText _ _ _ _ blankText_namesNoPrefix (lobby_sets blankText) hemptied
    lobby_resolve "/v1/cdns"
  have hselected : narrowed.selection.selects "/v1/cdns" = true := by decide
  rw [hselected] at hsame
  cases hsame

end Sample

end ResourceGraph
