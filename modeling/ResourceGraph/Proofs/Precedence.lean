import ResourceGraph.Proofs.JsonReading
import ResourceGraph.Settings.Resolve

/-!
# Precedence of settings

A field of the settings is provided by the first source that has a value for it: an argument, a
variable of the environment, the project file, and last the defaults.  The values of the providers
determine the outcome (`Settings.Sources.values_eq`), and
each field of the settings comes from the value of its own provider
(`Settings.ofValues_eq_ok_iff`).  So a value that is overridden decides nothing and spoils nothing.

Whole collections of sources are compared.  The second one arises from the first by replacing values
that are overridden if both have the same values up to the provider of every field
(`Settings.Sources.Agree`).

The project file must be one that can be read, which is more than being JSON: an integer with too
many digits is refused wherever it stands, so it ends the resolution even as the value of a field
that an argument provides (`Sample.exists_spoilt_by_overridden`).
-/

namespace ResourceGraph

namespace Settings

/-! ## Fields and their providers -/

/-- The fields that several sources may have a value for. -/
inductive Field where
  | logLevel
  | outputFormat
  | includePrefix
deriving DecidableEq, Repr

/-- What provides a field. -/
inductive Provider where
  | argument
  | environment
  | project
  | default
deriving DecidableEq, Repr

/-- The place of a provider in the order of precedence. -/
def Provider.rank : Provider → ℕ
  | argument => 0
  | environment => 1
  | project => 2
  | default => 3

/-- Everything that settings are resolved from. -/
structure Sources where
  overrides : Overrides
  surroundings : Surroundings
  /-- The directory of the project file. -/
  directory : FilePath

namespace Sources

/-- The outcome of the resolution. -/
def resolve (sources : Sources) : Except SettingsFailure Settings :=
  Settings.resolve sources.surroundings sources.directory sources.overrides

/-- There is no project file, or one that is read as a mapping. -/
def IsReadable (sources : Sources) : Prop :=
  ∃ project, readProject sources.surroundings sources.directory = .ok project

/-- Reading the project file ends at an integer with too many digits. -/
def IsOverlong (sources : Sources) : Prop :=
  ∃ error, readProject sources.surroundings sources.directory = .error (.accident (.number error))

/-- The entries of the project file, none if there is no project file to be read. -/
def project (sources : Sources) : List (Scalar × Value) :=
  match readProject sources.surroundings sources.directory with
  | .ok project => project.getD []
  | .error _ => []

/-- The value that a provider has for a field.  An empty list of prefixes is none, and neither is an
empty variable. -/
def value? (sources : Sources) : Field → Provider → Option Value
  | .logLevel, .argument => sources.overrides.logLevel.map Value.text
  | .outputFormat, .argument => sources.overrides.outputFormat.map Value.text
  | .includePrefix, .argument =>
    if sources.overrides.prefixes.isEmpty then none else some (textList sources.overrides.prefixes)
  | .logLevel, .environment => (sources.surroundings.valueOf? logLevelVariable).map Value.text
  | .outputFormat, .environment => (sources.surroundings.valueOf? formatVariable).map Value.text
  | .includePrefix, .environment =>
    (sources.surroundings.valueOf? prefixVariable).map fun text => textList (prefixesOf text)
  | .logLevel, .project => Entries.get? sources.project "log_level"
  | .outputFormat, .project => Entries.get? sources.project "output_format"
  | .includePrefix, .project => Entries.get? sources.project "include_prefix"
  | _, .default => none

/-- The provider of a field: the first that has a value for it. -/
def provider (sources : Sources) (field : Field) : Provider :=
  if (sources.value? field .argument).isSome then .argument
  else if (sources.value? field .environment).isSome then .environment
  else if (sources.value? field .project).isSome then .project
  else .default

/-- The value of the provider of a field, none if that is the default. -/
def provided? (sources : Sources) (field : Field) : Option Value :=
  sources.value? field (sources.provider field)

/-- As far as a field goes, the second collection arises from the first by replacing values that are
overridden: the provider has the same value in both, and what comes before it has none in either. -/
def Agree (first second : Sources) (field : Field) : Prop :=
  ∀ provider : Provider, provider.rank ≤ (first.provider field).rank →
    second.value? field provider = first.value? field provider

/-- What the project file says about paths to leave out; nothing else says anything about them. -/
def excluded? (sources : Sources) : Option Value := Entries.get? sources.project "exclude_paths"

/-- The values that are provided for all the fields. -/
def values (sources : Sources) : PreferenceValues :=
  provided sources.surroundings sources.overrides sources.project

end Sources

/-- Two settings are the same in a field. -/
def SameIn (first second : Settings) : Field → Prop
  | .logLevel => first.logLevel = second.logLevel
  | .outputFormat => first.outputFormat = second.outputFormat
  | .includePrefix => first.selection.prefixes = second.selection.prefixes

/-! ## The values that are provided -/

namespace Sources

variable {first second sources : Sources} {field : Field}

@[simp] theorem value?_default (sources : Sources) (field : Field) :
    sources.value? field .default = none := by
  cases field <;> rfl

/-- The ways in which a field can be provided. -/
theorem provider_cases (sources : Sources) (field : Field) :
    (sources.provider field = .argument ∧ (sources.value? field .argument).isSome) ∨
      (sources.provider field = .environment ∧ sources.value? field .argument = none ∧
        (sources.value? field .environment).isSome) ∨
      (sources.provider field = .project ∧ sources.value? field .argument = none ∧
        sources.value? field .environment = none ∧ (sources.value? field .project).isSome) ∨
      (sources.provider field = .default ∧ sources.value? field .argument = none ∧
        sources.value? field .environment = none ∧ sources.value? field .project = none) := by
  unfold provider
  cases sources.value? field .argument with
  | some value => simp
  | none =>
      cases sources.value? field .environment with
      | some value => simp
      | none => cases sources.value? field .project <;> simp

/-- The value of the provider is the first that there is. -/
theorem provided?_eq (sources : Sources) (field : Field) :
    sources.provided? field = (sources.value? field .argument <|>
      sources.value? field .environment <|> sources.value? field .project) := by
  unfold provided?
  rcases sources.provider_cases field with ⟨hprovider, hvalue⟩ | ⟨hprovider, hargument, hvalue⟩ |
    ⟨hprovider, hargument, henvironment, -⟩ | ⟨hprovider, hargument, henvironment, hproject⟩
  · obtain ⟨value, hvalue⟩ := Option.isSome_iff_exists.mp hvalue
    rw [hprovider, hvalue]
    rfl
  · obtain ⟨value, hvalue⟩ := Option.isSome_iff_exists.mp hvalue
    rw [hprovider, hargument, hvalue]
    rfl
  · rw [hprovider, hargument, henvironment]
    rfl
  · rw [hprovider, hargument, henvironment, hproject]
    exact value?_default sources field

/-- The values for the resolution are those of the providers. -/
theorem values_eq (sources : Sources) :
    sources.values =
      { logLevel := sources.provided? .logLevel
        outputFormat := sources.provided? .outputFormat
        includePrefix := sources.provided? .includePrefix
        excludePaths := sources.excluded? } := by
  simp only [provided?_eq]
  rfl

/-- Overridden values leave the provider and its value as they are. -/
theorem Agree.provided?_eq (h : first.Agree second field) :
    second.provided? field = first.provided? field := by
  have hargument := h .argument (Nat.zero_le _)
  rw [Sources.provided?_eq, Sources.provided?_eq, hargument]
  rcases first.provider_cases field with ⟨-, hvalue⟩ | ⟨hprovider, -, hvalue⟩ |
    ⟨hprovider, -, henvironment, hvalue⟩ | ⟨hprovider, -, henvironment, hproject⟩
  -- an argument hides what follows, so nothing has to be known about it
  · obtain ⟨value, hvalue⟩ := Option.isSome_iff_exists.mp hvalue
    rw [hvalue]
    rfl
  · obtain ⟨value, hvalue⟩ := Option.isSome_iff_exists.mp hvalue
    have hsame := h .environment (by rw [hprovider])
    rw [hsame, hvalue]
    rfl
  · have hsame := h .environment (by rw [hprovider]; decide)
    have hproject := h .project (by rw [hprovider])
    rw [hsame, hproject]
  · have hsame := h .environment (by rw [hprovider]; decide)
    have hproject := h .project (by rw [hprovider]; decide)
    rw [hsame, hproject]

/-! ## The outcome -/

/-- With a project file that can be read the outcome is that of the values that are provided. -/
theorem IsReadable.resolve_eq (h : sources.IsReadable) :
    sources.resolve = (ofValues sources.values).mapError .fault := by
  obtain ⟨found, hfound⟩ := h
  have hproject : sources.project = found.getD [] := by
    unfold project
    rw [hfound]
  unfold resolve Settings.resolve values
  rw [hfound, hproject]
  rfl

/-- With a project file that can be read nothing but a fault of the settings is in the way. -/
theorem IsReadable.resolve_ne_accident (h : sources.IsReadable) (accident : Accident) :
    sources.resolve ≠ .error (.accident accident) := by
  rw [h.resolve_eq]
  intro haccident
  obtain ⟨fault, -, hfault⟩ := mapError_eq_error.mp haccident
  cases hfault

/-- Settings are only resolved if the project file can be read. -/
theorem isReadable_of_resolve_eq_ok {settings : Settings} (h : sources.resolve = .ok settings) :
    sources.IsReadable := by
  obtain ⟨project, hproject, -⟩ := bind_eq_ok.mp h
  exact ⟨project, hproject⟩

/-- An integer with too many digits in the project file ends the resolution. -/
theorem IsOverlong.exists_resolve_eq (h : sources.IsOverlong) :
    ∃ error, sources.resolve = .error (.accident (.number error)) := by
  obtain ⟨error, herror⟩ := h
  exact ⟨error, bind_eq_error.mpr (.inl herror)⟩

/-- Nothing is said by a project file that cannot be read. -/
theorem IsOverlong.excluded?_eq (h : sources.IsOverlong) : sources.excluded? = none := by
  obtain ⟨error, herror⟩ := h
  unfold excluded? project
  rw [herror]
  rfl

/-- Overridden values do not matter to the outcome. -/
theorem resolve_eq_of_agree (hfirst : first.IsReadable) (hsecond : second.IsReadable)
    (hagree : ∀ field, first.Agree second field) (hexcluded : second.excluded? = first.excluded?) :
    second.resolve = first.resolve := by
  have hvalues : second.values = first.values := by
    rw [values_eq, values_eq, (hagree .logLevel).provided?_eq, (hagree .outputFormat).provided?_eq,
      (hagree .includePrefix).provided?_eq, hexcluded]
  rw [hfirst.resolve_eq, hsecond.resolve_eq, hvalues]

end Sources

/-! ## Field by field -/

theorem preferences_eq_ok_iff {values : PreferenceValues} {preferences : Preferences} :
    values.preferences = .ok preferences ↔
      values.mismatches = [] ∧ preferences =
        { logLevel := (values.logLevel.bind Value.asText?).getD "WARNING"
          outputFormat := (values.outputFormat.bind Value.asText?).getD "auto"
          selection :=
            { prefixes := (values.includePrefix.bind PreferenceValues.prefixes?).getD none
              excluded := (values.excludePaths.bind PreferenceValues.texts?).getD [] } } := by
  unfold PreferenceValues.preferences
  cases hmismatches : values.mismatches with
  | nil => simp [eq_comm]
  | cons mismatch rest => simp

theorem ofPreferences_eq_ok_iff {preferences : Preferences} {settings : Settings} :
    ofPreferences preferences = .ok settings ↔
      LogLevel.ofName? preferences.logLevel = some settings.logLevel ∧
        FormatChoice.ofName? preferences.outputFormat = some settings.outputFormat ∧
        preferences.selection = settings.selection := by
  obtain ⟨logLevel, outputFormat, selection⟩ := settings
  unfold ofPreferences
  cases LogLevel.ofName? preferences.logLevel with
  | none => simp
  | some level =>
      cases FormatChoice.ofName? preferences.outputFormat with
      | none => simp
      | some choice => simp

/-- **Each field of the settings comes from the value that is provided for it.**  There are settings
if and only if all the values are of the right kind and the level and the format have known
names. -/
theorem ofValues_eq_ok_iff {values : PreferenceValues} {settings : Settings} :
    ofValues values = .ok settings ↔
      values.mismatches = [] ∧
        LogLevel.ofName? ((values.logLevel.bind Value.asText?).getD "WARNING") =
          some settings.logLevel ∧
        FormatChoice.ofName? ((values.outputFormat.bind Value.asText?).getD "auto") =
          some settings.outputFormat ∧
        settings.selection.prefixes =
          (values.includePrefix.bind PreferenceValues.prefixes?).getD none ∧
        settings.selection.excluded =
          (values.excludePaths.bind PreferenceValues.texts?).getD [] := by
  obtain ⟨logLevel, outputFormat, prefixes, excluded⟩ := settings
  have hstages : ofValues values = .ok ⟨logLevel, outputFormat, prefixes, excluded⟩ ↔
      ∃ preferences, values.preferences = .ok preferences ∧
        ofPreferences preferences = .ok ⟨logLevel, outputFormat, prefixes, excluded⟩ := by
    unfold ofValues
    simp only [bind_eq_ok, mapError_eq_ok]
  rw [hstages]
  simp only [preferences_eq_ok_iff, ofPreferences_eq_ok_iff]
  constructor
  · rintro ⟨_, ⟨hmismatches, rfl⟩, hlevel, hformat, hselection⟩
    cases hselection
    exact ⟨hmismatches, hlevel, hformat, rfl, rfl⟩
  · rintro ⟨hmismatches, hlevel, hformat, rfl, rfl⟩
    exact ⟨_, ⟨hmismatches, rfl⟩, hlevel, hformat, rfl⟩

/-- There are settings if and only if the project file can be read and the values that are provided
give them. -/
theorem Sources.resolve_eq_ok_iff {sources : Sources} {settings : Settings} :
    sources.resolve = .ok settings ↔
      sources.IsReadable ∧ ofValues sources.values = .ok settings := by
  constructor
  · intro h
    have hreadable := isReadable_of_resolve_eq_ok h
    rw [hreadable.resolve_eq, mapError_eq_ok] at h
    exact ⟨hreadable, h⟩
  · rintro ⟨hreadable, h⟩
    rw [hreadable.resolve_eq, mapError_eq_ok]
    exact h

/-- What is provided for a field decides what the settings have in it. -/
theorem sameIn_of_values_eq {values values' : PreferenceValues} {settings settings' : Settings}
    (h : ofValues values = .ok settings) (h' : ofValues values' = .ok settings') :
    (values'.logLevel = values.logLevel → settings.SameIn settings' .logLevel) ∧
      (values'.outputFormat = values.outputFormat → settings.SameIn settings' .outputFormat) ∧
      (values'.includePrefix = values.includePrefix → settings.SameIn settings' .includePrefix) ∧
      (values'.excludePaths = values.excludePaths →
        settings.selection.excluded = settings'.selection.excluded) := by
  obtain ⟨-, hlevel, hformat, hprefixes, hexcluded⟩ := ofValues_eq_ok_iff.mp h
  obtain ⟨-, hlevel', hformat', hprefixes', hexcluded'⟩ := ofValues_eq_ok_iff.mp h'
  refine ⟨fun hsame => ?_, fun hsame => ?_, fun hsame => ?_, fun hsame => ?_⟩
  · rw [hsame, hlevel] at hlevel'
    exact Option.some.inj hlevel'
  · rw [hsame, hformat] at hformat'
    exact Option.some.inj hformat'
  · rw [hsame, ← hprefixes] at hprefixes'
    exact hprefixes'.symm
  · rw [hsame, ← hexcluded] at hexcluded'
    exact hexcluded'.symm

/-- **Precedence is strict, and it goes field by field.**  Replacing overridden values leaves the
outcome as it is, exactly if the project file can still be read; and whatever is done to one field,
the others stay as they are. -/
theorem overridden_immaterial_iff {first second : Sources} (hfirst : first.IsReadable)
    (hsecond : second.IsReadable ∨ second.IsOverlong)
    (hexcluded : second.IsReadable → second.excluded? = first.excluded?) :
    ((second.IsReadable → ∀ field, first.Agree second field) →
      (second.resolve = first.resolve ↔ second.IsReadable)) ∧
    (∀ field settings settings', (∀ other, other ≠ field → first.Agree second other) →
      first.resolve = .ok settings → second.resolve = .ok settings' →
        settings.selection.excluded = settings'.selection.excluded ∧
          ∀ other, other ≠ field → settings.SameIn settings' other) := by
  constructor
  · intro hagree
    constructor
    · intro hsame
      refine hsecond.resolve_right fun hoverlong => ?_
      obtain ⟨error, herror⟩ := hoverlong.exists_resolve_eq
      exact hfirst.resolve_ne_accident _ (hsame.symm.trans herror)
    · intro hreadable
      exact Sources.resolve_eq_of_agree hfirst hreadable (hagree hreadable) (hexcluded hreadable)
  · intro field settings settings' hagree hsettings hsettings'
    obtain ⟨-, hvalues⟩ := Sources.resolve_eq_ok_iff.mp hsettings
    obtain ⟨hreadable, hvalues'⟩ := Sources.resolve_eq_ok_iff.mp hsettings'
    rw [Sources.values_eq] at hvalues hvalues'
    obtain ⟨hlevel, hformat, hprefixes, hleftOut⟩ := sameIn_of_values_eq hvalues hvalues'
    refine ⟨hleftOut (hexcluded hreadable), fun other hother => ?_⟩
    have hprovided := (hagree other hother).provided?_eq
    cases other with
    | logLevel => exact hlevel hprovided
    | outputFormat => exact hformat hprovided
    | includePrefix => exact hprefixes hprovided

end Settings

/-! ## Files with an integer too long to read -/

theorem Text.unifyLineEnds_eq_self {characters : List Char} (h : '\r' ∉ characters) :
    Text.unifyLineEnds characters = characters := by
  induction characters with
  | nil => rfl
  | cons c rest ih =>
      rw [List.mem_cons, not_or] at h
      rw [Text.unifyLineEnds, ih h.2, if_neg (Ne.symm h.1)]
      intro tail hc
      exact absurd hc.symm h.1

/-- A file without carriage returns is read as the text that was written to it. -/
theorem Content.ofFile_toUTF8 {text : String} (h : '\r' ∉ text.toList) :
    Content.ofFile text.toUTF8 = .ok text := by
  have hread : String.fromUTF8? text.toUTF8 = some text := dif_pos text.isValidUTF8
  unfold Content.ofFile
  rw [hread]
  simp only [Text.unifyLineEnds_eq_self h, String.ofList_toList]

/-- A one with many digits after it is refused. -/
theorem Json.readMagnitude_eq_error {digits : List Char} (start : List Char)
    (hdigits : ∀ c ∈ digits, c.isDigit = true) (hlong : Number.integerDigitLimit ≤ digits.length) :
    Json.readMagnitude start false ('1' :: (digits ++ ['\x7d'])) =
      .error ⟨.longInteger (digits.length + 1), start⟩ := by
  have hspan : ('1' :: (digits ++ ['\x7d'])).span Char.isDigit = ('1' :: digits, ['\x7d']) := by
    rw [List.span_eq_takeWhile_dropWhile, List.takeWhile_cons_of_pos (by rfl),
      List.dropWhile_cons_of_pos (by rfl), List.takeWhile_append_of_pos hdigits,
      List.dropWhile_append_of_pos hdigits, List.takeWhile_cons_of_neg (by decide),
      List.dropWhile_cons_of_neg (by decide), List.append_nil]
  have hmany : ('1' :: digits).length > Number.integerDigitLimit := Nat.lt_succ_of_le hlong
  unfold Json.readMagnitude
  simp only [hspan]
  exact if_pos hmany

/-- A mapping fails to be read where the value of its first member does. -/
theorem Json.readText_eq_error_of_first {name : String} {characters : List Char}
    (hsolid : IsSolid characters) {failure : Failure}
    (h : ∀ steps, readValue (steps + 1) characters = .error failure) :
    readText ('\x7b' :: ((printText name).toList ++ ':' :: characters)) = .error failure := by
  rw [toList_printText]
  have hmembers (steps : ℕ) : readMembers (steps + 2) []
      ('"' :: (name.toList.flatMap escapeCharacter ++ '"' :: ':' :: characters)) =
        .error failure := by
    rw [readMembers, readString_printText]
    simp only [bind, Except.bind, skipSpace_cons _ (c := ':') rfl, hsolid.skipSpace_eq, h]
  -- what the name is does not matter any more
  generalize name.toList.flatMap escapeCharacter ++ '"' :: ':' :: characters = members at hmembers
  have hobject (steps : ℕ) : readValue (steps + 3) ('\x7b' :: '"' :: members) =
      .error failure := by
    rw [readValue, skipSpace_cons _ rfl]
    exact hmembers steps
  obtain ⟨steps, hsteps⟩ : ∃ steps, 2 * ('\x7b' :: '"' :: members).length + 2 = steps + 3 :=
    ⟨2 * members.length + 3, by rw [List.length_cons, List.length_cons]; omega⟩
  have hmark : ¬ ('\x7b' :: '"' :: members).head? = some '\uFEFF' := by
    rw [List.head?_cons, Option.some_inj]
    decide
  rw [readText, if_neg hmark, skipSpace_cons _ rfl, hsteps]
  simp only [hobject]
  rfl

/-! ## A sample project file -/

namespace Sample

/-- A project file with some text, while arguments provide every field. -/
def desk (content : String) : Settings.Sources where
  overrides := { logLevel := some "DEBUG", outputFormat := some "json", prefixes := ["/v1"] }
  surroundings :=
    { workingDirectory := FilePath.ofText "/work"
      environment := []
      input := ""
      files := fun _ => .file content.toUTF8
      fetch := fun _ => .failed "unreachable"
      system := "Linux"
      interactive := false
      timestamp := "20240101-000000" }
  directory := FilePath.ofText "/work"

/-- A project file that settles every field. -/
def tidy : String :=
  "\x7b\"log_level\": \"info\", \"output_format\": \"plain\", \"include_prefix\": \"/v2\"\x7d"

/-- A project file with a value of the wrong kind for every field. -/
def untidy : String := "\x7b\"log_level\": 5, \"output_format\": [], \"include_prefix\": 0\x7d"

theorem desk_agree (content content' : String) (field : Settings.Field) :
    (desk content).Agree (desk content') field := by
  intro provider hrank
  have hprovider : (desk content).provider field = .argument := by cases field <;> rfl
  rw [hprovider] at hrank
  cases provider with
  | argument => cases field <;> rfl
  | environment => cases hrank
  | project => cases hrank
  | default => cases hrank

/-- A project file that is read, and that leaves out no paths. -/
theorem desk_readable {content : String}
    (h : (Settings.readProject (desk content).surroundings (desk content).directory).toOption.map
      (fun project => (Entries.get? (project.getD []) "exclude_paths").isNone) = some true) :
    (desk content).IsReadable ∧ (desk content).excluded? = none := by
  obtain ⟨project, hproject, hnone⟩ := exists_of_toOption_map_eq_some h
  refine ⟨⟨project, hproject⟩, ?_⟩
  unfold Settings.Sources.excluded? Settings.Sources.project
  rw [hproject]
  exact Option.isNone_iff_eq_none.mp hnone

theorem tidy_readable : (desk tidy).IsReadable ∧ (desk tidy).excluded? = none :=
  desk_readable (by decide +kernel)

theorem untidy_readable : (desk untidy).IsReadable ∧ (desk untidy).excluded? = none :=
  desk_readable (by decide +kernel)

/-- Values of the wrong kind spoil nothing where arguments provide all fields. -/
theorem untidy_immaterial :
    (desk tidy).IsReadable ∧ (desk untidy).IsReadable ∧
      (desk untidy).excluded? = (desk tidy).excluded? ∧
      (∀ field, (desk tidy).Agree (desk untidy) field) ∧
      (desk untidy).resolve = (desk tidy).resolve := by
  obtain ⟨htidy, hexcluded⟩ := tidy_readable
  obtain ⟨huntidy, hexcluded'⟩ := untidy_readable
  have hsame : (desk untidy).excluded? = (desk tidy).excluded? := by rw [hexcluded, hexcluded']
  obtain ⟨hiff, -⟩ := Settings.overridden_immaterial_iff htidy (.inl huntidy) fun _ => hsame
  exact ⟨htidy, huntidy, hsame, desk_agree tidy untidy,
    (hiff fun _ => desk_agree tidy untidy).mpr huntidy⟩

/-- A project file with a power of ten as the level. -/
def powerLevel (zeros : ℕ) : String :=
  "\x7b" ++ Json.printText "log_level" ++ ":1" ++ Number.zeros zeros ++ "\x7d"

theorem toList_powerLevel (zeros : ℕ) : (powerLevel zeros).toList =
    '\x7b' :: ((Json.printText "log_level").toList ++
      ':' :: '1' :: (List.replicate zeros '0' ++ ['\x7d'])) := by
  simp only [powerLevel, String.toList_append, List.append_assoc, Number.zeros,
    String.toList_ofList]
  rfl

theorem readText_powerLevel {zeros : ℕ} (h : Number.integerDigitLimit ≤ zeros) :
    ∃ rest, Json.readText (powerLevel zeros).toList = .error ⟨.longInteger (zeros + 1), rest⟩ := by
  have hzeros : ∀ c ∈ List.replicate zeros '0', c.isDigit = true := by
    intro c hc
    rw [List.eq_of_mem_replicate hc]
    rfl
  have hlength : (List.replicate zeros '0').length = zeros := List.length_replicate
  have hnumber := Json.readMagnitude_eq_error
    ('1' :: (List.replicate zeros '0' ++ ['\x7d'])) hzeros (by rwa [hlength])
  rw [hlength] at hnumber
  rw [toList_powerLevel]
  generalize List.replicate zeros '0' ++ ['\x7d'] = digits at hnumber
  have hscalar : Json.readScalar ('1' :: digits) =
      .error ⟨.longInteger (zeros + 1), '1' :: digits⟩ := hnumber
  have hsolid : Json.IsSolid ('1' :: digits) := ⟨'1', digits, rfl, by decide⟩
  refine ⟨'1' :: digits, Json.readText_eq_error_of_first hsolid fun steps => ?_⟩
  unfold Json.readValue
  simp only [hscalar]
  rfl

/-- A project file with an integer that has too many digits is not read. -/
theorem powerLevel_isOverlong {zeros : ℕ} (h : Number.integerDigitLimit ≤ zeros) :
    (desk (powerLevel zeros)).IsOverlong := by
  obtain ⟨rest, hread⟩ := readText_powerLevel h
  have hfile : Content.ofFile (powerLevel zeros).toUTF8 = .ok (powerLevel zeros) := by
    refine Content.ofFile_toUTF8 ?_
    have hname : '\r' ∉ (Json.printText "log_level").toList := by decide +kernel
    rw [toList_powerLevel]
    generalize (Json.printText "log_level").toList = name at hname
    simp [hname]
  refine ⟨Json.Error.ofFailure (powerLevel zeros).toList ⟨.longInteger (zeros + 1), rest⟩, ?_⟩
  have hjson : Json.read (powerLevel zeros) =
      .error (Json.Error.ofFailure (powerLevel zeros).toList ⟨.longInteger (zeros + 1), rest⟩) := by
    rw [Json.read, hread]
  unfold Settings.readProject
  simp only [desk, hfile, hjson]
  rfl

/-- **An overridden value can spoil the settings.**  The level that the project file states is
overridden by an argument, but it has too many digits to be read. -/
theorem exists_spoilt_by_overridden : ¬ ∀ first second : Settings.Sources,
    first.IsReadable → second.IsReadable ∨ second.IsOverlong →
      second.excluded? = first.excluded? → (∀ field, first.Agree second field) →
        second.resolve = first.resolve := by
  intro h
  obtain ⟨htidy, hexcluded⟩ := tidy_readable
  have hlong : (desk (powerLevel Number.integerDigitLimit)).IsOverlong :=
    powerLevel_isOverlong (le_refl _)
  have hnone : (desk (powerLevel Number.integerDigitLimit)).excluded? =
      (desk tidy).excluded? := by
    rw [hlong.excluded?_eq, hexcluded]
  have hsame := h (desk tidy) _ htidy (.inr hlong) hnone (desk_agree _ _)
  -- the settings are resolved in the one case, and in the other there is an accident
  obtain ⟨error, herror⟩ := hlong.exists_resolve_eq
  exact htidy.resolve_ne_accident _ (hsame.symm.trans herror)

end Sample

end ResourceGraph
