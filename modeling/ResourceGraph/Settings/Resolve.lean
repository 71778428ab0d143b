import ResourceGraph.Loading.Content
import ResourceGraph.Log.Level
import ResourceGraph.Output.Format
import ResourceGraph.Settings.Preferences
import ResourceGraph.Surroundings

/-!
# Settings of a run

Each preference is taken from the first that provides it: the command line, the environment, the
project file, and last the defaults.  The preferences of different fields do not affect one another.
-/

namespace ResourceGraph

/-- Preferences given on the command line. -/
structure Overrides where
  logLevel : Option String := none
  outputFormat : Option String := none
  prefixes : List String := []
deriving DecidableEq, Repr

/-- What a run goes by. -/
structure Settings where
  logLevel : LogLevel
  outputFormat : FormatChoice
  selection : Selection
deriving DecidableEq, Repr

/-- Why there are no settings. -/
inductive SettingsFault where
  | invalidProject (path : String) (error : Json.Error)
  | projectNotMapping (path : String)
  | malformed (mismatches : List Mismatch)
  | unknownLevel (name : String)
  | unknownFormat (name : String)
deriving DecidableEq, Repr

/-- Why the settings cannot be resolved. -/
inductive SettingsFailure where
  | fault (fault : SettingsFault)
  | accident (accident : Accident)
deriving DecidableEq, Repr

/-- The words that explain a fault. -/
def SettingsFault.message : SettingsFault → String
  | invalidProject path error => "Invalid project config at " ++ path ++ ": " ++ error.message
  | projectNotMapping path => "Invalid project config at " ++ path ++ ": expected a JSON object"
  | malformed mismatches => "Invalid configuration: " ++ Mismatch.summary mismatches
  | unknownLevel name =>
    "Unknown log level '" ++ name ++ "', expected one of " ++
      ", ".intercalate (LogLevel.all.map LogLevel.name)
  | unknownFormat name =>
    "Unknown output format '" ++ name ++ "', expected one of " ++
      ", ".intercalate (FormatChoice.all.map FormatChoice.name)

namespace Settings

/-! ## The project file -/

/-- The name of the project file. -/
def projectFileName : String := "specgraph.json"

/-- The entries of the project file in a directory, none if there is no such file. -/
def readProject (surroundings : Surroundings) (directory : FilePath) :
    Except SettingsFailure (Option (List (Scalar × Value))) :=
  let path := directory.entry projectFileName
  match surroundings.files path with
  | .missing => .ok none
  | .nameTooLong => .error (.accident .nameTooLong)
  | .file bytes =>
    match Content.ofFile bytes with
    | .error accident => .error (.accident accident)
    | .ok text =>
      match Json.read text with
      | .ok (.map entries) => .ok (some entries)
      | .ok _ => .error (.fault (.projectNotMapping path.text))
      | .error error =>
        if error.isSyntactic then .error (.fault (.invalidProject path.text error))
        else .error (.accident (.number error))

/-! ## The environment -/

/-- The environment variable with the log level. -/
def logLevelVariable : String := "SPECGRAPH_LOG_LEVEL"

/-- The environment variable with the output format. -/
def formatVariable : String := "SPECGRAPH_FORMAT"

/-- The environment variable with the prefixes, separated by commas. -/
def prefixVariable : String := "SPECGRAPH_INCLUDE_PREFIX"

/-- The prefixes that a text lists between commas, blank ones left out. -/
def prefixesOf (text : String) : List String :=
  ((text.toList.splitOn ',').map fun token => Text.trim (String.ofList token)).filter fun token =>
    !token.isEmpty

/-! ## Precedence -/

/-- A list of texts as a value. -/
def textList (texts : List String) : Value := .list (texts.map Value.text)

/-- The values that are provided for the fields, the first provider of each field deciding. -/
def provided (surroundings : Surroundings) (overrides : Overrides)
    (project : List (Scalar × Value)) : PreferenceValues :=
  let ofProject := PreferenceValues.ofEntries project
  let valueOf? := surroundings.valueOf?
  { logLevel := overrides.logLevel.map Value.text <|>
      (valueOf? logLevelVariable).map Value.text <|> ofProject.logLevel
    outputFormat := overrides.outputFormat.map Value.text <|>
      (valueOf? formatVariable).map Value.text <|> ofProject.outputFormat
    includePrefix :=
      (if overrides.prefixes.isEmpty then none else some (textList overrides.prefixes)) <|>
        (valueOf? prefixVariable).map (fun text => textList (prefixesOf text)) <|>
          ofProject.includePrefix
    excludePaths := ofProject.excludePaths }

/-- The settings that preferences name. -/
def ofPreferences (preferences : Preferences) : Except SettingsFault Settings :=
  match LogLevel.ofName? preferences.logLevel, FormatChoice.ofName? preferences.outputFormat with
  | none, _ => .error (.unknownLevel preferences.logLevel)
  | some _, none => .error (.unknownFormat preferences.outputFormat)
  | some logLevel, some outputFormat =>
    .ok { logLevel, outputFormat, selection := preferences.selection }

/-- The settings that values give. -/
def ofValues (values : PreferenceValues) : Except SettingsFault Settings := do
  ofPreferences (← values.preferences.mapError .malformed)

/-- The settings of a run whose project file lies in a directory. -/
def resolve (surroundings : Surroundings) (directory : FilePath) (overrides : Overrides) :
    Except SettingsFailure Settings := do
  let project ← readProject surroundings directory
  (ofValues (provided surroundings overrides (project.getD []))).mapError .fault

end Settings

end ResourceGraph
