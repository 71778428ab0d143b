import ResourceGraph.Selection
import ResourceGraph.Value.Mismatch

/-!
# Preferences

What a run may be told: how much to log, how to print, and which paths to analyse.  Every field is
optional.
-/

namespace ResourceGraph

/-- The preferences for a run. -/
structure Preferences where
  logLevel : String := "WARNING"
  outputFormat : String := "auto"
  selection : Selection := {}
deriving DecidableEq, Repr

/-- The values given for the fields of the preferences. -/
structure PreferenceValues where
  logLevel : Option Value := none
  outputFormat : Option Value := none
  includePrefix : Option Value := none
  excludePaths : Option Value := none

namespace PreferenceValues

/-- The values that the entries of a mapping give; other entries are passed over. -/
def ofEntries (entries : List (Scalar × Value)) : PreferenceValues :=
  { logLevel := Entries.get? entries "log_level"
    outputFormat := Entries.get? entries "output_format"
    includePrefix := Entries.get? entries "include_prefix"
    excludePaths := Entries.get? entries "exclude_paths" }

/-- The texts of a list of texts. -/
def texts? : Value → Option (List String)
  | .list items => items.mapM Value.asText?
  | _ => none

/-- The prefixes that a value gives: none, one text or several. -/
def prefixes? : Value → Option (Option PathPrefixes)
  | .null => some none
  | .text value => some (some (.one value))
  | other => (texts? other).map fun texts => some (.many texts)

/-- The mismatches of a value that gives prefixes, as a list and as a text. -/
def prefixMismatches (value : Value) : List Mismatch :=
  if (prefixes? value).isSome then []
  else
    (Mismatch.ofTexts value).map (Mismatch.within (.name "list[str]")) ++
      (Mismatch.ofText value).map (Mismatch.within (.name "str"))

/-- The mismatches of a field that may be missing. -/
def mismatchesOf (name : String) (check : Value → List Mismatch) (value : Option Value) :
    List Mismatch :=
  Mismatch.ofField name ((value.map check).getD [])

/-- The mismatches of the values, in the order of the fields. -/
def mismatches (values : PreferenceValues) : List Mismatch :=
  mismatchesOf "log_level" Mismatch.ofText values.logLevel ++
    mismatchesOf "output_format" Mismatch.ofText values.outputFormat ++
    mismatchesOf "include_prefix" prefixMismatches values.includePrefix ++
    mismatchesOf "exclude_paths" Mismatch.ofTexts values.excludePaths

/-- The preferences that values give. -/
def preferences (values : PreferenceValues) : Except (List Mismatch) Preferences :=
  if !values.mismatches.isEmpty then .error values.mismatches
  else
    let defaults : Preferences := {}
    .ok { logLevel := (values.logLevel.bind Value.asText?).getD defaults.logLevel
          outputFormat := (values.outputFormat.bind Value.asText?).getD defaults.outputFormat
          selection :=
            { prefixes := (values.includePrefix.bind prefixes?).getD none
              excluded := (values.excludePaths.bind texts?).getD [] } }

end PreferenceValues

end ResourceGraph
