import ResourceGraph.Loading.Fault
import ResourceGraph.Text.Newline
import ResourceGraph.Yaml.Construction

/-!
# The content of a source

A text is read as JSON and, failing that, as YAML.  Where its format is known only that one is
tried.
-/

namespace ResourceGraph

/-- What is known about the format of a text. -/
inductive ContentFormat where
  | json
  | yaml
  | unknown
deriving DecidableEq, Repr

namespace ContentFormat

/-- The format that the extension of a file tells. -/
def ofExtension (extension : String) : ContentFormat :=
  let lowered := Text.lower extension
  if lowered == ".json" then json
  else if lowered == ".yaml" || lowered == ".yml" then yaml
  else unknown

/-- The format that the type of a reply tells. -/
def ofContentType (contentType : String) : ContentFormat :=
  let mentions (word : String) := Text.hasWord word.toList contentType.toList
  if mentions "json" then json
  else if mentions "yaml" || mentions "yml" then yaml
  else unknown

end ContentFormat

namespace Content

/-- The entries of a value that is a mapping. -/
def mapping : Value → Except LoadFailure (List (Scalar × Value))
  | .map entries => .ok entries
  | .null => .error (.fault (.notAMapping none))
  | other => .error (.fault (.notAMapping (some other.kindName)))

/-- The entries that a text writes in YAML, `json` being the error of reading it as JSON. -/
def readYaml (json : Option Json.Error) (text : String) :
    Except LoadFailure (List (Scalar × Value)) :=
  match Yaml.read text with
  | .ok value => mapping value
  | .error fault =>
    if fault.isSyntactic then .error (.fault (.unreadable json fault))
    else .error (.accident (.scalar fault))

/-- The entries that a text writes. -/
def read (form : ContentFormat) (text : String) : Except LoadFailure (List (Scalar × Value)) :=
  if form = .yaml then readYaml none text
  else
    match Json.read text with
    | .ok value => mapping value
    | .error error =>
      if !error.isSyntactic then .error (.accident (.number error))
      else if form = .json then .error (.fault (.invalidJson error))
      else readYaml (some error) text

/-- The text of the body of a reply with a content type.  An empty body needs no charset. -/
def ofBody (contentType : String) (bytes : List Nat) : Except Accident String := do
  if bytes.isEmpty then return ""
  let charset ← (ContentType.charset contentType).mapError .contentType
  return String.ofList (← (charset bytes).mapError .charset)

/-- The text of a file. -/
def ofFile (bytes : ByteArray) : Except Accident String :=
  match String.fromUTF8? bytes with
  | some text => .ok (String.ofList (Text.unifyLineEnds text.toList))
  | none => .error .notText

end Content

end ResourceGraph
