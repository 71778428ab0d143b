import ResourceGraph.Value.Text

/-!
# Printing JSON

A value is printed over several lines, its parts indented by two more spaces at each level; an empty
list or mapping takes a single line.  Characters beyond ASCII stand for themselves.
-/

namespace ResourceGraph.Json

/-- The characters that stand for one character of a string. -/
def escapeCharacter (c : Char) : List Char :=
  match c with
  | '"' => ['\\', '"']
  | '\\' => ['\\', '\\']
  | '\n' => ['\\', 'n']
  | '\r' => ['\\', 'r']
  | '\t' => ['\\', 't']
  | '\x0c' => ['\\', 'f']
  | '\x08' => ['\\', 'b']
  | c => if c.toNat < 0x20 then '\\' :: 'u' :: Text.hexadecimal 4 c.toNat else [c]

/-- A text as a string. -/
def printText (text : String) : String :=
  String.ofList ('"' :: text.toList.flatMap escapeCharacter ++ ['"'])

/-- A scalar; bytes and dates are printed as strings. -/
def printScalar : Scalar → String
  | .null => "null"
  | .bool value => if value then "true" else "false"
  | .int value => toString value
  | .float value => Number.floatText Number.documentFormat value
  | .text value => printText value
  | .bytes value => printText (Text.quotedBytes value)
  | .date value => printText value.text
  | .moment value => printText (value.text " ")

/-- The text of a key, which is a string whatever the key is. -/
def printKey : Scalar → String
  | .text value => printText value
  | .bytes value => printText (Text.quotedBytes value)
  | other => printText (printScalar other)

/-- A line break and the indentation of a level. -/
def newLine (level : Nat) : String := "\n" ++ String.ofList (List.replicate (2 * level) ' ')

/-- Parts between brackets, one to a line. -/
def printParts (opening closing : String) (level : Nat) (parts : List String) : String :=
  if parts.isEmpty then opening ++ closing
  else
    opening ++ newLine (level + 1) ++ ("," ++ newLine (level + 1)).intercalate parts ++
      newLine level ++ closing

mutual

/-- A value at a level of indentation.  A set is printed as a string. -/
def printAt (level : Nat) : Value → String
  | .scalar value => printScalar value
  | .list items => printParts "[" "]" level (printItems (level + 1) items)
  | .map entries => printParts "\x7b" "\x7d" level (printEntries (level + 1) entries)
  | .set members => printText (Value.set members).shown
  | .pair first second =>
    printParts "[" "]" level [printAt (level + 1) first, printAt (level + 1) second]

/-- The items of a list. -/
def printItems (level : Nat) : List Value → List String
  | [] => []
  | item :: rest => printAt level item :: printItems level rest

/-- The entries of a mapping. -/
def printEntries (level : Nat) : List (Scalar × Value) → List String
  | [] => []
  | (key, value) :: rest => (printKey key ++ ": " ++ printAt level value) :: printEntries level rest

end

/-- A value as a document. -/
def print (value : Value) : String := printAt 0 value

end ResourceGraph.Json
