/-!
# Output formats

Data is printed as JSON, as plain lines, or laid out for reading on a terminal.  The format may be
left to be chosen when the program runs.
-/

namespace ResourceGraph

/-- A way to print data. -/
inductive OutputFormat where
  | json
  | plain
  | rich
deriving DecidableEq, Repr

/-- A format that is wanted; `auto` leaves the choice open. -/
inductive FormatChoice where
  | auto
  | fixed (format : OutputFormat)
deriving DecidableEq, Repr

/-- The name of a format. -/
def OutputFormat.name : OutputFormat → String
  | json => "json"
  | plain => "plain"
  | rich => "rich"

namespace FormatChoice

/-- The name of a choice. -/
def name : FormatChoice → String
  | auto => "auto"
  | fixed format => format.name

/-- The choices. -/
def all : List FormatChoice := [auto, fixed .json, fixed .plain, fixed .rich]

/-- The choice with a name. -/
def ofName? (text : String) : Option FormatChoice :=
  all.find? fun choice => choice.name == text

/-- The words that reject a name of no choice. -/
def unknownText (text : String) : String := "'" ++ text ++ "' is not a valid OutputFormat"

/-- The format of a choice: an open one is rich on a terminal with colours, otherwise plain. -/
def format (choice : FormatChoice) (interactive coloured : Bool) : OutputFormat :=
  match choice with
  | fixed format => format
  | auto => if interactive && coloured then .rich else .plain

end FormatChoice

end ResourceGraph
