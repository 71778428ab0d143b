import ResourceGraph.Output.Highlight
import ResourceGraph.Output.Markup
import ResourceGraph.Output.Screen
import ResourceGraph.Output.Table
import ResourceGraph.Surroundings

/-!
# Printers

A printer writes data for the standard output and remarks for the standard error.  Remarks are laid
out for a terminal with colours; otherwise every one is a line as it is.
-/

namespace ResourceGraph

/-- The kinds of remarks. -/
inductive RemarkKind where
  | info
  | warning
  | error
deriving DecidableEq, Repr

namespace RemarkKind

/-- The label of a kind of remark. -/
def label : RemarkKind → String
  | info => ""
  | warning => "Warning:"
  | error => "Error:"

/-- What a kind of remark begins with. -/
def opening : RemarkKind → String
  | info => ""
  | warning => "Warning: "
  | error => "Error: "

end RemarkKind

/-- How a run prints. -/
structure Printer where
  format : OutputFormat
  coloured : Bool
  /-- Whether remarks other than warnings and errors are left out. -/
  quiet : Bool
  /-- The width that remarks are wrapped to. -/
  columns : Nat := Wrap.standardWidth
deriving DecidableEq, Repr

namespace Printer

/-- Whether the environment allows colours. -/
def allowsColour (environment : Table String) : Bool :=
  !environment.has "NO_COLOR" && environment.get? "TERM" != some "dumb"

/-- The printer for a choice of format on a screen with some columns. -/
def ofChoice (choice : FormatChoice) (noColour quiet interactive : Bool)
    (environment : Table String) (columns : Nat) : Printer :=
  let coloured := !noColour && allowsColour environment
  { format := choice.format interactive coloured, coloured, quiet, columns }

/-- The printer of a run that has not set up one of its own. -/
def standard (interactive : Bool) (environment : Table String) (columns : Nat) : Printer :=
  ofChoice .auto false false interactive environment columns

/-- The parts of a remark that have a colour.  In an error that is the label alone. -/
def colouredParts (kind : RemarkKind) (text : List Char) : List Span :=
  ⟨0, kind.label.length⟩ :: (if kind = .error then [] else Highlight.spans text)

/-- A remark on a terminal of some columns.  Colours matter only beside a joiner, since without one
the columns of a line are those of its parts. -/
def layOut (columns : Nat) (kind : RemarkKind) (message : String) : List Char :=
  let text := kind.opening.toList ++ Wrap.visible (Markup.render message.toList)
  Wrap.wrap columns (if text.contains Text.joiner then colouredParts kind text else []) text

/-- A remark for the standard error. -/
def remark (printer : Printer) (kind : RemarkKind) (message : String) : String :=
  if printer.coloured then String.ofList (layOut printer.columns kind message)
  else kind.opening ++ message ++ "\n"

/-- A message, left out by a quiet printer. -/
def info (printer : Printer) (message : String) : String :=
  if printer.quiet then "" else printer.remark .info message

/-- A warning. -/
def warning (printer : Printer) (message : String) : String := printer.remark .warning message

/-- An error. -/
def error (printer : Printer) (message : String) : String := printer.remark .error message

/-- A table in the format of a printer. -/
def table (printer : Printer) (table : TextTable) : String := table.print printer.format

end Printer

end ResourceGraph
