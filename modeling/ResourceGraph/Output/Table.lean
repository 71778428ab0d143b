import ResourceGraph.Json.Printer
import ResourceGraph.Output.Format

/-!
# Printed data

A table is printed as one line for its headers and one for each row, with tabs between the cells, or
as a JSON list of mappings from headers to cells.  A value is always printed as JSON.
-/

namespace ResourceGraph

/-- Rows of cells under headers. -/
structure TextTable where
  title : String
  headers : List String
  rows : List (List String)
deriving DecidableEq, Repr

namespace TextTable

/-- The cells of a row by their headers; headers without a cell, and cells without a header, are
left out. -/
def entryOf (headers row : List String) : Value :=
  .map (Entries.ofList ((headers.zip row).map fun (header, cell) => (.text header, .text cell)))

/-- The rows as a value. -/
def toValue (table : TextTable) : Value := .list (table.rows.map (entryOf table.headers))

/-- The cells of a line with tabs between them. -/
def line (cells : List String) : String := "\t".intercalate cells ++ "\n"

/-- The lines of a table. -/
def lines (table : TextTable) : String :=
  String.join (line table.headers :: table.rows.map line)

/-- What a table looks like in a format. -/
def print (table : TextTable) : OutputFormat → String
  | .json => Json.print table.toValue ++ "\n"
  | .plain => table.lines
  | .rich => (if table.title.isEmpty then "" else table.title ++ "\n") ++ table.lines

end TextTable

/-- What a value looks like. -/
def printValue (value : Value) : String := Json.print value ++ "\n"

end ResourceGraph
