import ResourceGraph.Number.Integer
import ResourceGraph.Output.Wrap
import ResourceGraph.Table
import ResourceGraph.Text.Digit

/-!
# The screen

The environment may state how many columns and lines a screen has.  A statement counts if it
consists of digits alone.  Not every digit can write a number, however: a superscript cannot, and
neither can too many digits.  Then nothing can be shown at all.
-/

namespace ResourceGraph

namespace Screen

/-- The number that a variable of the environment states. -/
def stated? (environment : Table String) (name : String) :
    Except Number.IntegerFault (Option Nat) :=
  let text := (environment.get? name).getD ""
  if text.isEmpty || !text.toList.all Text.isDigit then .ok none
  else (Number.readInteger text).map fun value => some value.toNat

/-- The columns of the screen.  Its lines do not matter, but they must not be misstated. -/
def columns (environment : Table String) : Except Number.IntegerFault Nat := do
  let columns ← stated? environment "COLUMNS"
  let _ ← stated? environment "LINES"
  return columns.getD Wrap.standardWidth

end Screen

end ResourceGraph
