/-!
# Character classes given by their boundaries

A class of characters is stored as the increasing list of code points at which membership changes:
the first entry starts a run of members, the second ends it, and so on.  A code point belongs to
the class when an odd number of boundaries lies at or below it.
-/

namespace ResourceGraph.Text

/-- Whether membership is switched on after passing every boundary up to `point`; `inside` tells
whether it is switched on before the first one. -/
def withinBoundaries (point : Nat) (inside : Bool) : List Nat → Bool
  | [] => inside
  | boundary :: rest => if boundary ≤ point then withinBoundaries point (!inside) rest else inside

/-- Whether a character belongs to the class with the given boundaries. -/
def belongs (boundaries : List Nat) (c : Char) : Bool :=
  withinBoundaries c.toNat false boundaries

end ResourceGraph.Text
