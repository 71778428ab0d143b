import ResourceGraph.Text.Surrogate

/-!
# Reading bytes

A charset reads a row of bytes from the front, a few bytes at a time.  Bytes that write no character
are shown as the replacement character `U+FFFD`.
-/

namespace ResourceGraph.Text

/-- Why bytes cannot be read in a charset. -/
inductive CharsetFault where
  /-- Nothing tells the order of the bytes. -/
  | unmarked
  /-- The charset is said to be none. -/
  | undefined
  /-- What is named is a way to pack bytes. -/
  | packing
  /-- What is named is a cipher for characters. -/
  | cipher
  /-- Bytes that have to be ASCII are not. -/
  | notAscii
  /-- At the end too many bytes wait for others. -/
  | unfinished
  /-- The charset that is to be used for a character has no such use. -/
  | unusable
deriving DecidableEq, Repr

/-- How the bytes of a text are read. -/
abbrev Charset := List Nat → Except CharsetFault (List Char)

namespace Charset

/-- The characters that the bytes in front write, and the number of these bytes. -/
structure Reading where
  characters : List Char
  length : Nat
deriving DecidableEq, Repr

namespace Reading

/-- The reading of some bytes that write a character. -/
def single (c : Char) (length : Nat) : Reading := ⟨[c], length⟩

/-- The reading of some bytes that write no character. -/
def malformed (length : Nat) : Reading := ⟨[replacement], length⟩

end Reading

/-- How a charset reads the bytes in front, of which there is at least one. -/
abbrev Reader := List Nat → Reading

/-- The characters that bytes write, after the first `skipped` ones, which are left out. -/
def readAfter (reader : Reader) : Nat → List Nat → List Char
  | _, [] => []
  | skipped + 1, _ :: rest => readAfter reader skipped rest
  | 0, byte :: rest =>
    let reading := reader (byte :: rest)
    reading.characters ++ readAfter reader (reading.length - 1) rest

/-- The characters that bytes write. -/
def readAll (reader : Reader) (bytes : List Nat) : List Char := readAfter reader 0 bytes

/-- The charset whose bytes are read in one way throughout. -/
def ofReader (reader : Reader) : Charset := fun bytes => .ok (readAll reader bytes)

/-! ## Readers with a state -/

/-- How a charset reads the bytes in front, where that depends on the bytes before. -/
abbrev StateReader (State : Type) := State → List Nat → Except CharsetFault (Reading × State)

/-- The characters that bytes write in some state, after the first `skipped` ones, which are left
out. -/
def readStatesAfter {State : Type} (reader : StateReader State) (state : State) :
    Nat → List Nat → Except CharsetFault (List Char)
  | _, [] => .ok []
  | skipped + 1, _ :: rest => readStatesAfter reader state skipped rest
  | 0, byte :: rest => do
    let (reading, next) ← reader state (byte :: rest)
    return reading.characters ++ (← readStatesAfter reader next (reading.length - 1) rest)

/-- The charset whose bytes are read in different states, the first of which is given. -/
def ofStates {State : Type} (reader : StateReader State) (state : State) : Charset :=
  readStatesAfter reader state 0

/-! ## Tables -/

/-- The cells of a table that is given by its lines. -/
def cellsOf (lines : List String) : Array Char := (lines.flatMap String.toList).toArray

/-- The character in a cell of a table, none if the cell is empty or lies beyond the table. -/
def cell? (cells : Array Char) (index : Nat) : Option Char :=
  cells[index]?.filter fun c => c != replacement

/-- Runs of cells with the indices of their first cells. -/
abbrev Runs := List (Nat × Array Char)

/-- The runs that are given by their lines. -/
def runsOf (runs : List (Nat × List String)) : Runs :=
  runs.map fun (start, lines) => (start, cellsOf lines)

/-- The character in a cell of some runs. -/
def runCell? (runs : Runs) (index : Nat) : Option Char :=
  runs.findSome? fun (start, cells) => if start ≤ index then cell? cells (index - start) else none

/-- Reads one byte as the cell of a table. -/
def tableReader (cells : Array Char) : Reader
  | byte :: _ => .single ((cell? cells byte).getD replacement) 1
  | [] => .malformed 1

/-- Reads an ASCII byte as itself, another one by `high`. -/
def asciiOr (high : Reader) : Reader
  | byte :: rest => if byte < 128 then .single (Char.ofNat byte) 1 else high (byte :: rest)
  | [] => .malformed 1

/-- Reads ASCII bytes only. -/
def ascii : Reader := asciiOr fun _ => .malformed 1

end Charset

end ResourceGraph.Text
