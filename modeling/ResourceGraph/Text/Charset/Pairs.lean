import ResourceGraph.Text.Charset.Reader

/-!
# Pairs of bytes

Many charsets write most characters with two bytes.  The pair of bytes leads to a cell of a grid; a
charset differs from its relatives in the way from the pair to the cell and in the cells that it
adds to the grid.
-/

namespace ResourceGraph.Text.Charset

/-- Reads pairs of bytes, which may write more than one character; bytes that stand `alone` are read
first, and of a pair that writes nothing the first byte is passed over. -/
def rowReader (alone : Nat → Option Char) (pair : Nat → Nat → Option (List Char)) : Reader :=
  asciiOr fun bytes =>
    match bytes with
    | first :: rest =>
      match alone first with
      | some c => .single c 1
      | none =>
        match rest.head?.bind (pair first) with
        | some characters => ⟨characters, 2⟩
        | none => .malformed 1
    | [] => .malformed 1

/-- Reads pairs of bytes, each of which writes one character. -/
def pairReader (alone : Nat → Option Char) (pair : Nat → Nat → Option Char) : Reader :=
  rowReader alone fun first second => (pair first second).map List.singleton

/-- The position of a byte in a row of bytes that begins with `start`. -/
def offset? (start last byte : Nat) : Option Nat :=
  if start ≤ byte && byte ≤ last then some (byte - start) else none

/-- The position of a byte in two rows of bytes that follow each other. -/
def offsetIn? (first second : Nat × Nat) (byte : Nat) : Option Nat :=
  match offset? first.1 first.2 byte with
  | some offset => some offset
  | none => (offset? second.1 second.2 byte).map (first.2 + 1 - first.1 + ·)

/-- The index of a cell in rows of a width. -/
def index? (width : Nat) (row column : Option Nat) : Option Nat := do
  return (← row) * width + (← column)

/-- The cell of a grid with 94 columns that two high bytes lead to. -/
def gridIndex? (first second : Nat) : Option Nat :=
  index? 94 (offset? 0xA1 0xFE first) (offset? 0xA1 0xFE second)

/-- The cell of a grid with 94 columns that two bytes below 128 lead to. -/
def lowGridIndex? (first second : Nat) : Option Nat :=
  index? 94 (offset? 0x21 0x7E first) (offset? 0x21 0x7E second)

/-- The code points of a range, in order, that are missing from a grid. -/
def missingFrom (grid : Array Char) (start count : Nat) : Array Char :=
  let present := grid.foldl
    (fun marks c => if start ≤ c.toNat then marks.setIfInBounds (c.toNat - start) true else marks)
    (Array.replicate count false)
  ((Array.range count).filter fun offset => present[offset]? == some false).map fun offset =>
    Char.ofNat (start + offset)

end ResourceGraph.Text.Charset
