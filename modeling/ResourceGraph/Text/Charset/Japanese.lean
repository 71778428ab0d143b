import ResourceGraph.Text.Charset.JapaneseGrid
import ResourceGraph.Text.Charset.JapanesePlanes
import ResourceGraph.Text.Charset.Pairs

/-!
# Japanese charsets

The cells of the Japanese grid are reached by pairs of bytes in two ways: two rows of the grid share
one first byte, or both bytes are high.  Later charsets fill more cells and add a second plane.
-/

namespace ResourceGraph.Text.Charset

/-! ## The grid -/

/-- The Japanese grid. -/
def japanese : Array Char := cellsOf japaneseCells

/-- The supplementary Japanese grid, which begins with its second row. -/
def japaneseSupplement : Array Char := cellsOf japaneseSupplementCells

/-- The runs of cells that Windows fills differently. -/
def japaneseDifferences : Runs := runsOf japaneseRuns

/-- A narrow Japanese letter. -/
def narrowLetter? (byte : Nat) : Option Char :=
  (offset? 0xA1 0xDF byte).map fun offset => Char.ofNat (0xFF61 + offset)

/-- The cell that a pair leads to when two rows of the grid share one first byte. -/
def shiftedIndex? (first second : Nat) : Option Nat :=
  index? 188 (offsetIn? (0x81, 0x9F) (0xE0, 0xFC) first)
    (offsetIn? (0x40, 0x7E) (0x80, 0xFC) second)

/-- Shifted Japanese. -/
def shiftedJapanese : Reader :=
  pairReader narrowLetter? fun first second => (shiftedIndex? first second).bind (cell? japanese)

/-- The bytes that stand alone on Windows. -/
def windowsAlone? (byte : Nat) : Option Char :=
  if byte = 0x80 then some '\x80'
  else if byte = 0xA0 then some (Char.ofNat 0xF8F0)
  else if 0xFD ≤ byte then some (Char.ofNat (0xF8F1 + (byte - 0xFD)))
  else narrowLetter? byte

/-- The cells behind the grid that users of Windows fill on their own. -/
def userCell? (index : Nat) : Option Char :=
  (offset? 8836 10715 index).map fun offset => Char.ofNat (0xE000 + offset)

/-- Shifted Japanese on Windows. -/
def windowsJapanese : Reader :=
  pairReader windowsAlone? fun first second => do
    let index ← shiftedIndex? first second
    runCell? japaneseDifferences index <|> cell? japanese index <|> userCell? index

/-- Japanese with high bytes, which reaches the supplementary grid with a third byte. -/
def extendedJapanese : Reader :=
  asciiOr fun bytes =>
    match bytes with
    | 0x8F :: second :: third :: _ =>
      let index := index? 94 (offset? 0xA2 0xFE second) (offset? 0xA1 0xFE third)
      match index.bind (cell? japaneseSupplement) with
      | some c => .single c 3
      | none => .malformed 1
    | 0x8F :: rest => .malformed (1 + rest.length)
    | _ =>
      pairReader (fun _ => none) (fun first second =>
        if first = 0x8E then narrowLetter? second
        else (gridIndex? first second).bind (cell? japanese)) bytes

/-! ## The planes -/

/-- The runs of cells that later editions add to the grid. -/
def firstPlaneAdditions : Runs := runsOf firstPlaneRuns

/-- The cells of the second plane. -/
def secondPlane : Runs := runsOf secondPlaneRuns

/-- What a cell of the first plane holds in the first edition, if `isEarly`, or in the second.  The
pair for a cell that only the second edition fills is malformed as a whole in the first one. -/
def firstPlane? (isEarly : Bool) (index : Nat) : Option (List Char) :=
  if isEarly && laterCells.contains index then some [replacement]
  else
    ((cell? japanese index <|> runCell? firstPlaneAdditions index).map List.singleton) <|>
      (firstPlanePairs.lookup index).map String.toList

/-- What a cell of the second plane holds; one of them was filled differently in the first edition
where high bytes or shared rows are used. -/
def secondPlane? (isEarly : Bool) (index : Nat) : Option Char :=
  if isEarly && index = 8674 then some '\u9B1D' else runCell? secondPlane index

/-- The rows of the second plane that come first when rows share one first byte. -/
def secondPlaneRows : List Nat := [0, 7, 2, 3, 4, 11, 12, 13, 14]

/-- The cell of the second plane behind the cells of the first one. -/
def secondPlaneIndex (beyond : Nat) : Nat :=
  let row := beyond / 94
  (secondPlaneRows[row]?.getD (77 + (row - 9))) * 94 + beyond % 94

/-- What the ASCII bytes of narrow Japanese write. -/
def romanLetter? (byte : Nat) : Option Char :=
  if byte = 0x5C then some '¥'
  else if byte = 0x7E then some '‾'
  else if byte < 128 then some (Char.ofNat byte)
  else none

/-- What a pair writes when rows share one first byte. -/
def shiftedPlanesPair? (isEarly : Bool) (first second : Nat) : Option (List Char) := do
  let index ← shiftedIndex? first second
  if index = 31 then return ['\\']
  else if index = 111 then return ['~']
  else if index < 8836 then firstPlane? isEarly index
  else return [← secondPlane? isEarly (secondPlaneIndex (index - 8836))]

/-- Shifted Japanese with both planes. -/
def shiftedPlanes (isEarly : Bool) : Reader := fun bytes =>
  match bytes.head?.bind romanLetter? with
  | some c => .single c 1
  | none => rowReader narrowLetter? (shiftedPlanesPair? isEarly) bytes

/-- Japanese with high bytes and both planes; rows that the second plane leaves empty belong to the
supplementary grid. -/
def extendedPlanes (isEarly : Bool) : Reader :=
  asciiOr fun bytes =>
    match bytes with
    | 0x8F :: second :: third :: _ =>
      let index := index? 94 (offset? 0xA1 0xFE second) (offset? 0xA1 0xFE third)
      let supplement := index? 94 (offset? 0xA2 0xFE second) (offset? 0xA1 0xFE third)
      match index.bind (secondPlane? isEarly) <|> supplement.bind (cell? japaneseSupplement) with
      | some c => .single c 3
      | none => .malformed 1
    | 0x8F :: rest => .malformed (1 + rest.length)
    | _ =>
      rowReader (fun _ => none) (fun first second =>
        if first = 0x8E then (narrowLetter? second).map List.singleton
        else (gridIndex? first second).bind (firstPlane? isEarly)) bytes

end ResourceGraph.Text.Charset
