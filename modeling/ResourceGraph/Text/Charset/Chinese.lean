import ResourceGraph.Text.Charset.ChineseGrid
import ResourceGraph.Text.Charset.HongKongCells
import ResourceGraph.Text.Charset.Pairs
import ResourceGraph.Text.Charset.TraditionalGrid

/-!
# Chinese charsets

Simplified characters stand in a grid, to which charsets add more and more cells around it.
Traditional characters have a layout of their own.
-/

namespace ResourceGraph.Text.Charset

/-! ## Simplified characters -/

/-- The grid of simplified characters. -/
def chinese : Array Char := cellsOf chineseCells

/-- The runs of cells that the first extension fills. -/
def chineseAdditions : Runs := runsOf chineseRuns

/-- The runs of cells that the second extension fills. -/
def chineseLaterAdditions : Runs := runsOf chineseLaterRuns

/-- The simplified characters of the grid alone. -/
def gridChinese : Reader :=
  pairReader (fun _ => none) fun first second => (gridIndex? first second).bind (cell? chinese)

/-- The ideographs that are missing from the grid. -/
def missingIdeographs : Array Char := missingFrom chinese 0x4E00 20902

/-- The position of a second byte in the wider layout. -/
def widerColumn? (second : Nat) : Option Nat := offsetIn? (0x40, 0x7E) (0x80, 0xFE) second

/-- The ideograph of a pair outside the grid: the missing ones follow each other in the rows above
the grid and in the columns before it. -/
def missingIdeograph? (first second : Nat) : Option Char := do
  let column ← widerColumn? second
  let index ← (offset? 0x81 0xA0 first).map (· * 190 + column) <|>
    (if column < 96 then (offset? 0xAA 0xFE first).map (6080 + · * 96 + column) else none)
  missingIdeographs[index]?

/-- A character of the extended layout. -/
def extendedChinesePair? (first second : Nat) : Option Char :=
  let added := index? 190 (offset? 0x81 0xFE first) (widerColumn? second)
  (added.bind (runCell? chineseAdditions)) <|>
    (gridIndex? first second).bind (cell? chinese) <|> missingIdeograph? first second

/-- The simplified characters of the extended layout. -/
def extendedChinese : Reader := pairReader (fun _ => none) extendedChinesePair?

/-- The pairs that users fill on their own. -/
def userPair? (first second : Nat) : Option Char := do
  let column ← widerColumn? second
  if column < 96 then
    let row ← offset? 0xA1 0xA7 first
    return Char.ofNat (0xE4C6 + row * 96 + column)
  match offset? 0xAA 0xAF first with
  | some row => return Char.ofNat (0xE000 + row * 94 + (column - 96))
  | none =>
    let row ← offset? 0xF8 0xFE first
    return Char.ofNat (0xE234 + row * 94 + (column - 96))

/-- A pair of the complete layout. -/
def completeChinesePair? (first second : Nat) : Option Char :=
  extendedChinesePair? first second <|>
    (index? 190 (offset? 0x81 0xFE first) (widerColumn? second)).bind
      (runCell? chineseLaterAdditions) <|>
    userPair? first second

/-- The character that a row of four bytes writes.  The rows begin with the characters up to
`U+FFFF` that no pair writes; the other characters follow after a gap. -/
def fourByteCharacter? (first second third fourth : Nat) : Option Char := do
  let block := (← offset? 0x81 0xFE first) * 10 + (← offset? 0x30 0x39 second)
  let row := block * 1260 + (← offset? 0x81 0xFE third) * 10 + (← offset? 0x30 0x39 fourth)
  let (start, point) ← (fourByteRuns.filter fun run => run.1 ≤ row).getLast?
  if row < 39420 then return Char.ofNat (point + (row - start))
  else
    let point ← offset? 189000 1237575 row
    return Char.ofNat (0x10000 + point)

/-- The complete layout, in which a digit after a high byte belongs to a row of four bytes. -/
def completeChinese : Reader := fun bytes =>
  match bytes with
  | first :: second :: rest =>
    if first < 0x80 || second < 0x30 || 0x39 < second then
      pairReader (fun _ => none) completeChinesePair? bytes
    else
      match rest with
      | third :: fourth :: _ =>
        match fourByteCharacter? first second third fourth with
        | some c => .single c 4
        | none => .malformed 1
      | _ => .malformed bytes.length
  | _ => pairReader (fun _ => none) completeChinesePair? bytes

/-! ## Traditional characters -/

/-- The layout of traditional characters. -/
def traditional : Array Char := cellsOf traditionalCells

/-- The runs of cells that Windows fills differently. -/
def traditionalDifferences : Runs := runsOf traditionalRuns

/-- The cell of a pair in the layout of traditional characters. -/
def traditionalIndex? (first second : Nat) : Option Nat :=
  index? 157 (offset? 0xA1 0xF9 first) (offsetIn? (0x40, 0x7E) (0xA1, 0xFE) second)

/-- Traditional characters. -/
def traditionalChinese : Reader :=
  pairReader (fun _ => none) fun first second =>
    (traditionalIndex? first second).bind (cell? traditional)

/-- Traditional characters on Windows. -/
def windowsTraditional : Reader :=
  pairReader (fun _ => none) fun first second => do
    let index ← traditionalIndex? first second
    runCell? traditionalDifferences index <|> cell? traditional index

/-- The cells that are added in Hong Kong. -/
def hongKongAdditions : Runs := runsOf hongKongRuns

/-- What a pair writes in Hong Kong. -/
def hongKongPair? (first second : Nat) : Option (List Char) := do
  let index ← index? 157 (offset? 0x81 0xFE first) (offsetIn? (0x40, 0x7E) (0xA1, 0xFE) second)
  let common := if hongKongGaps.contains index then none else traditionalIndex? first second
  ((runCell? hongKongAdditions index <|> common.bind (cell? traditional)).map List.singleton) <|>
    (hongKongPairs.lookup index).map String.toList

/-- Traditional characters with those of Hong Kong. -/
def hongKong : Reader := rowReader (fun _ => none) hongKongPair?

end ResourceGraph.Text.Charset
