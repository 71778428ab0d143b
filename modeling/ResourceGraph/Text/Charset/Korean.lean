import ResourceGraph.Text.Charset.KoreanGrid
import ResourceGraph.Text.Charset.Pairs

/-!
# Korean charsets

The Korean grid holds the usual syllables.  Charsets differ in how they write the others: by pairs
outside the grid, by their letters, or by the bits of a pair, which give the letters.
-/

namespace ResourceGraph.Text.Charset

/-- The grid of Korean characters. -/
def korean : Array Char := cellsOf koreanCells

/-! ## Syllables

A syllable consists of a first letter, a vowel and perhaps a last letter. -/

/-- The first letters in their order, as distances from `U+3100`. -/
def firstLetters : List Nat := [
  0x31, 0x32, 0x34, 0x37, 0x38, 0x39, 0x41, 0x42, 0x43, 0x45, 0x46, 0x47, 0x48, 0x49, 0x4A, 0x4B,
  0x4C, 0x4D, 0x4E]

/-- The last letters in their order, as distances from `U+3100`. -/
def lastLetters : List Nat := [
  0x31, 0x32, 0x33, 0x34, 0x35, 0x36, 0x37, 0x39, 0x3A, 0x3B, 0x3C, 0x3D, 0x3E, 0x3F, 0x40, 0x41,
  0x42, 0x44, 0x45, 0x46, 0x47, 0x48, 0x4A, 0x4B, 0x4C, 0x4D, 0x4E]

/-- The letter at a distance from `U+3100`. -/
def letter (distance : Nat) : Char := Char.ofNat (0x3100 + distance)

/-- The syllable of a first letter, a vowel and a last letter, which is numbered from one on, zero
standing for none. -/
def syllable (first vowel last : Nat) : Char :=
  Char.ofNat (0xAC00 + first * 588 + vowel * 28 + last)

/-- The byte in front of a letter of the grid. -/
def letterRow : Nat := 0xA4

/-- The byte that stands for no letter. -/
def letterFiller : Nat := 0xD4

/-- The syllable that three letters of the grid make up. -/
def madeUpSyllable? (first vowel last : Nat) : Option Char := do
  let first ← firstLetters.idxOf? (0x31 + (← offset? 0xA1 0xBE first))
  let vowel ← offset? 0xBF 0xD3 vowel
  if last = letterFiller then return syllable first vowel 0
  else
    let last ← lastLetters.idxOf? (0x31 + (← offset? 0xA1 0xBE last))
    return syllable first vowel (last + 1)

/-- Reads a syllable that is made up of letters behind a filler. -/
def madeUpReader : Reader := fun bytes =>
  match bytes with
  | _ :: _ :: row₁ :: first :: row₂ :: vowel :: row₃ :: last :: _ =>
    if row₁ = letterRow ∧ row₂ = letterRow ∧ row₃ = letterRow then
      match madeUpSyllable? first vowel last with
      | some c => .single c 8
      | none => .malformed 1
    else .malformed 1
  | _ => .malformed bytes.length

/-! ## The grid -/

/-- The Korean characters of the grid, a filler in front of letters making up a syllable. -/
def gridKorean : Reader := fun bytes =>
  if bytes.take 2 = [letterRow, letterFiller] then madeUpReader bytes
  else
    pairReader (fun _ => none)
      (fun first second => (gridIndex? first second).bind (cell? korean)) bytes

/-- The syllables that are missing from the grid. -/
def missingSyllables : Array Char := missingFrom korean 0xAC00 11172

/-- The position of a second byte outside the grid. -/
def outerColumn? (second : Nat) : Option Nat :=
  offsetIn? (0x41, 0x5A) (0x61, 0x7A) second <|> (offset? 0x81 0xFE second).map (52 + ·)

/-- The syllable of a pair outside the grid: the missing ones follow each other in the rows above
the grid and in the columns before it. -/
def missingSyllable? (first second : Nat) : Option Char := do
  let column ← outerColumn? second
  let index ← (offset? 0x81 0xA0 first).map (· * 178 + column) <|>
    (if column < 84 then (offset? 0xA1 0xC6 first).map (5696 + · * 84 + column) else none)
  missingSyllables[index]?

/-- All Korean syllables. -/
def extendedKorean : Reader :=
  pairReader (fun _ => none) fun first second =>
    (gridIndex? first second).bind (cell? korean) <|> missingSyllable? first second

/-! ## Pairs of bits

A pair of bytes gives three numbers of five bits, one for each letter of a syllable. -/

/-- What a number of five bits stands for as a letter. -/
inductive LetterSlot where
  | unused
  | filler
  | letter (index : Nat)
deriving DecidableEq, Repr

namespace LetterSlot

/-- The first letter that a number stands for. -/
def first (bits : Nat) : LetterSlot :=
  if bits = 1 then filler
  else if 2 ≤ bits ∧ bits ≤ 20 then letter (bits - 2)
  else unused

/-- The vowel that a number stands for; two of eight numbers are left out. -/
def vowel (bits : Nat) : LetterSlot :=
  if bits = 2 then filler
  else if 2 < bits ∧ bits < 30 ∧ 2 ≤ bits % 8 then letter (bits / 8 * 6 + bits % 8 - 3)
  else unused

/-- The last letter that a number stands for. -/
def last (bits : Nat) : LetterSlot :=
  if bits = 1 then filler
  else if 2 ≤ bits ∧ bits ≤ 17 then letter (bits - 1)
  else if 19 ≤ bits ∧ bits ≤ 29 then letter (bits - 2)
  else unused

end LetterSlot

/-- The character of three letters: a syllable, a letter of its own, or the wide space. -/
def ofSlots? : LetterSlot → LetterSlot → LetterSlot → Option Char
  | .filler, .filler, .filler => some '\u3000'
  | .filler, .filler, .letter last => lastLetters[last - 1]?.map letter
  | .filler, .letter vowel, .filler => some (letter (0x4F + vowel))
  | .letter first, .filler, .filler => firstLetters[first]?.map letter
  | .letter first, .letter vowel, .filler => some (syllable first vowel 0)
  | .letter first, .letter vowel, .letter last => some (syllable first vowel last)
  | _, _, _ => none

/-- What a pair below the rows of the grid writes. -/
def slotPair? (first second : Nat) : Option Char :=
  let bits := first * 256 + second
  ofSlots? (.first (bits / 1024 % 32)) (.vowel (bits / 32 % 32)) (.last (bits % 32))

/-- What a pair for the grid writes: two rows of the grid share a first byte, and the rows of
syllables and the letters are left out. -/
def sharedRowPair? (first second : Nat) : Option Char := do
  let row ← (offset? 0xD9 0xDE first).map (2 * ·) <|> (offset? 0xE0 0xF9 first).map (41 + 2 * ·)
  let column ← offsetIn? (0x31, 0x7E) (0x91, 0xFE) second
  if first = 0xDA ∧ 0xA1 ≤ second ∧ second ≤ 0xD3 then none
  else cell? korean (row * 94 + column)

/-- Korean whose pairs give the letters of syllables. -/
def letterKorean : Reader :=
  pairReader (fun _ => none) fun first second =>
    if first < 0xD8 then slotPair? first second else sharedRowPair? first second

end ResourceGraph.Text.Charset
