import ResourceGraph.Text.Composition.Table

/-!
# Composed text

One text can be written in several ways, with composed characters or with the marks apart.  In the
composed form every character with its marks is written by as few characters as there are for it,
and the marks behind a character stand in the order of their classes.
-/

namespace ResourceGraph.Text

/-- The class of a mark, zero for what is no mark. -/
def markClass (c : Char) : Nat :=
  ((markClasses.find? fun entry => belongs entry.2 c).map Prod.fst).getD 0

/-! ## Syllables

The Korean syllables are arranged by their first letter, vowel and last letter, so that a
computation takes the place of a table. -/

/-- The first of the syllables. -/
def firstSyllable : Nat := 0xAC00

/-- The letters that a syllable stands for. -/
def syllableLetters (index : Nat) : List Char :=
  let last := index % 28
  [Char.ofNat (0x1100 + index / 588), Char.ofNat (0x1161 + index % 588 / 28)] ++
    if last = 0 then [] else [Char.ofNat (0x11A7 + last)]

/-- The syllable of two letters, or of a syllable without a last letter and that letter. -/
def syllable? (first second : Nat) : Option Nat :=
  if 0x1100 ≤ first ∧ first < 0x1113 ∧ 0x1161 ≤ second ∧ second < 0x1176 then
    some (firstSyllable + ((first - 0x1100) * 21 + (second - 0x1161)) * 28)
  else if firstSyllable ≤ first ∧ first < 0xD7A4 ∧ (first - firstSyllable) % 28 = 0 ∧
      0x11A7 < second ∧ second < 0x11C3 then
    some (first + (second - 0x11A7))
  else none

/-! ## Taking apart and putting together -/

/-- The characters that a character stands for, taken apart as often as `depth` allows. -/
def decomposeWithin : Nat → Char → List Char
  | 0, c => [c]
  | depth + 1, c =>
    if firstSyllable ≤ c.toNat ∧ c.toNat < 0xD7A4 then syllableLetters (c.toNat - firstSyllable)
    else
      match composedPairs.find? fun entry => entry.1 == c.toNat with
      | some (_, first, second) => decomposeWithin depth (Char.ofNat first) ++ [Char.ofNat second]
      | none => [c]

/-- The characters that a character stands for.  A character carries three marks at most. -/
def decompose (c : Char) : List Char := decomposeWithin 3 c

/-- The character that stands for two. -/
def compose? (first second : Char) : Option Char :=
  match syllable? first.toNat second.toNat with
  | some composed => some (Char.ofNat composed)
  | none =>
    (composedPairs.find? fun entry => entry.2 == (first.toNat, second.toNat)).map fun entry =>
      Char.ofNat entry.1

/-- Characters in the order of their classes with one more character in front, which moves behind
the marks of lower classes. -/
def placeMark (c : Char) : List Char → List Char
  | [] => [c]
  | next :: rest =>
    if 0 < markClass next ∧ markClass next < markClass c then next :: placeMark c rest
    else c :: next :: rest

/-- Puts characters together; `base` is the last character that is no mark, `marks` are those behind
it that could not be joined to it. -/
def composeAfter (base : Char) (marks : List Char) : List Char → List Char
  | [] => base :: marks
  | c :: rest =>
    let isBlocked := marks.getLast?.any fun last => markClass c ≤ markClass last
    match if isBlocked then none else compose? base c with
    | some composed => composeAfter composed marks rest
    | none =>
      if markClass c = 0 then base :: marks ++ composeAfter c [] rest
      else composeAfter base (marks ++ [c]) rest

/-- The composed form of characters none of which is unfit for it. -/
def composed (characters : List Char) : List Char :=
  let ordered := (characters.flatMap decompose).foldr placeMark []
  let leading := ordered.takeWhile fun c => 0 < markClass c
  match ordered.drop leading.length with
  | [] => leading
  | base :: rest => leading ++ composeAfter base [] rest

/-- Whether characters are in the composed form. -/
def isComposed (characters : List Char) : Bool :=
  !(characters.any (belongs unfitForComposition)) && composed characters == characters

end ResourceGraph.Text
