import ResourceGraph.Text.Surrogate

/-!
# Punycode

A text is written in ASCII: its ASCII characters come first, with a hyphen behind them if there are
any.  Then follows a row of numbers, one for each other character, in the order of the characters.
A number tells how far it is from one insertion to the next, when all places in the text are gone
through for one character after the other.  Its digits have the base 36, and each digit tells
whether it is the last one: it lies below a threshold that is adapted to the numbers before.
-/

namespace ResourceGraph.Text.Punycode

/-- The threshold below which a digit is the last one. -/
def threshold (position bias : Nat) : Nat := max 1 (min 26 (36 * (position + 1) - bias))

/-- Brings a distance down to a size where the bias hardly grows any more. -/
def settle (distance bias : Nat) : Nat × Nat :=
  if 455 < distance then settle (distance / 35) (bias + 36) else (distance, bias)
termination_by distance
decreasing_by exact Nat.div_lt_self (by omega) (by omega)

/-- The bias for the next number. -/
def adapt (distance : Nat) (isFirst : Bool) (length : Nat) : Nat :=
  let damped := if isFirst then distance / 700 else distance / 2
  let (settled, bias) := settle (damped + damped / length) 0
  bias + 36 * settled / (settled + 38)

/-! ## Writing -/

/-- The character of a digit. -/
def digitCharacter (digit : Nat) : Char :=
  if digit < 26 then Char.ofNat ('a'.toNat + digit) else Char.ofNat ('0'.toNat + (digit - 26))

/-- The digits of a number from a position on. -/
def digitsFrom (bias position number : Nat) : List Char :=
  let bound := threshold position bias
  if number < bound then [digitCharacter number]
  else
    digitCharacter (bound + (number - bound) % (36 - bound)) ::
      digitsFrom bias (position + 1) ((number - bound) / (36 - bound))
termination_by number
decreasing_by
  have positive : 1 ≤ threshold position bias := by unfold threshold; omega
  exact Nat.lt_of_le_of_lt (Nat.div_le_self _ _) (by omega)

/-- How far the writing of a text has come. -/
structure Writing where
  written : List Char
  /-- The distance since the last insertion. -/
  distance : Nat
  bias : Nat
  /-- The number of characters that are written. -/
  length : Nat

/-- Goes past a place in the text, `code` being the character whose insertions are sought. -/
def Writing.pass (plain code : Nat) (writing : Writing) (c : Char) : Writing :=
  if c.toNat < code then { writing with distance := writing.distance + 1 }
  else if c.toNat = code then
    { written := writing.written ++ digitsFrom writing.bias 0 writing.distance
      distance := 0
      bias := adapt writing.distance (writing.length == plain) (writing.length + 1)
      length := writing.length + 1 }
  else writing

/-- Goes through a text for each of some characters, `next` being the first one that has not been
sought yet. -/
def writeFrom (text : List Char) (plain next : Nat) (writing : Writing) : List Nat → Writing
  | [] => writing
  | code :: rest =>
    let distance := writing.distance + (code - next) * (writing.length + 1)
    let passed := text.foldl (Writing.pass plain code) { writing with distance }
    writeFrom text plain (code + 1) { passed with distance := passed.distance + 1 } rest

/-- The written form of a text. -/
def encode (text : List Char) : List Char :=
  let plain := text.filter fun c => c.toNat < 128
  let others := (text.map Char.toNat).filter (128 ≤ ·)
  let codes := (others.mergeSort (· ≤ ·)).eraseDups
  let hyphen := if plain.isEmpty then [] else ['-']
  plain ++ hyphen ++ (writeFrom text plain.length 128 ⟨[], 0, 72, plain.length⟩ codes).written

/-! ## Reading -/

/-- The value of a digit. -/
def digit? (c : Char) : Option Nat :=
  if 'a' ≤ c ∧ c ≤ 'z' then some (c.toNat - 'a'.toNat)
  else if 'A' ≤ c ∧ c ≤ 'Z' then some (c.toNat - 'A'.toNat)
  else if '0' ≤ c ∧ c ≤ '9' then some (c.toNat - '0'.toNat + 26)
  else none

/-- The number in front of some characters and the characters behind it. -/
def splitNumber? (bias position weight value : Nat) : List Char → Option (Nat × List Char)
  | [] => none
  | c :: rest =>
    match digit? c with
    | none => none
    | some digit =>
      let bound := threshold position bias
      if digit < bound then some (value + digit * weight, rest)
      else
        splitNumber? bias (position + 1) (weight * (36 - bound)) (value + digit * weight) rest

theorem length_lt_of_splitNumber? {bias position weight value number : Nat}
    {characters rest : List Char}
    (h : splitNumber? bias position weight value characters = some (number, rest)) :
    rest.length < characters.length := by
  induction characters generalizing position weight value with
  | nil => simp [splitNumber?] at h
  | cons c tail ih =>
    simp only [splitNumber?] at h
    split at h
    · simp at h
    · split at h
      · simp only [Option.some.injEq, Prod.mk.injEq] at h
        simp [h.2]
      · exact Nat.lt_of_lt_of_le (ih h) (by simp)

/-- What a written form gives. -/
structure Decoded where
  characters : List Char
  /-- Whether nothing in the written form is malformed. -/
  isSound : Bool

/-- How far the reading of insertions has come. -/
structure Insertion where
  /-- The text without what is still to be inserted. -/
  text : List Char
  code : Nat
  /-- The place for the next insertion. -/
  place : Nat
  bias : Nat
  isFirst : Bool
  isSound : Bool

/-- Inserts a character at some distance.  A question mark stands for a number beyond all
characters. -/
def Insertion.insert (insertion : Insertion) (distance : Nat) : Insertion :=
  let length := insertion.text.length + 1
  let reached := insertion.place + distance
  let code := insertion.code + reached / length
  let place := reached % length
  let isCharacter := code ≤ 0x10FFFF
  let code := if isCharacter then code else '?'.toNat
  { text := insertion.text.take place ++ Char.ofNat code :: insertion.text.drop place
    code
    place := place + 1
    bias := adapt distance insertion.isFirst length
    isFirst := false
    isSound := insertion.isSound && isCharacter }

/-- Reads the numbers in some characters and inserts what they tell.  Behind a malformed number
nothing is read. -/
def readInsertions (insertion : Insertion) (characters : List Char) : Decoded :=
  if characters.isEmpty then ⟨insertion.text, insertion.isSound⟩
  else
    match _split : splitNumber? insertion.bias 0 1 0 characters with
    | none => ⟨insertion.text, false⟩
    | some (distance, rest) => readInsertions (insertion.insert distance) rest
termination_by characters.length
decreasing_by exact length_lt_of_splitNumber? _split

/-- The plain characters and the numbers of a written form. -/
def parts (characters : List Char) : List Char × List Char :=
  let numbers := (characters.reverse.takeWhile (· != '-')).reverse
  ((characters.take (characters.length - numbers.length)).dropLast, numbers)

/-- The text with some plain characters and the numbers of the others. -/
def ofParts (plain numbers : List Char) : Decoded :=
  readInsertions ⟨plain, 128, 0, 72, true, true⟩ numbers

/-- The text with a written form. -/
def decode (characters : List Char) : Decoded :=
  let (plain, numbers) := parts characters
  ofParts plain numbers

end ResourceGraph.Text.Punycode
