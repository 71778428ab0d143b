import ResourceGraph.Number.Binary64
import ResourceGraph.Number.Limit
import ResourceGraph.Text.Blank
import ResourceGraph.Text.Digit

/-!
# Durations

A duration such as `1h30m` is a row of parts, each an amount followed by a unit.  Its length in
seconds is the sum of the parts from left to right.
-/

namespace ResourceGraph.Duration

/-- A unit of time. -/
inductive TimeUnit where
  | millisecond
  | second
  | minute
  | hour
deriving DecidableEq, Repr

namespace TimeUnit

/-- The characters of a unit. -/
def text : TimeUnit → List Char
  | millisecond => ['m', 's']
  | second => ['s']
  | minute => ['m']
  | hour => ['h']

/-- The length of a unit in seconds. -/
def seconds : TimeUnit → Binary64
  | millisecond => Binary64.ofDecimal 1 (-3)
  | second => Binary64.ofDecimal 1 0
  | minute => Binary64.ofDecimal 60 0
  | hour => Binary64.ofDecimal 3600 0

end TimeUnit

/-- A part of a duration: digits, the digits after a point, and a unit. -/
structure Part where
  whole : List Char
  fraction : List Char
  unit : TimeUnit
deriving DecidableEq, Repr

/-- The characters of a part. -/
def Part.text (part : Part) : List Char :=
  part.whole ++ (if part.fraction.isEmpty then [] else '.' :: part.fraction) ++ part.unit.text

/-- The amount of a part. -/
def Part.amount (part : Part) : Binary64 :=
  Binary64.ofDecimal (Text.decimalValue (part.whole ++ part.fraction)) (-part.fraction.length)

/-- The length of a part in seconds. -/
def Part.seconds (part : Part) : Binary64 := part.amount.mul part.unit.seconds

/-- Splits off the unit in front; of `m` and `ms` the longer one is taken. -/
def splitUnit? : List Char → Option (TimeUnit × List Char)
  | 'm' :: 's' :: rest => some (.millisecond, rest)
  | 'm' :: rest => some (.minute, rest)
  | 's' :: rest => some (.second, rest)
  | 'h' :: rest => some (.hour, rest)
  | _ => none

/-- Splits off the digits after a point, if a point stands in front. -/
def splitFraction? (characters : List Char) : Option (List Char × List Char) :=
  match characters with
  | '.' :: rest =>
    let digits := rest.takeWhile Text.isDecimalDigit
    if digits.isEmpty then none else some (digits, rest.dropWhile Text.isDecimalDigit)
  | _ => some ([], characters)

/-- Splits off the part in front. -/
def splitPart? (characters : List Char) : Option (Part × List Char) := do
  let whole := characters.takeWhile Text.isDecimalDigit
  if whole.isEmpty then none
  let (fraction, afterFraction) ← splitFraction? (characters.dropWhile Text.isDecimalDigit)
  let (unit, rest) ← splitUnit? afterFraction
  return (⟨whole, fraction, unit⟩, rest)

/-- The parts that characters write, at most `bound` of them. -/
def partsWithin? : Nat → List Char → Option (List Part)
  | _, [] => some []
  | 0, _ => none
  | bound + 1, characters => do
    let (part, rest) ← splitPart? characters
    return part :: (← partsWithin? bound rest)

/-- The parts that the characters of a duration write, at least one. -/
def parts? (characters : List Char) : Option (List Part) :=
  if characters.isEmpty then none else partsWithin? characters.length characters

/-- The sum of the lengths of parts, from left to right. -/
def total (parts : List Part) : Binary64 :=
  parts.foldl (fun sum part => sum.add part.seconds) Binary64.zero

/-- The length in seconds of the duration that a text writes between blank characters. -/
def parse? (text : String) : Option Binary64 := (parts? (Text.trim text).toList).map total

/-- Why a value is no duration. -/
inductive Fault where
  | malformed (text : String)
  /-- The value cannot be written, having an integer that is too long. -/
  | unwritable
deriving DecidableEq, Repr

/-- The words that explain a fault. -/
def Fault.message : Fault → String
  | malformed text => "invalid duration '" ++ Text.trim text ++ "'"
  | unwritable => Number.longIntegerText none

end ResourceGraph.Duration
