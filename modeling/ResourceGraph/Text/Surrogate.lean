/-!
# Surrogates

A unit of two bytes writes a character up to `U+FFFF`.  A character beyond is written as a pair of
units, its halves; the code points of halves are set aside for this and are no characters.
-/

namespace ResourceGraph.Text

/-- The character that stands for what is none. -/
def replacement : Char := '\uFFFD'

/-- Whether a unit is the first half of a pair. -/
def isFirstHalf (unit : Nat) : Bool := 0xD800 ≤ unit && unit ≤ 0xDBFF

/-- Whether a unit is the second half of a pair. -/
def isSecondHalf (unit : Nat) : Bool := 0xDC00 ≤ unit && unit ≤ 0xDFFF

/-- Whether a unit is a half of a pair. -/
def isHalf (unit : Nat) : Bool := isFirstHalf unit || isSecondHalf unit

/-- The character that two halves write. -/
def joinHalves (first second : Nat) : Char :=
  Char.ofNat (0x10000 + (first - 0xD800) * 0x400 + (second - 0xDC00))

/-- The character of a code point; a half is replaced. -/
def characterOf (point : Nat) : Char := if isHalf point then replacement else Char.ofNat point

/-- The characters of code points, in which two halves stand for one character. -/
def joinUnits : List Nat → List Char
  | [] => []
  | [point] => [characterOf point]
  | first :: second :: rest =>
    if isFirstHalf first && isSecondHalf second then joinHalves first second :: joinUnits rest
    else characterOf first :: joinUnits (second :: rest)

end ResourceGraph.Text
