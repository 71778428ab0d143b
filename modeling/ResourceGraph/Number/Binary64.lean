/-!
# Binary floating-point numbers

A floating-point number is kept as the 64 bits of its IEEE 754 encoding, so that two numbers can be
compared bit by bit.  `Binary64.nearest` rounds a fraction to the nearest number, a tie going to the
even one; `Binary64.significand` and `Binary64.exponent` read a finite number back as
`significand · 2 ^ exponent`.
-/

namespace ResourceGraph

/-- A floating-point number, given by the bits of its IEEE 754 encoding. -/
structure Binary64 where
  bits : UInt64
deriving DecidableEq, Repr, Inhabited

namespace Binary64

/-- The number as a machine float. -/
def toFloat (number : Binary64) : Float := Float.ofBits number.bits

/-- The encoding of a machine float. -/
def ofFloat (value : Float) : Binary64 := ⟨value.toBits⟩

/-- Positive zero. -/
def zero : Binary64 := ⟨0⟩

/-- Positive infinity. -/
def infinity : Binary64 := ⟨0x7FF0000000000000⟩

/-- The number that is not a number. -/
def notANumber : Binary64 := ⟨0x7FF8000000000000⟩

/-- The encoding of what has no value, such as the sum of infinities of both signs. -/
def undefined : Binary64 := ⟨0xFFF8000000000000⟩

/-- One of the numbers that are not a number: they are told apart by the low bits of their
encoding. -/
def withSerial (number : Binary64) (serial : Nat) : Binary64 := ⟨number.bits + serial.toUInt64⟩

/-- The number with the other sign. -/
def negate (number : Binary64) : Binary64 := ⟨number.bits ^^^ 0x8000000000000000⟩

/-- Whether the sign bit is set. -/
def isNegative (number : Binary64) : Bool := number.bits >>> 63 == 1

/-- The exponent field of the encoding. -/
def exponentField (number : Binary64) : Nat := (number.bits >>> 52).toNat % 0x800

/-- The fraction field of the encoding. -/
def fractionField (number : Binary64) : Nat := number.bits.toNat % 0x10000000000000

/-- Whether the number is neither infinite nor `notANumber`. -/
def isFinite (number : Binary64) : Bool := number.exponentField != 0x7FF

/-- Whether the encoding is that of something that is no number. -/
def isNotANumber (number : Binary64) : Bool :=
  number.exponentField == 0x7FF && number.fractionField != 0

/-- The value of an operation on two numbers: where one of them is no number it is that one, the
left one first. -/
def combine (operation : Float → Float → Float) (left right : Binary64) : Binary64 :=
  if left.isNotANumber then left
  else if right.isNotANumber then right
  else
    let value := ofFloat (operation left.toFloat right.toFloat)
    if value.isNotANumber then undefined else value

/-- The sum of two numbers. -/
def add (left right : Binary64) : Binary64 := combine (· + ·) left right

/-- The product of two numbers. -/
def mul (left right : Binary64) : Binary64 := combine (· * ·) left right

/-- Whether the number is a zero of either sign. -/
def isZero (number : Binary64) : Bool :=
  number.exponentField == 0 && number.fractionField == 0

/-- The integer factor of a finite number. -/
def significand (number : Binary64) : Nat :=
  if number.exponentField = 0 then number.fractionField else 0x10000000000000 + number.fractionField

/-- The power of two that multiplies the significand of a finite number. -/
def exponent (number : Binary64) : Int :=
  if number.exponentField = 0 then -1074 else (number.exponentField : Int) - 1075

/-- Whether a finite number is the given integer. -/
def equalsInt (number : Binary64) (value : Int) : Bool :=
  let magnitude := number.significand * Nat.pow 2 number.exponent.toNat
  let scaled := value.natAbs * Nat.pow 2 (-number.exponent).toNat
  number.isFinite && magnitude == scaled &&
    (magnitude == 0 || number.isNegative == decide (value < 0))

/-- Whether two numbers are the same key: zeros of both signs are, and what is no number is the same
as itself alone. -/
def same (left right : Binary64) : Bool :=
  left == right || (left.isZero && right.isZero)

/-! ## Rounding a fraction -/

/-- The integer nearest to `numerator / denominator`, a tie going to the even one. -/
def roundQuotient (numerator denominator : Nat) : Nat :=
  let quotient := numerator / denominator
  let twice := 2 * (numerator % denominator)
  if twice < denominator then quotient
  else if denominator < twice then quotient + 1
  else quotient + quotient % 2

/-- The largest `power` with `2 ^ power ≤ numerator / denominator`, for positive arguments. -/
def floorLog2 (numerator denominator : Nat) : Int :=
  let estimate : Int := (numerator.log2 : Int) - denominator.log2
  let reached :=
    if estimate ≥ 0 then denominator * Nat.pow 2 estimate.toNat ≤ numerator
    else denominator ≤ numerator * Nat.pow 2 (-estimate).toNat
  if reached then estimate else estimate - 1

/-- The number nearest to the fraction `numerator / denominator`, infinite if the fraction exceeds
every finite number. -/
def nearest (numerator denominator : Nat) : Binary64 :=
  if numerator = 0 then zero
  else
    let power := max (floorLog2 numerator denominator - 52) (-1074)
    let significand :=
      if power ≥ 0 then roundQuotient numerator (denominator * Nat.pow 2 power.toNat)
      else roundQuotient (numerator * Nat.pow 2 (-power).toNat) denominator
    let encoding := (power + 1074).toNat * 0x10000000000000 + significand
    if encoding < 0x7FF0000000000000 then ⟨encoding.toUInt64⟩ else infinity

/-- The number nearest to `digits · 10 ^ exponent`. -/
def ofDecimal (digits : Nat) (exponent : Int) : Binary64 :=
  if digits = 0 then zero
  else if (Nat.log2 digits : Int) * 30 / 100 + exponent > 400 then infinity
  else if (Nat.log2 digits : Int) * 31 / 100 + exponent < -400 then zero
  else if exponent ≥ 0 then nearest (digits * Nat.pow 10 exponent.toNat) 1
  else nearest digits (Nat.pow 10 (-exponent).toNat)

end Binary64

end ResourceGraph
