import ResourceGraph.Number.Binary64

/-!
# The shortest decimal that reads back

Among the decimals that round to a given floating-point number, the shortest has the fewest digits;
of two with equally many digits the nearer one is taken, and a tie goes to the even last digit.
The search is exact: a number `m · 2 ^ e` is written as a fraction, the interval of the reals that
round to it is written over the same denominator, and for one, two, … seventeen digits the two
neighbours of the number on that decimal grid are tested.
-/

namespace ResourceGraph.Number

/-- A positive decimal `0.d₁d₂… · 10 ^ point`, its digits being those of `digits`. -/
structure Decimal where
  digits : Nat
  point : Int
deriving DecidableEq, Repr, Inhabited

/-- A positive fraction together with the interval of the reals that round to it, all over one
denominator. -/
structure RoundingInterval where
  low : Nat
  value : Nat
  high : Nat
  denominator : Nat
  closed : Bool
deriving Repr

/-- The rounding interval of a positive finite number.  Its lower half is narrower at the powers of
two, where the numbers below lie closer together. -/
def RoundingInterval.ofNumber (number : Binary64) : RoundingInterval :=
  let significand := number.significand
  let step := if number.fractionField = 0 ∧ number.exponentField > 1 then 1 else 2
  let up := Nat.pow 2 number.exponent.toNat
  let down := Nat.pow 2 (-number.exponent).toNat
  { low := (4 * significand - step) * up
    value := 4 * significand * up
    high := (4 * significand + 2) * up
    denominator := 4 * down
    closed := significand % 2 == 0 }

/-- The number of digits before the decimal point of `value / denominator`; not positive below
`1/10`. -/
def decimalPoint (value denominator : Nat) : Int :=
  if denominator ≤ value then (Nat.toDigits 10 (value / denominator)).length
  else
    let width := (Nat.toDigits 10 (denominator / value)).length
    if denominator ≤ value * Nat.pow 10 (width - 1) then 2 - (width : Int) else 1 - (width : Int)

/-- Whether `candidate · 10 ^ scale` lies in the interval. -/
def RoundingInterval.contains (interval : RoundingInterval) (candidate : Nat) (scale : Int) :
    Bool :=
  let left := candidate * Nat.pow 10 scale.toNat * interval.denominator
  let grow := Nat.pow 10 (-scale).toNat
  if interval.closed then interval.low * grow ≤ left && left ≤ interval.high * grow
  else interval.low * grow < left && left < interval.high * grow

/-- The best decimal with `width` digits in the interval, if there is one. -/
def RoundingInterval.decimalOfWidth? (interval : RoundingInterval) (point : Int) (width : Nat) :
    Option Nat :=
  let scale := point - width
  let numerator := interval.value * Nat.pow 10 (-scale).toNat
  let denominator := interval.denominator * Nat.pow 10 scale.toNat
  let below := numerator / denominator
  let remainder := 2 * (numerator % denominator)
  let nearer :=
    if remainder < denominator then below
    else if denominator < remainder then below + 1
    else below + below % 2
  let farther := if nearer = below then below + 1 else below
  if interval.contains nearer scale then some nearer
  else if interval.contains farther scale then some farther
  else none

/-- The shortest decimal with at least `width` digits, trying `tries` widths. -/
def RoundingInterval.search (interval : RoundingInterval) (point : Int) : Nat → Nat → Decimal
  | 0, width => ⟨interval.value / interval.denominator, width⟩
  | tries + 1, width =>
    match interval.decimalOfWidth? point width with
    | some digits => if digits = Nat.pow 10 width then ⟨1, point + 1⟩ else ⟨digits, point⟩
    | none => interval.search point tries (width + 1)

/-- The shortest decimal that rounds to a positive finite number. -/
def shortest (number : Binary64) : Decimal :=
  let interval := RoundingInterval.ofNumber number
  interval.search (decimalPoint interval.value interval.denominator) 17 1

end ResourceGraph.Number
