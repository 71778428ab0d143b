import ResourceGraph.Number.Shortest

/-!
# Numbers as text

How floating-point numbers are written in messages and output.
-/

namespace ResourceGraph.Number

/-- How floating-point numbers are written: positionally while the decimal point stands within
`leastPoint … greatestPoint` of the first digit, otherwise with an exponent of at least
`exponentWidth` digits. -/
structure FloatFormat where
  leastPoint : Int
  greatestPoint : Int
  exponentWidth : Nat
  infinity : String
  notANumber : String

/-- Numbers inside messages. -/
def messageFormat : FloatFormat := ⟨-3, 16, 2, "inf", "nan"⟩

/-- Numbers in printed documents. -/
def documentFormat : FloatFormat := ⟨-3, 16, 2, "Infinity", "NaN"⟩

/-- A text repeated. -/
def zeros (count : Nat) : String := String.ofList (List.replicate count '0')

/-- The text of a positive decimal: a point with a digit on each side in positional notation, none
after a single digit in exponent notation. -/
def Decimal.render (format : FloatFormat) (decimal : Decimal) : String :=
  let digits := toString decimal.digits
  let width : Int := digits.length
  if format.leastPoint ≤ decimal.point ∧ decimal.point ≤ format.greatestPoint then
    if decimal.point ≤ 0 then "0." ++ zeros (-decimal.point).toNat ++ digits
    else if width ≤ decimal.point then digits ++ zeros (decimal.point - width).toNat ++ ".0"
    else
      let before := decimal.point.toNat
      String.ofList (digits.toList.take before) ++ "." ++ String.ofList (digits.toList.drop before)
  else
    let exponent := decimal.point - 1
    let magnitude := toString exponent.natAbs
    let fraction := digits.toList.drop 1
    String.ofList (digits.toList.take 1) ++
      (if fraction.isEmpty then "" else "." ++ String.ofList fraction) ++
      (if exponent < 0 then "e-" else "e+") ++
      zeros (format.exponentWidth - magnitude.length) ++ magnitude

/-- The text of a floating-point number: the shortest one that reads back. -/
def floatText (format : FloatFormat) (number : Binary64) : String :=
  if number.isNotANumber then format.notANumber
  else
    let magnitude :=
      if !number.isFinite then format.infinity
      else if number.isZero then "0.0"
      else (shortest number).render format
    if number.isNegative then "-" ++ magnitude else magnitude

end ResourceGraph.Number
