/-!
# The longest integer

Reading or writing a decimal integer takes time that grows with the square of its length, so an
integer with too many digits is refused.  In other bases integers are read whatever their length.
-/

namespace ResourceGraph.Number

/-- The greatest number of decimal digits of an integer that is converted. -/
def integerDigitLimit : Nat := 4300

/-- The least number with too many digits. -/
def leastLong : Nat := Nat.pow 10 integerDigitLimit

/-- Whether an integer has too many digits to be written. -/
def isTooLong (value : Int) : Bool := leastLong ≤ value.natAbs

/-- The words that refuse an integer with too many digits; when one is read, they count its
digits. -/
def longIntegerText (digits : Option Nat) : String :=
  let counted := (digits.map fun count => s!": value has {count} digits").getD ""
  s!"Exceeds the limit ({integerDigitLimit} digits) for integer string conversion" ++ counted ++
    "; use sys.set_int_max_str_digits() to increase the limit"

end ResourceGraph.Number
