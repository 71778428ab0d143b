import ResourceGraph.Number.Integer

/-!
# Faults of a YAML text

A text may break the notation, or it may hold a scalar that is declared to be a number, a date or a
truth value and is none.
-/

namespace ResourceGraph.Yaml

/-- Why a text, or a scalar in it, cannot be read. -/
inductive Fault where
  /-- The text breaks the notation. -/
  | malformed (reason : String)
  /-- An escape names a code point beyond the last one. -/
  | codePointTooLarge
  /-- An escape names a number too large for any code point. -/
  | codePointOverflow
  /-- An integer that cannot be read. -/
  | integer (fault : Number.IntegerFault)
  /-- A text is declared to be a number and is none. -/
  | noFloat (text : String)
  /-- A number is declared by an empty text. -/
  | emptyNumber
  /-- A number in base sixty has more parts than a floating-point number can weigh. -/
  | weightOverflow
  /-- A text is declared to be a truth value and is none. -/
  | noTruthValue
  /-- A text is declared to be a date and is none. -/
  | noDate
  /-- A mapping is declared to be a date. -/
  | compoundDate
  /-- A date or a time has a field out of its range. -/
  | outOfCalendar (reason : String)
deriving DecidableEq, Repr

namespace Fault

/-- Whether the notation is broken, and not only a scalar unreadable. -/
def isSyntactic : Fault → Bool
  | malformed _ => true
  | _ => false

/-- The words that explain a fault. -/
def message : Fault → String
  | malformed reason => reason
  | codePointTooLarge => "chr() arg not in range(0x110000)"
  | codePointOverflow => "a code point is too large"
  | integer fault => fault.message
  | noFloat text => "could not convert string to float: " ++ Text.quoted text
  | emptyNumber => "a number without digits"
  | weightOverflow => "a number with too many parts"
  | noTruthValue => "a truth value that is none"
  | noDate => "a date that is none"
  | compoundDate => "a date that is a mapping"
  | outOfCalendar reason => reason

end Fault

end ResourceGraph.Yaml
