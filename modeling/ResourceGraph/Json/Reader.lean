import ResourceGraph.Number.Integer
import ResourceGraph.Text.Surrogate
import ResourceGraph.Value.Basic

/-!
# Reading JSON

A strict reader that reports where a text stops being JSON.  A reading step takes the characters
that are left and gives back a value with the characters after it, or a fault with the characters
that begin at the fault; the position of the fault then follows from how much of the text is left.

Beyond the standard the reader accepts `NaN`, `Infinity` and `-Infinity`.  A repeated key of an
object keeps its first place and its last value.
-/

namespace ResourceGraph.Json

/-- Why a text is not JSON. -/
inductive Fault where
  | byteOrderMark
  | expectingValue
  | expectingName
  | expectingColon
  | expectingComma
  | extraData
  | unterminatedString
  | controlCharacter
  | invalidEscape
  | invalidCodePoint
  /-- An integer with more digits than are converted. -/
  | longInteger (digits : Nat)
deriving DecidableEq, Repr

/-- A fault and the characters that begin where it lies. -/
structure Failure where
  fault : Fault
  rest : List Char

/-- Whether a character may stand between tokens. -/
def isSpace (c : Char) : Bool := c == ' ' || c == '\t' || c == '\n' || c == '\r'

/-- The characters after the blank ones in front. -/
def skipSpace (characters : List Char) : List Char := characters.dropWhile isSpace

/-- The characters after a word, if they begin with it. -/
def afterWord? : List Char → List Char → Option (List Char)
  | [], characters => some characters
  | expected :: word, c :: rest => if c == expected then afterWord? word rest else none
  | _ :: _, [] => none

/-! ## Strings -/

/-- The number that four hexadecimal digits write. -/
def hexQuad? (a b c d : Char) : Option Nat := do
  let a ← Number.hexadecimalDigit? a
  let b ← Number.hexadecimalDigit? b
  let c ← Number.hexadecimalDigit? c
  let d ← Number.hexadecimalDigit? d
  return ((a * 16 + b) * 16 + c) * 16 + d

/-- The character that a letter after a backslash stands for. -/
def escaped? (c : Char) : Option Char :=
  match c with
  | '"' => some '"'
  | '\\' => some '\\'
  | '/' => some '/'
  | 'b' => some '\x08'
  | 'f' => some '\x0c'
  | 'n' => some '\n'
  | 'r' => some '\r'
  | 't' => some '\t'
  | _ => none

/-- Reads the characters of a string up to its closing quote.  `start` begins at the opening quote,
and `reversed` holds the code points read so far, last one first. -/
def readString (start : List Char) (reversed : List Nat) :
    List Char → Except Failure (String × List Char)
  | [] => .error ⟨.unterminatedString, start⟩
  | '"' :: rest => .ok (String.ofList (Text.joinUnits reversed.reverse), rest)
  | ['\\'] => .error ⟨.unterminatedString, start⟩
  | '\\' :: 'u' :: a :: b :: c :: d :: rest =>
    match rest.isEmpty, hexQuad? a b c d with
    | false, some point => readString start (point :: reversed) rest
    | _, _ => .error ⟨.invalidCodePoint, 'u' :: a :: b :: c :: d :: rest⟩
  | '\\' :: 'u' :: rest => .error ⟨.invalidCodePoint, 'u' :: rest⟩
  | '\\' :: c :: rest =>
    match escaped? c with
    | some meaning => readString start (meaning.toNat :: reversed) rest
    | none => .error ⟨.invalidEscape, '\\' :: c :: rest⟩
  | c :: rest =>
    if c.toNat ≤ 0x1F then .error ⟨.controlCharacter, c :: rest⟩
    else readString start (c.toNat :: reversed) rest

/-! ## Numbers -/

/-- The number that ASCII digits write. -/
def digitsValue (digits : List Char) : Nat :=
  digits.foldl (fun value c => value * 10 + (c.toNat - 48)) 0

/-- Splits off the fraction digits after a point, if a digit follows the point. -/
def splitFraction (characters : List Char) : List Char × List Char :=
  match characters with
  | '.' :: rest =>
    if (rest.takeWhile Char.isDigit).isEmpty then ([], characters)
    else rest.span Char.isDigit
  | _ => ([], characters)

/-- Splits off an exponent, if it has a digit. -/
def splitExponent (characters : List Char) : Option Int × List Char :=
  let afterSign (negative : Bool) (rest : List Char) : Option Int × List Char :=
    let (digits, after) := rest.span Char.isDigit
    if digits.isEmpty then (none, characters)
    else
      let magnitude : Int := digitsValue digits
      (some (if negative then -magnitude else magnitude), after)
  match characters with
  | c :: rest =>
    if c == 'e' || c == 'E' then
      match rest with
      | '-' :: digits => afterSign true digits
      | '+' :: digits => afterSign false digits
      | digits => afterSign false digits
    else (none, characters)
  | [] => (none, characters)

/-- Reads the part of a number after its sign; `start` begins at the sign. -/
def readMagnitude (start : List Char) (negative : Bool) (characters : List Char) :
    Except Failure (Scalar × List Char) :=
  let split : Option (List Char × List Char) :=
    match characters with
    | '0' :: rest => some (['0'], rest)
    | c :: _ => if c.isDigit then some (characters.span Char.isDigit) else none
    | [] => none
  match split with
  | none => .error ⟨.expectingValue, start⟩
  | some (whole, afterWhole) =>
    let (fraction, afterFraction) := splitFraction afterWhole
    let (exponent, after) := splitExponent afterFraction
    if fraction.isEmpty && exponent.isNone then
      if whole.length > Number.integerDigitLimit then .error ⟨.longInteger whole.length, start⟩
      else
        let magnitude : Int := digitsValue whole
        .ok (.int (if negative then -magnitude else magnitude), after)
    else
      let magnitude := Binary64.ofDecimal (digitsValue (whole ++ fraction))
        (exponent.getD 0 - fraction.length)
      .ok (.float (if negative then magnitude.negate else magnitude), after)

/-- Reads a number. -/
def readNumber (characters : List Char) : Except Failure (Scalar × List Char) :=
  match characters with
  | '-' :: rest => readMagnitude characters true rest
  | _ => readMagnitude characters false characters

/-- The words that are values. -/
def wordValues : List (List Char × Scalar) := [
  ("null".toList, .null),
  ("true".toList, .bool true),
  ("false".toList, .bool false),
  ("NaN".toList, .float .notANumber),
  ("Infinity".toList, .float .infinity),
  ("-Infinity".toList, .float Binary64.infinity.negate)]

/-- Reads a word or a number. -/
def readScalar (characters : List Char) : Except Failure (Scalar × List Char) :=
  let word := wordValues.findSome? fun (word, value) =>
    (afterWord? word characters).map fun rest => (value, rest)
  match word with
  | some found => .ok found
  | none => readNumber characters

/-! ## Values -/

mutual

/-- Reads a value at the front of the characters.  The number of nested steps is bounded by
`steps`. -/
def readValue (steps : Nat) (characters : List Char) : Except Failure (Value × List Char) :=
  match steps with
  | 0 => .error ⟨.expectingValue, characters⟩
  | steps + 1 =>
    match characters with
    | '"' :: rest => do
      let (content, after) ← readString characters [] rest
      return (Value.text content, after)
    | '\x7b' :: rest =>
      match skipSpace rest with
      | '\x7d' :: after => .ok (.map [], after)
      | members => readMembers steps [] members
    | '[' :: rest =>
      match skipSpace rest with
      | ']' :: after => .ok (.list [], after)
      | items => readItems steps [] items
    | _ => do
      let (value, after) ← readScalar characters
      return (.scalar value, after)

/-- Reads the members of an object up to its closing brace; `reversed` holds the members read so
far, last one first. -/
def readMembers (steps : Nat) (reversed : List (Scalar × Value)) (characters : List Char) :
    Except Failure (Value × List Char) :=
  match steps with
  | 0 => .error ⟨.expectingValue, characters⟩
  | steps + 1 =>
    match characters with
    | '"' :: rest => do
      let (name, afterName) ← readString characters [] rest
      match skipSpace afterName with
      | ':' :: beforeValue => do
        let (value, afterValue) ← readValue steps (skipSpace beforeValue)
        let members := (Scalar.text name, value) :: reversed
        match skipSpace afterValue with
        | '\x7d' :: after => return (.map (Entries.ofList members.reverse), after)
        | ',' :: after => readMembers steps members (skipSpace after)
        | other => throw ⟨.expectingComma, other⟩
      | other => throw ⟨.expectingColon, other⟩
    | _ => throw ⟨.expectingName, characters⟩

/-- Reads the items of an array up to its closing bracket; `reversed` holds the items read so far,
last one first. -/
def readItems (steps : Nat) (reversed : List Value) (characters : List Char) :
    Except Failure (Value × List Char) :=
  match steps with
  | 0 => .error ⟨.expectingValue, characters⟩
  | steps + 1 => do
    let (value, afterValue) ← readValue steps characters
    let items := value :: reversed
    match skipSpace afterValue with
    | ']' :: after => return (.list items.reverse, after)
    | ',' :: after => readItems steps items (skipSpace after)
    | other => throw ⟨.expectingComma, other⟩

end

/-- Reads a whole text. -/
def readText (characters : List Char) : Except Failure Value := do
  if characters.head? = some '\uFEFF' then throw ⟨.byteOrderMark, characters⟩
  let (value, after) ← readValue (2 * characters.length + 2) (skipSpace characters)
  match skipSpace after with
  | [] => return value
  | other => throw ⟨.extraData, other⟩

/-! ## Faults with their positions -/

/-- A fault and its position in the text that has it. -/
structure Error where
  fault : Fault
  offset : Nat
  line : Nat
  column : Nat
deriving DecidableEq, Repr

/-- The error of a failure: the line and the column are counted from one, the offset from zero. -/
def Error.ofFailure (characters : List Char) (failure : Failure) : Error :=
  let passed := characters.take (characters.length - failure.rest.length)
  { fault := failure.fault
    offset := passed.length
    line := passed.count '\n' + 1
    column := (passed.reverse.takeWhile (· != '\n')).length + 1 }

/-- The words that name a fault. -/
def Fault.text : Fault → String
  | .byteOrderMark => "Unexpected UTF-8 BOM (decode using utf-8-sig)"
  | .expectingValue => "Expecting value"
  | .expectingName => "Expecting property name enclosed in double quotes"
  | .expectingColon => "Expecting ':' delimiter"
  | .expectingComma => "Expecting ',' delimiter"
  | .extraData => "Extra data"
  | .unterminatedString => "Unterminated string starting at"
  | .controlCharacter => "Invalid control character at"
  | .invalidEscape => "Invalid \\escape"
  | .invalidCodePoint => "Invalid \\uXXXX escape"
  | .longInteger digits => Number.longIntegerText (some digits)

/-- Whether an error lies in the form of the text, and not in a number too long to convert. -/
def Error.isSyntactic (error : Error) : Bool :=
  match error.fault with
  | .longInteger _ => false
  | _ => true

/-- The message of an error, with its position if it lies in the form of the text. -/
def Error.message (error : Error) : String :=
  if error.isSyntactic then
    s!"{error.fault.text}: line {error.line} column {error.column} (char {error.offset})"
  else error.fault.text

/-- Reads a text as JSON. -/
def read (content : String) : Except Error Value :=
  match readText content.toList with
  | .ok value => .ok value
  | .error failure => .error (Error.ofFailure content.toList failure)

end ResourceGraph.Json
