import ResourceGraph.Text.Base64
import ResourceGraph.Text.Blank
import ResourceGraph.Text.Digit
import ResourceGraph.Value.Basic
import ResourceGraph.Yaml.Cursor
import ResourceGraph.Json.Reader

/-!
# The kinds of YAML scalars

A plain scalar is read as the kind whose form it has: a truth value, a number, null, a date, or text
when no form fits.  A tag may ask for a kind instead, and then the text is converted whether it has
the form or not.
-/

namespace ResourceGraph.Yaml

/-- The kind of a node. -/
inductive Kind where
  | null
  | bool
  | int
  | float
  | timestamp
  | text
  | list
  | map
  /-- A list of mappings with one entry each, which stands for their entries. -/
  | pairs
  /-- A mapping that stands for its keys. -/
  | members
  /-- Bytes, written in base 64. -/
  | bytes
  /-- The key `<<`, whose value is merged into the mapping. -/
  | merge
  /-- The key `=`. -/
  | defaultValue
  | unknown
deriving DecidableEq, Repr, Inhabited

/-- The start of the tags of the standard kinds. -/
def standardTags : String := "tag:yaml.org,2002:"

/-- The standard kinds and the ends of their tags. -/
def namedKinds : List (String × Kind) := [
  ("null", .null), ("bool", .bool), ("int", .int), ("float", .float),
  ("timestamp", .timestamp), ("str", .text), ("seq", .list), ("map", .map),
  ("pairs", .pairs), ("omap", .pairs), ("set", .members), ("binary", .bytes), ("merge", .merge),
  ("value", .defaultValue)]

/-- The kind that a full tag names. -/
def Kind.ofTag (tag : String) : Kind :=
  ((namedKinds.find? fun (name, _) => tag == standardTags ++ name).map Prod.snd).getD .unknown

/-! ## Forms -/

/-- The words that are truth values, in lower case. -/
def truthWords : List (String × Bool) := [
  ("yes", true), ("true", true), ("on", true), ("no", false), ("false", false), ("off", false)]

/-- Whether a word is written in lower case, in capitals, or with one capital in front. -/
def hasCasing (lower word : String) : Bool :=
  word == lower || word == lower.toUpper || word == lower.capitalize

/-- Whether a text has the form of a truth value. -/
def isTruthForm (text : String) : Bool := truthWords.any fun (word, _) => hasCasing word text

/-- Whether a text has the form of null. -/
def isNullForm (text : String) : Bool := text == "" || text == "~" || hasCasing "null" text

/-- Whether a character is a digit or an underscore between digits. -/
def isSpacedDigit (c : Char) : Bool := c.isDigit || c == '_'

/-- Whether characters are digits of a base, spaced by underscores, at least one. -/
def areDigits (isDigit : Char → Bool) (digits : List Char) : Bool :=
  !digits.isEmpty && digits.all fun c => isDigit c || c == '_'

/-- Whether a part of a number in base sixty is less than sixty, in one or two digits. -/
def isSixtieth : List Char → Bool
  | [digit] => digit.isDigit
  | [high, low] => '0' ≤ high && high ≤ '5' && low.isDigit
  | _ => false

/-- The parts of characters between colons. -/
def splitColons (characters : List Char) : List (List Char) := characters.splitOn ':'

/-- Whether characters are a sign-free integer. -/
def isMagnitudeForm (digits : List Char) : Bool :=
  match digits with
  | '0' :: 'b' :: rest => areDigits (fun c => c == '0' || c == '1') rest
  | '0' :: 'x' :: rest => areDigits (fun c => (Number.hexadecimalDigit? c).isSome) rest
  | ['0'] => true
  | '0' :: rest => areDigits (fun c => '0' ≤ c && c ≤ '7') rest
  | first :: _ =>
    let parts := splitColons digits
    first.isDigit && (parts.headD []).all isSpacedDigit && (parts.drop 1).all isSixtieth
  | [] => false

/-- Whether a text has the form of an integer. -/
def isIntForm (text : String) : Bool := isMagnitudeForm (Number.afterSign text.toList)

/-- Whether characters are nothing or an exponent with a sign. -/
def isExponentForm : List Char → Bool
  | [] => true
  | mark :: sign :: digits =>
    (mark == 'e' || mark == 'E') && (sign == '+' || sign == '-') &&
      !digits.isEmpty && digits.all Char.isDigit
  | _ => false

/-- Whether characters are a decimal fraction without a sign. -/
def isFractionForm (digits : List Char) : Bool :=
  match digits with
  | first :: _ =>
    first.isDigit &&
      match digits.dropWhile isSpacedDigit with
      | '.' :: rest => isExponentForm (rest.dropWhile isSpacedDigit)
      | _ => false
  | [] => false

/-- Whether characters are a fraction in base sixty without a sign. -/
def isSixtyFractionForm (digits : List Char) : Bool :=
  match digits.splitOn '.' with
  | [whole, fraction] =>
    let parts := splitColons whole
    whole.head?.any Char.isDigit && (parts.headD []).all isSpacedDigit && 2 ≤ parts.length &&
      (parts.drop 1).all isSixtieth && fraction.all isSpacedDigit
  | _ => false

/-- Whether a text has the form of a floating-point number. -/
def isFloatForm (text : String) : Bool :=
  let characters := text.toList
  let unsigned := Number.afterSign characters
  let startsWithPoint :=
    match characters with
    | '.' :: first :: rest => first.isDigit && isExponentForm (rest.dropWhile isSpacedDigit)
    | _ => false
  isFractionForm unsigned || startsWithPoint || isSixtyFractionForm unsigned ||
    [".inf", ".Inf", ".INF"].contains (String.ofList unsigned) ||
    [".nan", ".NaN", ".NAN"].contains text

/-! ## Dates -/

/-- The fields of a date with an optional time and offset, as they are written. -/
structure DateFields where
  year : Nat
  month : Nat
  day : Nat
  /-- The width of the month and of the day. -/
  widths : Nat × Nat
  time : Option (Nat × Nat × Nat)
  fraction : List Char
  /-- Whether universal time is named. -/
  universal : Bool
  /-- The offset: whether it is negative, its hours and its minutes. -/
  offset : Option (Bool × Nat × Nat)

/-- Reads between `least` and `greatest` digits. -/
def takeDigits? (least greatest : Nat) (characters : List Char) : Option (List Char × List Char) :=
  let digits := (characters.take greatest).takeWhile Char.isDigit
  if least ≤ digits.length then some (digits, characters.drop digits.length) else none

/-- Reads one expected character. -/
def expect? (c : Char) : List Char → Option (List Char)
  | first :: rest => if first == c then some rest else none
  | [] => none

/-- Reads the offset at the end of a date: nothing, `Z`, or hours and minutes with a sign. -/
def readOffset? (characters : List Char) : Option (Bool × Option (Bool × Nat × Nat)) :=
  match characters.dropWhile isSpaceOrTab with
  | [] => if characters.isEmpty then some (false, none) else none
  | ['Z'] => some (true, none)
  | sign :: rest => do
    if sign != '+' && sign != '-' then none
    let (hours, after) ← takeDigits? 1 2 rest
    let minutes ←
      match after with
      | [] => some []
      | ':' :: digits => do
        let (minutes, ending) ← takeDigits? 2 2 digits
        if ending.isEmpty then some minutes else none
      | _ => none
    return (false, some (sign == '-', Json.digitsValue hours, Json.digitsValue minutes))

/-- Reads the time after the date: nothing, or a `T` or spaces and then hours, minutes and
seconds. -/
def readTime? (fields : DateFields) (characters : List Char) : Option DateFields :=
  let afterGap :=
    match characters with
    | 'T' :: rest => rest
    | 't' :: rest => rest
    | rest => rest.dropWhile isSpaceOrTab
  if characters.isEmpty then some fields
  else if afterGap.length == characters.length then none
  else do
    let (hour, rest) ← takeDigits? 1 2 afterGap
    let (minute, rest) ← takeDigits? 2 2 (← expect? ':' rest)
    let (second, rest) ← takeDigits? 2 2 (← expect? ':' rest)
    let (fraction, rest) :=
      match rest with
      | '.' :: digits => digits.span Char.isDigit
      | _ => ([], rest)
    let (universal, offset) ← readOffset? rest
    return { fields with
      time := some (Json.digitsValue hour, Json.digitsValue minute, Json.digitsValue second)
      fraction, universal, offset }

/-- Reads a date with an optional time. -/
def readDate? (text : String) : Option DateFields := do
  let (year, rest) ← takeDigits? 4 4 text.toList
  let (month, rest) ← takeDigits? 1 2 (← expect? '-' rest)
  let (day, rest) ← takeDigits? 1 2 (← expect? '-' rest)
  readTime?
    { year := Json.digitsValue year, month := Json.digitsValue month, day := Json.digitsValue day
      widths := (month.length, day.length), time := none, fraction := [], universal := false
      offset := none }
    rest

/-- Whether a text has the form of a date: month and day have two digits when no time follows. -/
def isDateForm (text : String) : Bool :=
  match readDate? text with
  | some fields => fields.time.isSome || fields.widths == (2, 2)
  | none => false

/-- The kind of a text by its form. -/
def Kind.ofLine (text : String) : Kind :=
  if isTruthForm text then .bool
  else if isFloatForm text then .float
  else if isIntForm text then .int
  else if text == "<<" then .merge
  else if isNullForm text then .null
  else if isDateForm text then .timestamp
  else if text == "=" then .defaultValue
  else if text == "!" || text == "&" || text == "*" then .unknown
  else .text

/-- A text without the line break at its end. -/
def withoutLastBreak (text : String) : String :=
  if text.toList.getLast? == some '\n' then String.ofList text.toList.dropLast else text

/-- The kind that a scalar has by its form; a line break at its end is passed over, unless nothing
else is there. -/
def Kind.ofForm (text : String) : Kind :=
  if text == "\n" then .text else .ofLine (withoutLastBreak text)

/-! ## Conversion -/

/-- The truth value that a text names. -/
def truthOf (text : String) : Except Fault Scalar :=
  match truthWords.lookup (Text.lower text) with
  | some value => .ok (.bool value)
  | none => .error .noTruthValue

/-- The number that the parts between colons write in base sixty. -/
def sexagesimal (parts : List Int) : Int := parts.foldl (fun value part => value * 60 + part) 0

/-- The integer that characters write in a base. -/
def intIn (base : Nat) (characters : List Char) : Except Fault Int :=
  (Number.readIntegerIn base (String.ofList characters)).mapError .integer

/-- The integer that a text writes: the form of its start tells the base. -/
def intOf (text : String) : Except Fault Scalar := do
  let characters := text.toList.filter (· != '_')
  if characters.isEmpty then throw .emptyNumber
  let magnitude : Int ←
    match Number.afterSign characters with
    | ['0'] => pure 0
    | '0' :: 'b' :: digits => intIn 2 digits
    | '0' :: 'x' :: digits => intIn 16 digits
    | '0' :: digits => intIn 8 ('0' :: digits)
    | [] => throw .emptyNumber
    | digits => do pure (sexagesimal (← (splitColons digits).mapM (intIn 10)))
  return .int (if characters.head? = some '-' then -magnitude else magnitude)

/-- A magnitude with the sign in front of a text. -/
def signedFloat (characters : List Char) (magnitude : Binary64) : Binary64 :=
  if characters.head? == some '-' then magnitude.negate else magnitude

/-- A character with a digit of another script written as a common one. -/
def commonDigit (c : Char) : Char :=
  ((Text.digitValue? c).map fun digit => Char.ofNat (digit + 48)).getD c

/-- The floating-point number that decimal digits with a point and an exponent write: blank
characters around it and a sign are accepted, and so are the names of infinity and of no number. -/
def decimalOf (text : List Char) : Except Fault Binary64 :=
  let trimmed := Text.stripWhile Text.surroundsNumber (text.map commonDigit)
  let unsigned := Number.afterSign trimmed
  let (whole, rest) := unsigned.span Char.isDigit
  let (fraction, rest) :=
    match rest with
    | '.' :: digits => digits.span Char.isDigit
    | _ => ([], rest)
  let (exponent, rest) := Json.splitExponent rest
  if ["inf", "infinity"].contains (String.ofList unsigned) then
    .ok (signedFloat trimmed Binary64.infinity)
  else if String.ofList unsigned == "nan" then .ok (signedFloat trimmed Binary64.notANumber)
  else if (whole.isEmpty && fraction.isEmpty) || !rest.isEmpty then
    .error (.noFloat (String.ofList text))
  else .ok (signedFloat trimmed (Binary64.ofDecimal (Json.digitsValue (whole ++ fraction))
    (exponent.getD 0 - fraction.length)))

/-- The number that parts write in base sixty, the last part first and counting `weight`.  Every
weight must be within the range of the numbers. -/
def sexagesimalFloat (value : Binary64) (weight : Nat) :
    List Binary64 → Except Fault Binary64
  | [] => .ok value
  | part :: rest =>
    let factor := Binary64.ofDecimal weight 0
    if factor.isFinite then sexagesimalFloat (value.add (part.mul factor)) (weight * 60) rest
    else .error .weightOverflow

/-- The floating-point number that a text writes.  What is spelled `.nan` is one and the same; any
other way to a number that is none leads to one of its own, told apart by its `serial`; it keeps the
sign that it had before the sign in front of the whole. -/
def floatOf (serial : Nat) (text : String) : Except Fault Scalar := do
  let characters := (Text.lower (String.ofList (text.toList.filter (· != '_')))).toList
  if characters.isEmpty then throw .emptyNumber
  let unsigned := Number.afterSign characters
  if String.ofList unsigned == ".nan" then return .float .notANumber
  let magnitude ←
    if String.ofList unsigned == ".inf" then pure Binary64.infinity
    else if unsigned.contains ':' then do
      sexagesimalFloat .zero 1 (← (splitColons unsigned).mapM decimalOf).reverse
    else decimalOf unsigned
  if magnitude.isNotANumber then return .float (magnitude.withSerial serial)
  return .float (signedFloat characters magnitude)

/-- The fault of a date or a time with a field out of its range. -/
def calendarFault? (fields : DateFields) : Option String :=
  let (hour, minute, second) := fields.time.getD (0, 0, 0)
  if fields.year == 0 then some "year 0 is out of range"
  else if fields.month < 1 || 12 < fields.month then some "month must be in 1..12"
  else if fields.day < 1 || CalendarDate.daysInMonth fields.year fields.month < fields.day then
    some "day is out of range for month"
  else if 23 < hour then some "hour must be in 0..23"
  else if 59 < minute then some "minute must be in 0..59"
  else if 59 < second then some "second must be in 0..59"
  else none

/-- A time span as days and seconds, the days taking the sign. -/
def spanText (minutes : Int) : String :=
  let days := Int.fdiv minutes 1440
  let seconds := Int.fmod minutes 1440 * 60
  let parts := (if days == 0 then [] else [s!"days={days}"]) ++
    (if seconds == 0 then [] else [s!"seconds={seconds}"])
  "datetime.timedelta(" ++ (if parts.isEmpty then "0" else ", ".intercalate parts) ++ ")"

/-- The offset from universal time in minutes, which must be less than a day. -/
def offsetOf (fields : DateFields) : Except Fault (Option Int) :=
  match fields.offset with
  | some (negative, hours, minutes) =>
    let magnitude : Int := hours * 60 + minutes
    let offset := if negative then -magnitude else magnitude
    if magnitude < 1440 then .ok (some offset)
    else .error (.outOfCalendar
      ("offset must be a timedelta strictly between -timedelta(hours=24) and timedelta(hours=24), "
        ++ "not " ++ spanText offset ++ "."))
  | none => .ok (if fields.universal then some 0 else none)

/-- The date or the moment that a text writes. -/
def dateOf (text : String) : Except Fault Scalar := do
  let some fields := readDate? (withoutLastBreak text) | throw .noDate
  let offset ← offsetOf fields
  if let some reason := calendarFault? fields then throw (.outOfCalendar reason)
  let date : CalendarDate := ⟨fields.year, fields.month, fields.day⟩
  match fields.time with
  | none => return .date date
  | some (hour, minute, second) =>
    let digits := (fields.fraction ++ List.replicate 6 '0').take 6
    return .moment ⟨date, ⟨hour, minute, second, Json.digitsValue digits⟩, offset⟩

/-- The bytes that a text writes. -/
def bytesOf (text : String) : Except Fault Scalar :=
  match Text.Base64.decode? text.toList with
  | some bytes => .ok (.bytes bytes)
  | none => .error (.malformed "bytes in base 64 expected")

/-- The scalar of a kind that a text writes, `serial` being the number of the node. -/
def Kind.scalarOf (kind : Kind) (serial : Nat) (text : String) : Except Fault Scalar :=
  match kind with
  | .null => .ok .null
  | .bool => truthOf text
  | .int => intOf text
  | .float => floatOf serial text
  | .timestamp => dateOf text
  | .text => .ok (.text text)
  | .bytes => bytesOf text
  | _ => .error (.malformed "a tag without a meaning")

/-- Whether values of a kind have parts. -/
def Kind.hasParts : Kind → Bool
  | .list | .map | .pairs | .members => true
  | _ => false

end ResourceGraph.Yaml
