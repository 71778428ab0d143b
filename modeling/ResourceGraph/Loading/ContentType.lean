import ResourceGraph.Number.Integer
import ResourceGraph.Text.Blank
import ResourceGraph.Text.Charset.Basic

/-!
# Content types

The type of a reply is followed by parameters, each behind a semicolon: a name, an equals sign and a
value, which may be quoted.  A value may be spread over several parameters, whose names end in an
asterisk with a number, and it may be encoded, which an asterisk at the end tells.  The parameter
named `charset` tells how the body is read.
-/

namespace ResourceGraph

/-- Why the parameters of a content type cannot be read. -/
inductive ContentTypeFault where
  /-- The parts of a value are numbered only in part. -/
  | partlyNumbered
  | number (fault : Number.IntegerFault)
  /-- The name of a charset holds a null character. -/
  | nullCharacter
deriving DecidableEq, Repr

/-- The words that explain a fault. -/
def ContentTypeFault.message : ContentTypeFault → String
  | partlyNumbered => "parts of a parameter are numbered only in part"
  | number fault => fault.message
  | nullCharacter => "embedded null character"

namespace ContentType

/-! ## Parameters -/

/-- A parameter as it is written. -/
structure Parameter where
  name : List Char
  value : List Char
deriving DecidableEq, Repr

/-- The parts between the semicolons that stand outside quotes; `reversed` holds the part that has
begun, last character first.  A quote behind a backslash opens and closes nothing. -/
def partsAfter (quoted : Bool) (reversed : List Char) : List Char → List (List Char)
  | [] => [reversed.reverse]
  | c :: rest =>
    if c = ';' && !quoted then reversed.reverse :: partsAfter false [] rest
    else partsAfter (quoted != (c = '"' && reversed.head? != some '\\')) (c :: reversed) rest

/-- Characters without the blank ones at their ends. -/
def trimmed (characters : List Char) : List Char := Text.stripWhile Text.isBlank characters

/-- Characters in which a backslash in front of some character is left out. -/
def withoutBackslashes (before : Char) : List Char → List Char
  | '\\' :: c :: rest =>
    if c = before then c :: withoutBackslashes before rest
    else '\\' :: withoutBackslashes before (c :: rest)
  | c :: rest => c :: withoutBackslashes before rest
  | [] => []

/-- A value without the quotes or the angle brackets around it. -/
def unquote (value : List Char) : List Char :=
  match value.head?, value.getLast? with
  | some '"', some '"' =>
    if 1 < value.length then
      withoutBackslashes '"' (withoutBackslashes '\\' (value.drop 1).dropLast)
    else value
  | some '<', some '>' => (value.drop 1).dropLast
  | _, _ => value

/-- The parameter that a part writes.  A name without a value keeps its capitals. -/
def Parameter.ofPart (part : List Char) : Parameter :=
  if part.contains '=' then
    { name := (trimmed (part.takeWhile (· != '='))).map Char.toLower
      value := unquote (trimmed ((part.dropWhile (· != '=')).drop 1)) }
  else { name := trimmed part, value := [] }

/-- The parameters of a content type, the type itself being the first of them. -/
def parameters (contentType : String) : List Parameter :=
  (partsAfter false [] contentType.toList).map .ofPart

/-! ## Values in parts -/

/-- A part of a value. -/
structure ValuePart where
  /-- The name of the parameter that the part belongs to. -/
  owner : List Char
  number : Option Nat
  text : List Char
  isEncoded : Bool
deriving DecidableEq, Repr

/-- The name and the number of a part in the name of a parameter, none if the parameter is no part
of a value. -/
def partName? (name : List Char) : Option (List Char × Option (List Char)) := do
  let isWord (c : Char) : Bool := c.isAlphanum || c == '_'
  let owner := name.takeWhile isWord
  let behind ← match name.dropWhile isWord with
    | '*' :: rest => some rest
    | _ => none
  if owner.isEmpty then none
  else if behind.isEmpty then return (owner, none)
  else
    let digits := behind.takeWhile Char.isDigit
    let rest := behind.dropWhile Char.isDigit
    if digits.isEmpty || !(rest.isEmpty || rest == ['*']) then none
    else return (owner, some digits)

/-- The part of a value that a parameter writes, none if it writes a value of its own. -/
def ValuePart.ofParameter? (parameter : Parameter) :
    Except ContentTypeFault (Option ValuePart) := do
  match partName? parameter.name with
  | none => return none
  | some (owner, digits) =>
    let number ← digits.mapM fun digits =>
      (Number.readInteger (String.ofList digits)).mapError .number
    return some
      { owner, number := number.map Int.toNat, text := parameter.value
        isEncoded := parameter.name.getLast? == some '*' }

/-- Whether a part comes before another one or could as well. -/
def ValuePart.precedes (first second : ValuePart) : Bool :=
  let firstNumber := first.number.getD 0
  let secondNumber := second.number.getD 0
  if firstNumber != secondNumber then firstNumber < secondNumber
  else if first.text != second.text then first.text < second.text
  else !first.isEncoded || second.isEncoded

/-- A value as it is told by parameters. -/
structure Value where
  text : List Char
  /-- The name of the charset of an encoded value. -/
  charset : Option (List Char)
deriving DecidableEq, Repr

/-- Characters in which two hexadecimal digits behind a percent sign write a character. -/
def decodePercents : List Char → List Char
  | '%' :: first :: second :: rest =>
    match Number.hexadecimalDigit? first, Number.hexadecimalDigit? second with
    | some high, some low => Char.ofNat (high * 16 + low) :: decodePercents rest
    | _, _ => '%' :: decodePercents (first :: second :: rest)
  | c :: rest => c :: decodePercents rest
  | [] => []

/-- The value that an encoded text gives: the charset and the language stand in front of it, each
with an apostrophe behind it. -/
def Value.ofEncoded (text : List Char) : Value :=
  let isOther (c : Char) : Bool := c != '\''
  let behindCharset := (text.dropWhile isOther).drop 1
  if behindCharset.contains '\'' then
    let named := text.takeWhile isOther
    { text := (behindCharset.dropWhile isOther).drop 1
      charset := some (if named.isEmpty then "us-ascii".toList else named) }
  else { text, charset := some "us-ascii".toList }

/-- The value that parts write. -/
def Value.ofParts (parts : List ValuePart) : Except ContentTypeFault Value := do
  let isNumbered (part : ValuePart) : Bool := part.number.isSome
  if parts.any isNumbered && !parts.all isNumbered then throw .partlyNumbered
  let sorted := parts.mergeSort ValuePart.precedes
  let text := sorted.flatMap fun part =>
    if part.isEncoded then decodePercents part.text else part.text
  return if parts.any ValuePart.isEncoded then .ofEncoded text else { text, charset := none }

/-- The values of parameters with their names: those that one parameter writes, then those in
parts. -/
def values (parameters : List Parameter) : Except ContentTypeFault (List (List Char × Value)) := do
  let own (parameter : Parameter) := (parameter.name, Value.mk parameter.value none)
  let entries ← (parameters.drop 1).mapM fun parameter =>
    return (parameter, ← ValuePart.ofParameter? parameter)
  let parts := entries.filterMap Prod.snd
  let spread ← (parts.map ValuePart.owner).eraseDups.mapM fun owner =>
    return (owner, ← Value.ofParts (parts.filter fun part => part.owner == owner))
  let single := entries.filterMap fun (parameter, part) =>
    if part.isNone then some (own parameter) else none
  return (parameters.take 1).map own ++ single ++ spread

/-! ## The charset -/

/-- The characters of a value.  A value that is no text in its charset is taken as it stands. -/
def Value.characters (value : Value) : Except ContentTypeFault (List Char) :=
  match value.charset with
  | none => .ok value.text
  | some name =>
    if name.contains '\x00' then .error .nullCharacter
    else
      let charset := Text.Charset.ofNameForShort? (String.ofList name)
      .ok ((charset.bind fun charset => charset.readSound? (value.text.map Char.toNat)).getD
        value.text)

/-- The name of the charset that a content type tells, if it consists of ASCII characters. -/
def charsetName? (contentType : String) : Except ContentTypeFault (Option String) := do
  let known ← values (parameters contentType)
  match known.find? fun entry => entry.1.map Char.toLower == "charset".toList with
  | none => return none
  | some (_, value) =>
    let characters ← value.characters
    return if characters.all fun c => c.toNat < 128 then some (String.ofList characters) else none

/-- The charset of a reply, the standard one unless another that is known is named. -/
def charset (contentType : String) : Except ContentTypeFault Text.Charset := do
  match ← charsetName? contentType with
  | none => return Text.Charset.standard
  | some name =>
    if name.toList.contains '\x00' then throw .nullCharacter
    return (Text.Charset.ofName? name).getD Text.Charset.standard

end ContentType

end ResourceGraph
