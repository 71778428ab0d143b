import ResourceGraph.Yaml.Token.Basic
import ResourceGraph.Yaml.Token.Scalar

/-!
# Names, tags and directives of a YAML text
-/

namespace ResourceGraph.Yaml

/-- Whether a character may occur in an anchor, a tag handle or the name of a directive. -/
def isNameCharacter (c : Char) : Bool := c.isAlphanum || c == '-' || c == '_'

/-- Whether a character may occur in the suffix of a tag. -/
def isTagCharacter (c : Char) : Bool :=
  c.isAlphanum || "-;/?:@&=+$,_.!~*'()[]%".toList.contains c

/-- Reads the name after the `&` or `*` of an anchor or an alias. -/
def readAnchorName (cursor : Cursor) : Except Fault (String × Cursor) :=
  let (name, after) := cursor.takeWhile isNameCharacter
  let ends := endsWord after.peek || after.peek.any fun c => "?:,]\x7d%@\x60".toList.contains c
  if name.isEmpty || !ends then .error (after.fault "expected the name of an anchor")
  else .ok (String.ofList name, after)

/-! ## Tags -/

/-- Reads a handle: `!`, or a name between two exclamation marks. -/
def readHandle (cursor : Cursor) : Except Fault (String × Cursor) :=
  match cursor.rest with
  | '!' :: ' ' :: _ => .ok ("!", cursor.advance)
  | '!' :: _ =>
    let (name, after) := cursor.advance.takeWhile isNameCharacter
    if after.peek == some '!' then
      .ok (String.ofList ('!' :: name ++ ['!']), after.advance)
    else .error (after.fault "expected the end of a tag handle")
  | _ => .error (cursor.fault "expected a tag handle")

/-- The bytes of a run of escaped bytes, and the cursor after it. -/
def readEscapedBytes : Nat → List UInt8 → Cursor → Except Fault (List UInt8 × Cursor)
  | 0, reversed, cursor => .ok (reversed.reverse, cursor)
  | steps + 1, reversed, cursor =>
    match cursor.rest with
    | '%' :: high :: low :: _ =>
      match hexValue? [high, low] with
      | some byte => readEscapedBytes steps (byte.toUInt8 :: reversed) (cursor.pass 3)
      | none => .error (cursor.fault "expected hexadecimal digits")
    | '%' :: _ => .error (cursor.fault "expected hexadecimal digits")
    | _ => .ok (reversed.reverse, cursor)

/-- Reads the characters of a tag suffix, escaped bytes being decoded. -/
def readSuffixCharacters : Nat → List Char → Cursor → Except Fault (List Char × Cursor)
  | 0, text, cursor => .ok (text, cursor)
  | steps + 1, text, cursor =>
    match cursor.peek with
    | some '%' => do
      let (bytes, after) ← readEscapedBytes cursor.rest.length [] cursor
      match String.fromUTF8? ⟨bytes.toArray⟩ with
      | some decoded => readSuffixCharacters steps (text ++ decoded.toList) after
      | none => throw (cursor.fault "escaped bytes that are no text")
    | some c =>
      if isTagCharacter c then readSuffixCharacters steps (text ++ [c]) cursor.advance
      else .ok (text, cursor)
    | none => .ok (text, cursor)

/-- Reads a tag suffix, which may not be empty. -/
def readSuffix (cursor : Cursor) : Except Fault (String × Cursor) := do
  if !cursor.peek.any isTagCharacter then throw (cursor.fault "expected a tag")
  let (text, after) ← readSuffixCharacters cursor.rest.length [] cursor
  return (String.ofList text, after)

/-- Reads a tag, which begins at its exclamation mark. -/
def readTag (cursor : Cursor) : Except Fault (Tag × Cursor) := do
  let (tag, after) ←
    if cursor.peekAt 1 == some '<' then do
      let (suffix, after) ← readSuffix (cursor.pass 2)
      if after.peek != some '>' then throw (after.fault "expected the end of a tag")
      pure (Tag.mk none suffix, after.advance)
    else if endsWord (cursor.peekAt 1) then
      pure (Tag.mk none "!", cursor.advance)
    else do
      let word := (cursor.advance.rest.takeWhile fun c => !endsField (some c))
      let (handle, afterHandle) ←
        if word.contains '!' then readHandle cursor else pure ("!", cursor.advance)
      let (suffix, after) ← readSuffix afterHandle
      pure (Tag.mk (some handle) suffix, after)
  if endsField after.peek then return (tag, after)
  else throw (after.fault "expected a space after a tag")

/-! ## Directives -/

/-- Reads a decimal number. -/
def readVersionNumber (cursor : Cursor) : Except Fault (Nat × Cursor) :=
  let (digits, after) := cursor.takeWhile Char.isDigit
  if digits.isEmpty then .error (cursor.fault "expected a digit")
  else
    match Number.readInteger (String.ofList digits) with
    | .ok value => .ok (value.toNat, after)
    | .error fault => .error (.integer fault)

/-- Reads the version after the name of its directive. -/
def readVersion (cursor : Cursor) : Except Fault (Directive × Cursor) := do
  let (major, afterMajor) ← readVersionNumber cursor.skipSpaces
  if afterMajor.peek != some '.' then throw (afterMajor.fault "expected a point")
  let (_, after) ← readVersionNumber afterMajor.advance
  if endsField after.peek then return (.version major, after)
  else throw (after.fault "expected the end of a version")

/-- Reads the handle and the text that it stands for after the name of their directive. -/
def readTagPrefix (cursor : Cursor) : Except Fault (Directive × Cursor) := do
  let (handle, afterHandle) ← readHandle cursor.skipSpaces
  if afterHandle.peek != some ' ' then throw (afterHandle.fault "expected a space")
  let (text, after) ← readSuffix afterHandle.skipSpaces
  if endsField after.peek then return (.tagPrefix handle text, after)
  else throw (after.fault "expected the end of a tag")

/-- Reads a directive, which begins at its percent sign, with the rest of its line. -/
def readDirective (cursor : Cursor) : Except Fault (Directive × Cursor) := do
  let (name, afterName) := cursor.advance.takeWhile isNameCharacter
  if name.isEmpty || !endsField afterName.peek then
    throw (afterName.fault "expected the name of a directive")
  let (directive, after) ←
    match String.ofList name with
    | "YAML" => readVersion afterName
    | "TAG" => readTagPrefix afterName
    | _ => pure (.unknown, afterName.skipLine)
  return (directive, ← after.endOfHeader)

end ResourceGraph.Yaml
