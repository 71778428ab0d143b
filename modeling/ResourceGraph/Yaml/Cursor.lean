import ResourceGraph.Yaml.Fault

/-!
# Positions in a YAML text

Indentation is part of the notation, so the reader keeps, beside the characters that are left, the
line and the column it has reached.
-/

namespace ResourceGraph.Yaml

/-- Whether a character ends a line. -/
def isBreak (c : Char) : Bool :=
  c == '\n' || c == '\r' || c == '\u0085' || c == '\u2028' || c == '\u2029'

/-- Whether a character is a space or a tab. -/
def isSpaceOrTab (c : Char) : Bool := c == ' ' || c == '\t'

/-- Whether a character, or the end of the text, ends a line. -/
def endsLine (next : Option Char) : Bool := next.all isBreak

/-- Whether a character, or the end of the text, is a line break or a space. -/
def endsField (next : Option Char) : Bool := next.all fun c => isBreak c || c == ' '

/-- Whether a character, or the end of the text, is a line break, a space or a tab. -/
def endsWord (next : Option Char) : Bool := next.all fun c => isBreak c || isSpaceOrTab c

/-- Whether a character may occur in a text. -/
def isReadable (c : Char) : Bool :=
  let point := c.toNat
  point == 0x9 || point == 0xA || point == 0xD || (0x20 ≤ point && point ≤ 0x7E) ||
    point == 0x85 || (0xA0 ≤ point && point ≤ 0xFFFD) || 0x10000 ≤ point

/-- The characters that are left and the position they begin at. -/
structure Cursor where
  rest : List Char
  index : Nat
  line : Nat
  column : Nat
deriving Repr, Inhabited

namespace Cursor

/-- The cursor at the start of a text. -/
def start (characters : List Char) : Cursor := ⟨characters, 0, 0, 0⟩

/-- The next character. -/
def peek (cursor : Cursor) : Option Char := cursor.rest.head?

/-- The character some places further on. -/
def peekAt (cursor : Cursor) (distance : Nat) : Option Char := cursor.rest[distance]?

/-- The cursor after the next character.  A carriage return before a line feed ends no line of its
own, and a byte order mark takes no column. -/
def advance (cursor : Cursor) : Cursor :=
  match cursor.rest with
  | [] => cursor
  | c :: rest =>
    if isBreak c && !(c == '\r' && rest.head? == some '\n') then
      ⟨rest, cursor.index + 1, cursor.line + 1, 0⟩
    else
      ⟨rest, cursor.index + 1, cursor.line,
        if c == '\uFEFF' then cursor.column else cursor.column + 1⟩

/-- The cursor after the next `count` characters. -/
def pass (cursor : Cursor) : Nat → Cursor
  | 0 => cursor
  | count + 1 => cursor.advance.pass count

/-- The characters in front that satisfy a condition, and the cursor after them. -/
def takeWhile (cursor : Cursor) (condition : Char → Bool) : List Char × Cursor :=
  let taken := cursor.rest.takeWhile condition
  (taken, cursor.pass taken.length)

/-- The cursor after the characters in front that satisfy a condition. -/
def skipWhile (cursor : Cursor) (condition : Char → Bool) : Cursor :=
  (cursor.takeWhile condition).2

/-- The cursor after the spaces in front. -/
def skipSpaces (cursor : Cursor) : Cursor := cursor.skipWhile (· == ' ')

/-- The cursor at the end of the line. -/
def skipLine (cursor : Cursor) : Cursor := cursor.skipWhile fun c => !isBreak c

/-- The line break in front, in the form it has in the value, and the cursor after it. -/
def lineBreak (cursor : Cursor) : List Char × Cursor :=
  match cursor.rest with
  | '\r' :: '\n' :: _ => (['\n'], cursor.pass 2)
  | c :: _ =>
    if c == '\r' || c == '\n' || c == '\u0085' then (['\n'], cursor.advance)
    else if isBreak c then ([c], cursor.advance)
    else ([], cursor)
  | [] => ([], cursor)

/-- Whether the characters in front are three times `mark`, standing alone. -/
def atMarker (cursor : Cursor) (mark : Char) : Bool :=
  cursor.rest.take 3 == [mark, mark, mark] && endsWord (cursor.peekAt 3)

/-- Whether a document marker stands in front. -/
def atDocumentMarker (cursor : Cursor) : Bool := cursor.atMarker '-' || cursor.atMarker '.'

/-- A fault at the cursor. -/
def fault (cursor : Cursor) (reason : String) : Fault :=
  .malformed s!"{reason}: line {cursor.line + 1} column {cursor.column + 1}"

/-- The cursor after the rest of a line that holds nothing but a comment. -/
def endOfHeader (cursor : Cursor) : Except Fault Cursor :=
  let spaces := cursor.skipSpaces
  let after := if spaces.peek == some '#' then spaces.skipLine else spaces
  if endsLine after.peek then .ok after.lineBreak.2
  else .error (after.fault "expected a comment or a line break")

end Cursor

end ResourceGraph.Yaml
