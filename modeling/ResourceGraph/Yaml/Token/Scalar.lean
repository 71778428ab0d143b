import ResourceGraph.Yaml.Cursor
import ResourceGraph.Json.Reader

/-!
# Scalars of a YAML text

The three ways of writing a scalar: plain, in quotes, and as a block of lines.  In each of them a
single line break is folded into a space, unless the block keeps its line breaks.
-/

namespace ResourceGraph.Yaml

/-! ## Plain scalars -/

/-- The characters that end a plain scalar inside brackets. -/
def isFlowIndicator (c : Char) : Bool :=
  c == ',' || c == '[' || c == ']' || c == '\x7b' || c == '\x7d'

/-- The number of characters before the first one that a plain scalar cannot hold. -/
def plainRun (inFlow : Bool) : List Char → Nat
  | [] => 0
  | c :: rest =>
    let endsKey := c == ':' && (endsWord rest.head? || (inFlow && rest.head?.any isFlowIndicator))
    let closes := inFlow && (c == '?' || isFlowIndicator c)
    if endsWord (some c) || endsKey || closes then 0 else plainRun inFlow rest + 1

/-- The spaces and line breaks between two runs of a plain scalar. -/
structure PlainGap where
  /-- The characters that the gap contributes to the value; nothing before a document marker. -/
  text : List Char
  cursor : Cursor
  /-- Whether the gap holds a line break. -/
  breaksLine : Bool

/-- Collects the line breaks of a gap, last one first; none if a document marker is met. -/
def plainBreaks : Nat → List Char → Cursor → Option (List Char) × Cursor
  | 0, reversed, cursor => (some reversed, cursor)
  | steps + 1, reversed, cursor =>
    match cursor.peek with
    | some c =>
      if c == ' ' then plainBreaks steps reversed cursor.advance
      else if isBreak c then
        let (lineBreak, after) := cursor.lineBreak
        if after.atDocumentMarker then (none, after)
        else plainBreaks steps (lineBreak ++ reversed) after
      else (some reversed, cursor)
    | none => (some reversed, cursor)

/-- The value of a folded line break: a space, unless more breaks follow or it is a special one. -/
def foldBreak (lineBreak further : List Char) : List Char :=
  (if lineBreak != ['\n'] then lineBreak else if further.isEmpty then [' '] else []) ++ further

/-- The gap after a run of a plain scalar. -/
def plainGap (cursor : Cursor) : PlainGap :=
  let (spaces, afterSpaces) := cursor.takeWhile (· == ' ')
  if afterSpaces.peek.any isBreak then
    let (lineBreak, after) := afterSpaces.lineBreak
    if after.atDocumentMarker then ⟨[], after, true⟩
    else
      match plainBreaks after.rest.length [] after with
      | (none, further) => ⟨[], further, true⟩
      | (some reversed, further) => ⟨foldBreak lineBreak reversed.reverse, further, true⟩
  else ⟨spaces, afterSpaces, false⟩

/-- A scalar that has been read, the cursor after it and the spaces behind it, and whether a line
break was passed there. -/
structure PlainScalar where
  text : List Char
  cursor : Cursor
  breaksLine : Bool

/-- Reads the runs of a plain scalar; a continuation line begins at column `indent` or further
on. -/
def readPlain (inFlow : Bool) (indent : Int) :
    Nat → List Char → List Char → Bool → Cursor → PlainScalar
  | 0, text, _, breaksLine, cursor => ⟨text, cursor, breaksLine⟩
  | steps + 1, text, gap, breaksLine, cursor =>
    let run := plainRun inFlow cursor.rest
    if cursor.peek == some '#' || run == 0 then ⟨text, cursor, breaksLine⟩
    else
      let extended := text ++ gap ++ cursor.rest.take run
      let next := plainGap (cursor.pass run)
      let stops := next.text.isEmpty || next.cursor.peek == some '#' ||
        (!inFlow && (next.cursor.column : Int) < indent)
      if stops then ⟨extended, next.cursor, next.breaksLine⟩
      else readPlain inFlow indent steps extended next.text next.breaksLine next.cursor

/-! ## Quoted scalars -/

/-- The character that a letter after a backslash stands for. -/
def escapeMeaning? (c : Char) : Option Char :=
  match c with
  | '0' => some '\x00'
  | 'a' => some '\x07'
  | 'b' => some '\x08'
  | 't' => some '\t'
  | '\t' => some '\t'
  | 'n' => some '\n'
  | 'v' => some '\x0b'
  | 'f' => some '\x0c'
  | 'r' => some '\r'
  | 'e' => some '\x1b'
  | ' ' => some ' '
  | '"' => some '"'
  | '\\' => some '\\'
  | '/' => some '/'
  | 'N' => some '\u0085'
  | '_' => some '\u00a0'
  | 'L' => some '\u2028'
  | 'P' => some '\u2029'
  | _ => none

/-- The number of hexadecimal digits after a letter that announces a code point. -/
def escapeWidth? (c : Char) : Option Nat :=
  match c with
  | 'x' => some 2
  | 'u' => some 4
  | 'U' => some 8
  | _ => none

/-- The number that hexadecimal digits write. -/
def hexValue? (digits : List Char) : Option Nat :=
  digits.foldlM (fun value c => (Number.hexadecimalDigit? c).map (value * 16 + ·)) 0

/-- The character of an escaped code point. -/
def escapedCharacter (point : Nat) : Except Fault Char :=
  if point < 0x110000 then .ok (Text.characterOf point)
  else if point < 0x80000000 then .error .codePointTooLarge
  else .error .codePointOverflow

/-- The empty lines in front, as line breaks, last one first. -/
def quotedBreaks : Nat → List Char → Cursor → Except Fault (List Char × Cursor)
  | 0, reversed, cursor => .ok (reversed, cursor)
  | steps + 1, reversed, cursor =>
    if cursor.atDocumentMarker then .error (cursor.fault "a document marker inside quotes")
    else
      let after := cursor.skipWhile isSpaceOrTab
      if after.peek.any isBreak then
        let (lineBreak, further) := after.lineBreak
        quotedBreaks steps (lineBreak ++ reversed) further
      else .ok (reversed, after)

/-- Reads the characters after a backslash; the value is given last character first. -/
def readEscape (cursor : Cursor) : Except Fault (List Char × Cursor) := do
  let some c := cursor.peek | throw (cursor.fault "an escape at the end of the text")
  if let some meaning := escapeMeaning? c then return ([meaning], cursor.advance)
  else if let some width := escapeWidth? c then
    let digits := cursor.advance.rest.take width
    let some point := hexValue? digits | throw (cursor.fault "expected hexadecimal digits")
    if digits.length < width then throw (cursor.fault "expected hexadecimal digits")
    let character ← escapedCharacter point
    return ([character], cursor.advance.pass width)
  else if isBreak c then quotedBreaks cursor.rest.length [] cursor.lineBreak.2
  else throw (cursor.fault "unknown escape")

/-- Reads the characters of a quoted scalar up to its closing quote; `reversed` holds those read so
far, last one first. -/
def readQuoted (double : Bool) : Nat → List Char → Cursor → Except Fault (List Char × Cursor)
  | 0, _, cursor => .error (cursor.fault "unclosed quotes")
  | steps + 1, reversed, cursor =>
    match cursor.peek with
    | none => .error (cursor.fault "unclosed quotes")
    | some c =>
      if double && c == '"' then .ok (reversed.reverse, cursor.advance)
      else if !double && c == '\'' then
        if cursor.peekAt 1 == some '\'' then
          readQuoted double steps ('\'' :: reversed) (cursor.pass 2)
        else .ok (reversed.reverse, cursor.advance)
      else if double && c == '\\' then do
        let (characters, after) ← readEscape cursor.advance
        readQuoted double steps (characters ++ reversed) after
      else if isSpaceOrTab c || isBreak c then
        let (spaces, afterSpaces) := cursor.takeWhile isSpaceOrTab
        if afterSpaces.peek.any isBreak then do
          let (lineBreak, after) := afterSpaces.lineBreak
          let (breaks, further) ← quotedBreaks after.rest.length [] after
          readQuoted double steps ((foldBreak lineBreak breaks.reverse).reverse ++ reversed) further
        else readQuoted double steps (spaces.reverse ++ reversed) afterSpaces
      else readQuoted double steps (c :: reversed) cursor.advance

/-! ## Blocks of lines -/

/-- What becomes of the line breaks at the end of a block. -/
inductive Chomping where
  | strip
  | clip
  | keep
deriving DecidableEq, Repr

/-- The header of a block of lines. -/
structure BlockHeader where
  chomping : Chomping
  increment : Option Nat

/-- The chomping that an indicator asks for. -/
def Chomping.ofIndicator? (c : Char) : Option Chomping :=
  if c == '+' then some .keep else if c == '-' then some .strip else none

/-- The indentation that an indicator asks for. -/
def readIncrement (cursor : Cursor) : Except Fault (Option Nat × Cursor) :=
  match cursor.peek with
  | some c =>
    if c == '0' then .error (cursor.fault "an indentation of zero")
    else if c.isDigit then .ok (some (c.toNat - 48), cursor.advance)
    else .ok (none, cursor)
  | none => .ok (none, cursor)

/-- Reads the chomping indicator in front, if there is one. -/
def readChomping (cursor : Cursor) : Option Chomping × Cursor :=
  match cursor.peek.bind Chomping.ofIndicator? with
  | some chomping => (some chomping, cursor.advance)
  | none => (none, cursor)

/-- Reads the indicators after the `|` or `>` of a block, in either order, and the rest of the
line. -/
def readBlockHeader (cursor : Cursor) : Except Fault (BlockHeader × Cursor) := do
  let (first, afterFirst) := readChomping cursor
  let (increment, afterIncrement) ← readIncrement afterFirst
  let (second, afterSecond) :=
    if first.isNone && increment.isSome then readChomping afterIncrement else (none, afterIncrement)
  if !endsField afterSecond.peek then throw (afterSecond.fault "expected a block indicator")
  let after ← afterSecond.endOfHeader
  return (⟨(first <|> second).getD .clip, increment⟩, after)

/-- Goes past the blank lines that open a block without a stated indentation: the line breaks, last
one first, and the greatest column that was reached. -/
def measureIndent : Nat → List Char → Nat → Cursor → List Char × Nat × Cursor
  | 0, reversed, greatest, cursor => (reversed, greatest, cursor)
  | steps + 1, reversed, greatest, cursor =>
    match cursor.peek with
    | some c =>
      if c == ' ' then
        measureIndent steps reversed (max greatest cursor.advance.column) cursor.advance
      else if isBreak c then
        let (lineBreak, after) := cursor.lineBreak
        measureIndent steps (lineBreak ++ reversed) greatest after
      else (reversed, greatest, cursor)
    | none => (reversed, greatest, cursor)

/-- Goes past at most as many spaces as lead to a column. -/
def skipIndent (column : Nat) (cursor : Cursor) : Cursor :=
  let spaces := (cursor.rest.takeWhile (· == ' ')).length
  cursor.pass (min spaces (column - cursor.column))

/-- The blank lines before the next line of a block: the line breaks, last one first. -/
def blockBreaks (indent : Nat) : Nat → List Char → Cursor → List Char × Cursor
  | 0, reversed, cursor => (reversed, skipIndent indent cursor)
  | steps + 1, reversed, cursor =>
    let inside := skipIndent indent cursor
    if inside.peek.any isBreak then
      let (lineBreak, after) := inside.lineBreak
      blockBreaks indent steps (lineBreak ++ reversed) after
    else (reversed, inside)

/-- The lines of a block read so far. -/
structure BlockText where
  /-- The text, last character first. -/
  reversed : List Char
  /-- The line break after the last line. -/
  lineBreak : List Char
  /-- The blank lines after it, as line breaks, last one first. -/
  breaks : List Char
  cursor : Cursor

/-- Reads the lines of a block.  In a folded block a line break between two lines that begin with no
space becomes a space, or nothing when blank lines follow it. -/
def readBlockLines (folded : Bool) (indent : Nat) : Nat → BlockText → BlockText
  | 0, block => block
  | steps + 1, block =>
    let cursor := block.cursor
    if cursor.column != indent || cursor.rest.isEmpty then block
    else
      let beginsWithSpace := cursor.peek.any isSpaceOrTab
      let (line, afterLine) := cursor.takeWhile fun c => !isBreak c
      let (lineBreak, afterBreak) := afterLine.lineBreak
      let (breaks, after) := blockBreaks indent afterBreak.rest.length [] afterBreak
      let text := line.reverse ++ block.breaks ++ block.reversed
      if after.column != indent || after.rest.isEmpty then ⟨text, lineBreak, breaks, after⟩
      else
        let folds := folded && lineBreak == ['\n'] && !beginsWithSpace &&
          !after.peek.any isSpaceOrTab
        let joint := if !folds then lineBreak else if breaks.isEmpty then [' '] else []
        readBlockLines folded indent steps ⟨joint ++ text, lineBreak, breaks, after⟩

/-- Reads a block of lines after its `|` or `>`; the lines are indented further than `indent`. -/
def readBlock (folded : Bool) (indent : Int) (cursor : Cursor) :
    Except Fault (List Char × Cursor) := do
  let (header, after) ← readBlockHeader cursor
  let least := max (indent + 1).toNat 1
  let (breaks, column, begin) :=
    match header.increment with
    | none =>
      let (breaks, greatest, further) := measureIndent after.rest.length [] 0 after
      (breaks, max least greatest, further)
    | some increment =>
      let column := least + increment - 1
      let (breaks, further) := blockBreaks column after.rest.length [] after
      (breaks, column, further)
  let block := readBlockLines folded column begin.rest.length ⟨[], [], breaks, begin⟩
  let ending :=
    match header.chomping with
    | .strip => []
    | .clip => block.lineBreak
    | .keep => block.breaks ++ block.lineBreak
  return ((ending ++ block.reversed).reverse, block.cursor)

end ResourceGraph.Yaml
