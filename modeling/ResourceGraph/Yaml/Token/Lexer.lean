import ResourceGraph.Yaml.Token.Tag

/-!
# From the text to its tokens

Blocks are opened and closed by indentation, and whether a scalar is the key of a mapping is known
only at the `:` behind it.  The lexer therefore remembers, for each bracket level, the last token
that may yet turn out to be a key; meeting the `:`, it inserts the tokens that announce the key in
front of that token.
-/

namespace ResourceGraph.Yaml

/-- A token that may turn out to be a key. -/
structure PossibleKey where
  /-- The number of tokens in front of it. -/
  position : Nat
  /-- Whether the layout allows nothing but a key there. -/
  required : Bool
  index : Nat
  line : Nat
  column : Nat
deriving Repr

/-- The state between two tokens. -/
structure Lexer where
  cursor : Cursor
  tokens : Array Token
  /-- The number of open brackets. -/
  flowLevel : Nat
  /-- The column of the innermost open block, `-1` outside all of them. -/
  indent : Int
  /-- The columns of the blocks around it, innermost first. -/
  outerIndents : List Int
  /-- Whether a key may begin at the cursor. -/
  allowsKey : Bool
  /-- The possible keys by bracket level. -/
  possibleKeys : List (Nat × PossibleKey)

namespace Lexer

/-- The state at the start of a text. -/
def start (characters : List Char) : Lexer :=
  { cursor := Cursor.start characters
    tokens := #[]
    flowLevel := 0
    indent := -1
    outerIndents := []
    allowsKey := true
    possibleKeys := [] }

/-- Whether the cursor is inside brackets. -/
def inFlow (lexer : Lexer) : Bool := lexer.flowLevel != 0

/-- The lexer with one more token, moved on to a cursor. -/
def emit (lexer : Lexer) (token : Token) (cursor : Cursor) : Lexer :=
  { lexer with tokens := lexer.tokens.push token, cursor := cursor }

/-- The lexer with a token inserted behind the first `position` ones. -/
def insert (lexer : Lexer) (position : Nat) (token : Token) : Lexer :=
  { lexer with
    tokens := lexer.tokens.extract 0 position ++ #[token] ++
      lexer.tokens.extract position lexer.tokens.size }

/-! ## Possible keys -/

/-- Gives up the possible keys that satisfy a condition; one that is required is a fault. -/
def giveUpKeys (lexer : Lexer) (condition : Nat → PossibleKey → Bool) : Except Fault Lexer :=
  if lexer.possibleKeys.any fun (level, key) => condition level key && key.required then
    .error (lexer.cursor.fault "expected a colon after a key")
  else
    .ok { lexer with
      possibleKeys := lexer.possibleKeys.filter fun (level, key) => !condition level key }

/-- The greatest distance between the start of a key and its colon. -/
def keyReach : Nat := 1024

/-- Gives up the keys whose colon can no longer follow: it must stand on the same line and within
reach. -/
def giveUpStaleKeys (lexer : Lexer) : Except Fault Lexer :=
  lexer.giveUpKeys fun _ key =>
    key.line != lexer.cursor.line || lexer.cursor.index - key.index > keyReach

/-- Gives up the possible key of the current bracket level. -/
def giveUpKey (lexer : Lexer) : Except Fault Lexer :=
  lexer.giveUpKeys fun level _ => level == lexer.flowLevel

/-- Remembers the next token as a possible key, if a key may begin there. -/
def rememberKey (lexer : Lexer) : Except Fault Lexer :=
  if lexer.allowsKey then do
    let cleared ← lexer.giveUpKey
    let key : PossibleKey :=
      { position := lexer.tokens.size
        required := !lexer.inFlow && lexer.indent == lexer.cursor.column
        index := lexer.cursor.index
        line := lexer.cursor.line
        column := lexer.cursor.column }
    return { cleared with possibleKeys := (lexer.flowLevel, key) :: cleared.possibleKeys }
  else .ok lexer

/-! ## Blocks -/

/-- Closes the blocks that are indented further than a column. -/
def closeBlocks (column : Int) : List Int → Lexer → Lexer
  | [], lexer => lexer
  | outer :: rest, lexer =>
    if lexer.indent > column then
      closeBlocks column rest
        { lexer.emit .blockEnd lexer.cursor with indent := outer, outerIndents := rest }
    else lexer

/-- Closes the blocks that are indented further than a column, unless inside brackets. -/
def unwind (lexer : Lexer) (column : Int) : Lexer :=
  if lexer.inFlow then lexer else closeBlocks column lexer.outerIndents lexer

/-- Opens a block at a column if it is indented further than the innermost one; the token that opens
it goes behind the first `position` ones. -/
def openBlock (lexer : Lexer) (column : Nat) (position : Nat) (token : Token) : Lexer :=
  if lexer.indent < column then
    { lexer.insert position token with
      indent := column, outerIndents := lexer.indent :: lexer.outerIndents }
  else lexer

/-! ## Between tokens -/

/-- Goes past spaces, comments and line breaks. -/
def skipToToken : Nat → Lexer → Lexer
  | 0, lexer => lexer
  | steps + 1, lexer =>
    let spaces := lexer.cursor.skipSpaces
    let comment := if spaces.peek == some '#' then spaces.skipLine else spaces
    if comment.peek.any isBreak then
      skipToToken steps
        { lexer with
          cursor := comment.lineBreak.2, allowsKey := lexer.allowsKey || !lexer.inFlow }
    else { lexer with cursor := comment }

/-- Goes past a byte order mark at the start of the text. -/
def skipByteOrderMark (lexer : Lexer) : Lexer :=
  if lexer.cursor.index == 0 && lexer.cursor.peek == some '\uFEFF' then
    { lexer with cursor := lexer.cursor.advance }
  else lexer

/-! ## One token -/

/-- Closes all blocks before a directive or a document marker. -/
def leaveDocument (lexer : Lexer) : Except Fault Lexer := do
  let closed ← (lexer.unwind (-1)).giveUpKey
  return { closed with allowsKey := false }

/-- A directive. -/
def directive (lexer : Lexer) : Except Fault Lexer := do
  let left ← lexer.leaveDocument
  let (directive, after) ← readDirective left.cursor
  return left.emit (.directive directive) after

/-- A document marker. -/
def documentMarker (lexer : Lexer) (token : Token) : Except Fault Lexer := do
  let left ← lexer.leaveDocument
  return left.emit token (left.cursor.pass 3)

/-- An opening bracket, which may begin a key. -/
def openFlow (lexer : Lexer) (token : Token) : Except Fault Lexer := do
  let remembered ← lexer.rememberKey
  return { remembered.emit token lexer.cursor.advance with
    flowLevel := lexer.flowLevel + 1, allowsKey := true }

/-- A closing bracket. -/
def closeFlow (lexer : Lexer) (token : Token) : Except Fault Lexer := do
  let cleared ← lexer.giveUpKey
  return { cleared.emit token lexer.cursor.advance with
    flowLevel := lexer.flowLevel - 1, allowsKey := false }

/-- A comma between brackets. -/
def flowEntry (lexer : Lexer) : Except Fault Lexer := do
  let cleared ← lexer.giveUpKey
  return { cleared.emit .flowEntry lexer.cursor.advance with allowsKey := true }

/-- The hyphen of a list item. -/
def blockEntry (lexer : Lexer) : Except Fault Lexer := do
  if !lexer.inFlow && !lexer.allowsKey then
    throw (lexer.cursor.fault "a list item is not allowed here")
  let opened :=
    if lexer.inFlow then lexer
    else lexer.openBlock lexer.cursor.column lexer.tokens.size .blockListStart
  let cleared ← opened.giveUpKey
  return { cleared.emit .blockEntry lexer.cursor.advance with allowsKey := true }

/-- The question mark of a key. -/
def explicitKey (lexer : Lexer) : Except Fault Lexer := do
  if !lexer.inFlow && !lexer.allowsKey then
    throw (lexer.cursor.fault "a key is not allowed here")
  let opened :=
    if lexer.inFlow then lexer
    else lexer.openBlock lexer.cursor.column lexer.tokens.size .blockMapStart
  let cleared ← opened.giveUpKey
  return { cleared.emit .key lexer.cursor.advance with allowsKey := !lexer.inFlow }

/-- The colon after a key: if the key was not announced by a question mark, it is announced now. -/
def keyValue (lexer : Lexer) : Except Fault Lexer := do
  match lexer.possibleKeys.lookup lexer.flowLevel with
  | some key =>
    let announced := lexer.insert key.position .key
    let opened :=
      if lexer.inFlow then announced
      else announced.openBlock key.column key.position .blockMapStart
    return { opened.emit .value lexer.cursor.advance with
      possibleKeys := lexer.possibleKeys.filter fun (level, _) => level != lexer.flowLevel
      allowsKey := false }
  | none =>
    if !lexer.inFlow && !lexer.allowsKey then
      throw (lexer.cursor.fault "a value is not allowed here")
    let opened :=
      if lexer.inFlow then lexer
      else lexer.openBlock lexer.cursor.column lexer.tokens.size .blockMapStart
    let cleared ← { opened with allowsKey := !lexer.inFlow }.giveUpKey
    return cleared.emit .value lexer.cursor.advance

/-- An alias or an anchor, which may begin a key. -/
def anchorName (lexer : Lexer) (token : String → Token) : Except Fault Lexer := do
  let remembered ← lexer.rememberKey
  let (name, after) ← readAnchorName lexer.cursor.advance
  return { remembered.emit (token name) after with allowsKey := false }

/-- A tag, which may begin a key. -/
def tag (lexer : Lexer) : Except Fault Lexer := do
  let remembered ← lexer.rememberKey
  let (tag, after) ← readTag lexer.cursor
  return { remembered.emit (.tag tag) after with allowsKey := false }

/-- A block of lines. -/
def blockScalar (lexer : Lexer) (folded : Bool) : Except Fault Lexer := do
  let cleared ← lexer.giveUpKey
  let (text, after) ← readBlock folded lexer.indent lexer.cursor.advance
  return { cleared.emit (.scalar (String.ofList text) false) after with allowsKey := true }

/-- A scalar in quotes, which may be a key. -/
def quotedScalar (lexer : Lexer) (double : Bool) : Except Fault Lexer := do
  let remembered ← lexer.rememberKey
  let (text, after) ← readQuoted double lexer.cursor.rest.length [] lexer.cursor.advance
  return { remembered.emit (.scalar (String.ofList text) false) after with allowsKey := false }

/-- A plain scalar, which may be a key; after a line break behind it a key may begin. -/
def plainScalar (lexer : Lexer) : Except Fault Lexer := do
  let remembered ← lexer.rememberKey
  let scalar := readPlain lexer.inFlow (lexer.indent + 1) lexer.cursor.rest.length [] [] false
    lexer.cursor
  return { remembered.emit (.scalar (String.ofList scalar.text) true) scalar.cursor with
    allowsKey := scalar.breaksLine }

/-- The characters that cannot begin a plain scalar. -/
def isIndicator (c : Char) : Bool := "-?:,[]\x7b\x7d#&*!|>'\"%@\x60".toList.contains c

/-- Whether a plain scalar begins at the cursor. -/
def atPlainScalar (lexer : Lexer) (c : Char) : Bool :=
  (!isIndicator c && !endsWord (some c)) ||
    (!endsWord (lexer.cursor.peekAt 1) &&
      (c == '-' || (!lexer.inFlow && (c == '?' || c == ':'))))

/-- Reads the token that begins with the character `c` at the cursor. -/
def readToken (lexer : Lexer) (c : Char) : Except Fault Lexer :=
  let cursor := lexer.cursor
  let alone := endsWord (cursor.peekAt 1)
  if c == '%' && cursor.column == 0 then lexer.directive
  else if cursor.column == 0 && cursor.atMarker '-' then lexer.documentMarker .documentStart
  else if cursor.column == 0 && cursor.atMarker '.' then lexer.documentMarker .documentEnd
  else if c == '[' then lexer.openFlow .flowListStart
  else if c == '\x7b' then lexer.openFlow .flowMapStart
  else if c == ']' then lexer.closeFlow .flowListEnd
  else if c == '\x7d' then lexer.closeFlow .flowMapEnd
  else if c == ',' then lexer.flowEntry
  else if c == '-' && alone then lexer.blockEntry
  else if c == '?' && (lexer.inFlow || alone) then lexer.explicitKey
  else if c == ':' && (lexer.inFlow || alone) then lexer.keyValue
  else if c == '*' then lexer.anchorName .alias
  else if c == '&' then lexer.anchorName .anchor
  else if c == '!' then lexer.tag
  else if (c == '|' || c == '>') && !lexer.inFlow then lexer.blockScalar (c == '>')
  else if c == '\'' || c == '"' then lexer.quotedScalar (c == '"')
  else if lexer.atPlainScalar c then lexer.plainScalar
  else .error (cursor.fault "no token begins like this")

/-! ## All tokens -/

/-- The number of tokens in front of the first one that may still turn out to be a key.  Nothing can
be inserted among them any more. -/
def settled (lexer : Lexer) : Nat :=
  lexer.possibleKeys.foldl (fun least (_, key) => min least key.position) lexer.tokens.size

/-- The tokens of a text up to its end, or those that are settled when a fault is met. -/
structure TokenStream where
  tokens : Array Token
  fault : Option Fault

/-- The tokens that are settled when a fault is met. -/
def stopAt (lexer : Lexer) (fault : Fault) : TokenStream :=
  ⟨lexer.tokens.extract 0 lexer.settled, some fault⟩

/-- Reads one token; none at the end of the text. -/
def readNext (lexer : Lexer) : Except Fault (Lexer × Bool) := do
  let ready ← (skipToToken lexer.cursor.rest.length.succ lexer).giveUpStaleKeys
  let unwound := ready.unwind ready.cursor.column
  match unwound.cursor.peek with
  | none => return (← unwound.leaveDocument, false)
  | some c => return (← unwound.readToken c, true)

/-- Reads tokens to the end of the text. -/
def readTokens : Nat → Lexer → TokenStream
  | 0, lexer => lexer.stopAt (lexer.cursor.fault "no token begins like this")
  | steps + 1, lexer =>
    match lexer.giveUpStaleKeys with
    | .error fault => lexer.stopAt fault
    | .ok settling =>
      match settling.readNext with
      | .error fault => settling.stopAt fault
      | .ok (ended, false) => ⟨ended.tokens, none⟩
      | .ok (next, true) => readTokens steps next

end Lexer

/-- The tokens of a text. -/
def Lexer.tokenize (characters : List Char) : Lexer.TokenStream :=
  (Lexer.start characters).skipByteOrderMark.readTokens (characters.length + 1)

end ResourceGraph.Yaml
