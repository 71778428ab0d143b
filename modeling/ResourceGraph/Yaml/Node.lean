import ResourceGraph.Yaml.Scalar
import ResourceGraph.Yaml.Token.Basic

/-!
# From tokens to nodes

A node is a scalar, a list or a mapping together with its kind.  The nodes of a document are kept in
a graph, in the order in which they begin.  The reading functions recurse on a number of steps that
exceeds the number of tokens they can meet.
-/

namespace ResourceGraph.Yaml

/-- What a node holds.  The parts of a node are given by their places in the graph. -/
inductive NodeContent where
  | scalar (text : String)
  | list (items : List Nat)
  | map (entries : List (Nat × Nat))
deriving DecidableEq, Repr, Inhabited

/-- A node of a document. -/
structure Node where
  kind : Kind
  content : NodeContent
deriving DecidableEq, Repr, Inhabited

/-- The nodes of a document.  An alias is the place of the node it names, so that a node may be part
of many others, and even of itself. -/
abbrev NodeGraph := Array Node

/-- The tokens that are left and what has been declared so far. -/
structure NodeReader where
  tokens : List Token
  /-- The fault behind the last token, if the text ends in one. -/
  ending : Option Fault
  /-- The texts that tag handles stand for. -/
  handles : List (String × String)
  /-- The places of the named nodes. -/
  anchors : List (String × Nat)
  graph : NodeGraph

/-- A step of reading nodes. -/
abbrev ReadNode := StateT NodeReader (Except Fault)

namespace ReadNode

/-- A fault of the notation. -/
def fail {α : Type} (reason : String) : ReadNode α := fun _ => .error (.malformed reason)

/-- The next token, none at the end of the text. -/
def peek : ReadNode (Option Token) := fun reader =>
  match reader.tokens, reader.ending with
  | token :: _, _ => .ok (some token, reader)
  | [], some fault => .error fault
  | [], none => .ok (none, reader)

/-- Goes past the next token. -/
def skip : ReadNode Unit :=
  modify fun reader => { reader with tokens := reader.tokens.drop 1 }

/-- Goes past the next token if it is the given one, and tells whether it was. -/
def accept (token : Token) : ReadNode Bool := do
  if (← peek) == some token then
    skip
    return true
  else return false

/-- Whether the next token is one of the given ones. -/
def sees (tokens : List Token) : ReadNode Bool := do
  match ← peek with
  | some token => return tokens.contains token
  | none => return false

/-- Names the node at a place; no name is given twice. -/
def declare (anchor : Option String) (place : Nat) : ReadNode Unit := do
  if let some name := anchor then
    if ((← get).anchors.lookup name).isSome then fail "an anchor declared twice"
    modify fun reader => { reader with anchors := (name, place) :: reader.anchors }

/-- The node that an alias names. -/
def resolveAlias (name : String) : ReadNode Nat := do
  match (← get).anchors.lookup name with
  | some place => return place
  | none => fail "an alias that names nothing"

/-- Adds a node to the graph. -/
def add (kind : Kind) (content : NodeContent) : ReadNode Nat := do
  let place := (← get).graph.size
  modify fun reader => { reader with graph := reader.graph.push ⟨kind, content⟩ }
  return place

/-- The full tag that a handle and a suffix write. -/
def expandTag (tag : Tag) : ReadNode String := do
  match tag.handle with
  | none => return tag.suffix
  | some handle =>
    match (← get).handles.lookup handle with
    | some start => return start ++ tag.suffix
    | none => fail "an unknown tag handle"

/-- Reads the anchor and the tag in front of a node, in either order. -/
def properties : ReadNode (Option String × Option String) := do
  match ← peek with
  | some (.anchor name) =>
    skip
    match ← peek with
    | some (.tag tag) =>
      skip
      return (some name, some (← expandTag tag))
    | _ => return (some name, none)
  | some (.tag tag) =>
    skip
    match ← peek with
    | some (.anchor name) =>
      skip
      return (some name, some (← expandTag tag))
    | _ => return (none, some (← expandTag tag))
  | _ => return (none, none)

/-- The kind of a list or a mapping: the one its tag names, if it has a tag. -/
def containerKind (tag : Option String) (plain : Kind) : Kind :=
  match tag with
  | none => plain
  | some "!" => plain
  | some name => .ofTag name

/-- The kind of a scalar: the one its tag names, else by its form when it is plain. -/
def scalarKind (tag : Option String) (plain : Bool) (text : String) : Kind :=
  match tag with
  | none => if plain then .ofForm text else .text
  | some "!" => .ofForm text
  | some name => .ofTag name

/-- The node that stands where nothing is written. -/
def empty : ReadNode Nat := add .null (.scalar "")

/-- Adds and names a scalar. -/
def scalar (anchor tag : Option String) (plain : Bool) (text : String) : ReadNode Nat := do
  declare anchor (← get).graph.size
  add (scalarKind tag plain text) (.scalar text)

/-- Adds and names a list or a mapping and then reads its parts, which may refer to it. -/
def container (anchor : Option String) (kind : Kind) (parts : ReadNode NodeContent) :
    ReadNode Nat := do
  declare anchor (← get).graph.size
  let place ← add kind (.list [])
  let content ← parts
  modify fun reader => { reader with graph := reader.graph.set! place ⟨kind, content⟩ }
  return place

/-- The node of an anchor or a tag behind which nothing is written. -/
def missing (anchor tag : Option String) : ReadNode Nat := do
  if anchor.isNone && tag.isNone then fail "expected a node"
  scalar anchor tag true ""

mutual

/-- Reads a node.  `block` allows the blocks of lines, and `itemsHere` allows list items that are
indented like the key in front of them. -/
def node (steps : Nat) (block itemsHere : Bool) : ReadNode Nat :=
  match steps with
  | 0 => fail "too deep"
  | steps + 1 => do
    if let some (.alias name) ← peek then
      skip
      return ← resolveAlias name
    let (anchor, tag) ← properties
    match ← peek with
    | some (.scalar text plain) =>
      skip
      scalar anchor tag plain text
    | some .flowListStart =>
      container anchor (containerKind tag .list) (do
        skip
        return .list (← flowItems steps true []))
    | some .flowMapStart =>
      container anchor (containerKind tag .map) (do
        skip
        return .map (← flowEntries steps true []))
    | some .blockEntry =>
      if itemsHere then
        container anchor (containerKind tag .list) (do
          return .list (← itemsOfKey steps []))
      else missing anchor tag
    | some .blockListStart =>
      if block then
        container anchor (containerKind tag .list) (do
          skip
          return .list (← blockItems steps []))
      else missing anchor tag
    | some .blockMapStart =>
      if block then
        container anchor (containerKind tag .map) (do
          skip
          return .map (← blockEntries steps []))
      else missing anchor tag
    | _ => missing anchor tag

/-- Reads a node, or nothing before one of the given tokens. -/
def nodeUnless (steps : Nat) (block itemsHere : Bool) (ends : List Token) : ReadNode Nat :=
  match steps with
  | 0 => fail "too deep"
  | steps + 1 => do
    if ← sees ends then empty else node steps block itemsHere

/-- Reads the items of a block. -/
def blockItems (steps : Nat) (reversed : List Nat) : ReadNode (List Nat) :=
  match steps with
  | 0 => fail "too deep"
  | steps + 1 => do
    if ← accept .blockEntry then
      let item ← nodeUnless steps true false [.blockEntry, .blockEnd]
      blockItems steps (item :: reversed)
    else if ← accept .blockEnd then return reversed.reverse
    else fail "expected the end of a list"

/-- Reads list items that are indented like the key in front of them. -/
def itemsOfKey (steps : Nat) (reversed : List Nat) : ReadNode (List Nat) :=
  match steps with
  | 0 => fail "too deep"
  | steps + 1 => do
    if ← accept .blockEntry then
      let item ← nodeUnless steps true false [.blockEntry, .key, .value, .blockEnd]
      itemsOfKey steps (item :: reversed)
    else return reversed.reverse

/-- Reads the entries of a block. -/
def blockEntries (steps : Nat) (reversed : List (Nat × Nat)) : ReadNode (List (Nat × Nat)) :=
  match steps with
  | 0 => fail "too deep"
  | steps + 1 => do
    if ← accept .key then
      let key ← nodeUnless steps true true [.key, .value, .blockEnd]
      let value ←
        if ← accept .value then nodeUnless steps true true [.key, .value, .blockEnd]
        else empty
      blockEntries steps ((key, value) :: reversed)
    else if ← accept .blockEnd then return reversed.reverse
    else fail "expected the end of a mapping"

/-- Reads the items between square brackets. -/
def flowItems (steps : Nat) (first : Bool) (reversed : List Nat) : ReadNode (List Nat) :=
  match steps with
  | 0 => fail "too deep"
  | steps + 1 => do
    if ← accept .flowListEnd then return reversed.reverse
    if !first then
      if !(← accept .flowEntry) then fail "expected a comma or a closing bracket"
      if ← accept .flowListEnd then return reversed.reverse
    if ← accept .key then
      let key ← nodeUnless steps false false [.value, .flowEntry, .flowListEnd]
      let value ←
        if ← accept .value then nodeUnless steps false false [.flowEntry, .flowListEnd]
        else empty
      let pair ← add .map (.map [(key, value)])
      flowItems steps false (pair :: reversed)
    else
      let item ← node steps false false
      flowItems steps false (item :: reversed)

/-- Reads the entries between braces. -/
def flowEntries (steps : Nat) (first : Bool) (reversed : List (Nat × Nat)) :
    ReadNode (List (Nat × Nat)) :=
  match steps with
  | 0 => fail "too deep"
  | steps + 1 => do
    if ← accept .flowMapEnd then return reversed.reverse
    if !first then
      if !(← accept .flowEntry) then fail "expected a comma or a closing brace"
      if ← accept .flowMapEnd then return reversed.reverse
    if ← accept .key then
      let key ← nodeUnless steps false false [.value, .flowEntry, .flowMapEnd]
      let value ←
        if ← accept .value then nodeUnless steps false false [.flowEntry, .flowMapEnd]
        else empty
      flowEntries steps false ((key, value) :: reversed)
    else
      let key ← node steps false false
      let value ← empty
      flowEntries steps false ((key, value) :: reversed)

end

/-! ## Documents -/

/-- The tag handles that every document knows. -/
def standardHandles : List (String × String) := [("!", "!"), ("!!", standardTags)]

/-- Reads the directives in front of a document: at most one version, whose major number is one, and
the tag handles, none twice. -/
def directives : Nat → Bool → List (String × String) → ReadNode (List (String × String))
  | 0, _, handles => return handles
  | steps + 1, versioned, handles => do
    match ← peek with
    | some (.directive (.version major)) =>
      skip
      if versioned || major != 1 then fail "an unsupported version"
      directives steps true handles
    | some (.directive (.tagPrefix handle text)) =>
      skip
      if (handles.lookup handle).isSome then fail "a tag handle declared twice"
      directives steps versioned ((handle, text) :: handles)
    | some (.directive .unknown) =>
      skip
      directives steps versioned handles
    | _ => return handles

/-- Goes past the marks that end documents. -/
def skipDocumentEnds : Nat → ReadNode Unit
  | 0 => return ()
  | steps + 1 => do
    if ← accept .documentEnd then skipDocumentEnds steps

/-- Whether a token is a directive. -/
def isDirective : Option Token → Bool
  | some (.directive _) => true
  | _ => false

/-- Whether a token ends a document that has not begun. -/
def endsEmptyDocument (next : Option Token) : Bool :=
  next.isNone || isDirective next || next == some .documentStart || next == some .documentEnd

/-- Reads the only document of a text, none if the text is empty. -/
def document (steps : Nat) : ReadNode (Option Nat) := do
  let first ← peek
  if first.isNone then return none
  let root ←
    if isDirective first || first == some .documentStart then
      let declared ← directives steps false []
      modify fun reader => { reader with handles := declared ++ standardHandles }
      if !(← accept .documentStart) then fail "expected the start of a document"
      if endsEmptyDocument (← peek) then empty else node steps true false
    else node steps true false
  skipDocumentEnds steps
  if (← peek).isNone then return some root
  let _ ← directives steps false []
  if (← peek) != some .documentStart then fail "expected the start of a document"
  fail "expected a single document"

end ReadNode

end ResourceGraph.Yaml
