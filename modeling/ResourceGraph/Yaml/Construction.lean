import ResourceGraph.Value.SetOrder
import ResourceGraph.Yaml.Merge
import ResourceGraph.Yaml.Token.Lexer

/-!
# From nodes to values

Nodes are made into values level by level, and a node that is part of several others is made only
once: a fault of a node is found before any fault below it and before any fault of a later node of
its level.  The first pass looks for faults and merges the mappings; the second one reads the value
off the graph.
-/

namespace ResourceGraph.Yaml

namespace Construct

/-- The text of the node at a place whose value is a scalar.  A mapping has the text of its entry
with the key `=`. -/
def textAt : Nat → Nat → Construct String
  | 0, _ => fail "too deep"
  | depth + 1, place => do
    match (← nodeAt place).content with
    | .scalar text => return text
    | .list _ => fail "expected a scalar"
    | .map entries =>
      let graph ← get
      match entries.find? fun (key, _) => graph[key]?.any (·.kind == .defaultValue) with
      | some (_, value) => textAt depth value
      | none => fail "expected a scalar"

/-- The scalar of the node at a place. -/
def scalarAt (place : Nat) : Construct Scalar := do
  let node ← nodeAt place
  let text ← textAt ((← get).size + 1) place
  if node.kind == .timestamp && node.content matches .map _ then throw .compoundDate
  node.kind.scalarOf (place + 1) text

/-! ## Faults -/

/-- The nodes with parts that have been met. -/
structure Pending where
  /-- The places of those of the next level, last one first. -/
  next : List Nat
  /-- Whether the node at a place has been met. -/
  met : Array Bool

/-- Checks a node without its parts; one that has parts is put to those of the next level, unless it
was met before. -/
def check (pending : Pending) (place : Nat) : Construct Pending := do
  let kind := (← nodeAt place).kind
  if !kind.hasParts then
    let _ ← scalarAt place
    return pending
  else if (pending.met[place]?).getD true then return pending
  else return ⟨place :: pending.next, pending.met.set! place true⟩

/-- Checks a key and its value; a key may not have parts. -/
def checkEntry (pending : Pending) (entry : Nat × Nat) : Construct Pending := do
  let afterKey ← check pending entry.1
  if (← nodeAt entry.1).kind.hasParts then fail "a key with parts"
  check afterKey entry.2

/-- The only entry of the mapping at a place. -/
def pairAt (place : Nat) : Construct (Nat × Nat) := do
  match ← entriesAt place with
  | [entry] => return entry
  | _ => fail "expected a mapping with one entry"

/-- Checks a pair of a list of pairs, whose key may have parts. -/
def checkPair (pending : Pending) (place : Nat) : Construct Pending := do
  let (key, value) ← pairAt place
  check (← check pending key) value

/-- Checks the parts of the node at a place. -/
def checkParts (pending : Pending) (place : Nat) : Construct Pending := do
  let node ← nodeAt place
  match node.kind, node.content with
  | .list, .list items => items.foldlM check pending
  | .map, .map _ | .members, .map _ =>
    flatten place
    (← entriesAt place).foldlM checkEntry pending
  | .pairs, .list items => items.foldlM checkPair pending
  | _, _ => fail "a tag for another kind of node"

/-- Checks the parts of nodes, and the nodes below them, level by level. -/
def checkLevels : Nat → Pending → Construct Unit
  | 0, _ => return ()
  | levels + 1, pending => do
    let below ← pending.next.reverse.foldlM checkParts ⟨[], pending.met⟩
    if !below.next.isEmpty then checkLevels levels below

/-- Checks the node at a place and all nodes below it. -/
def checkAll (root : Nat) : Construct Unit := do
  let size := (← get).size
  checkLevels size (← check ⟨[], Array.replicate size false⟩ root)

/-! ## Values -/

/-- The value of the node at a place, `around` being the places of the nodes it is a part of.  A
node inside itself is empty there. -/
def valueAt : Nat → List Nat → Nat → Construct Value
  | 0, _, _ => fail "too deep"
  | depth + 1, around, place => do
    let node ← nodeAt place
    let inside := valueAt depth (place :: around)
    match node.kind, node.content with
    | .list, .list items =>
      if around.contains place then return .list []
      return .list (← items.mapM inside)
    | .map, .map entries =>
      if around.contains place then return .map []
      let pairs ← entries.mapM fun (key, value) => do return (← scalarAt key, ← inside value)
      return .map (Entries.ofList pairs)
    | .members, .map entries =>
      let keys ← entries.mapM fun (key, _) => return (← scalarAt key, Value.null)
      return .set (SetOrder.arrange ((Entries.ofList keys).map Prod.fst))
    | .pairs, .list items =>
      if around.contains place then return .list []
      let pairs ← items.mapM fun item => do
        let (key, value) ← pairAt item
        return .pair (← inside key) (← inside value)
      return .list pairs
    | _, _ => return .scalar (← scalarAt place)

/-- The value of the node at a place, which stands for the whole document. -/
def value (root : Nat) : Construct Value := do
  checkAll root
  valueAt ((← get).size + 1) [] root

end Construct

/-! ## Reading a text

The value of a text is the value of its only document, null if it has none.  A mapping may merge
others into itself with the key `<<`; its own entries win over merged ones, and of its entries with
the same key the last one does. -/

/-- Reads a text as YAML. -/
def read (content : String) : Except Fault Value := do
  let characters := content.toList
  if !characters.all isReadable then throw (.malformed "a character that may not occur")
  let stream := Lexer.tokenize characters
  let reader : NodeReader :=
    { tokens := stream.tokens.toList, ending := stream.fault, handles := ReadNode.standardHandles
      anchors := [], graph := #[] }
  match ← (ReadNode.document (4 * stream.tokens.size + 8)).run reader with
  | (none, _) => return .null
  | (some root, read) => (Construct.value root).run' read.graph

end ResourceGraph.Yaml
