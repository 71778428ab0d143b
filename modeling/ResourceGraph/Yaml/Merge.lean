import ResourceGraph.Yaml.Node

/-!
# Merged mappings

The value of the key `<<` is a mapping, or a list of mappings, whose entries are merged into the
mapping around it.  They are put in front of its own entries, so that the own ones win.  Merging
takes place in the graph: a merge key is removed before its value is merged, and therefore a mapping
may even merge itself.
-/

namespace ResourceGraph.Yaml

/-- A step that changes the graph. -/
abbrev Construct := StateT NodeGraph (Except Fault)

namespace Construct

/-- A fault of the notation. -/
def fail {α : Type} (reason : String) : Construct α := fun _ => .error (.malformed reason)

/-- The node at a place. -/
def nodeAt (place : Nat) : Construct Node := do return ((← get)[place]?).getD default

/-- The entries of the mapping at a place. -/
def entriesAt (place : Nat) : Construct (List (Nat × Nat)) := do
  match (← nodeAt place).content with
  | .map entries => return entries
  | _ => fail "expected a mapping"

/-- Gives the mapping at a place other entries. -/
def setEntries (place : Nat) (entries : List (Nat × Nat)) : Construct Unit :=
  modify fun graph => graph.modify place fun node => { node with content := .map entries }

/-- Removes the first merge key of the mapping at a place; its value is given back. -/
def takeMerge (place : Nat) : Construct (Option Nat) := do
  let graph ← get
  let entries ← entriesAt place
  let isMerge (entry : Nat × Nat) : Bool := graph[entry.1]?.any (·.kind == .merge)
  match entries.find? isMerge with
  | some entry =>
    setEntries place (entries.eraseP isMerge)
    return some entry.2
  | none => return none

/-- Makes texts of the keys `=` of the mapping at a place. -/
def settleKeys (place : Nat) : Construct Unit := do
  (← entriesAt place).forM fun (key, _) => do
    if (← nodeAt key).kind == .defaultValue then
      modify fun graph => graph.modify key fun node => { node with kind := .text }

/-- The entries that the node at a place contributes where it is merged, those of the later items of
a list in front. -/
def contribution (flatten : Nat → Construct Unit) (place : Nat) : Construct (List (Nat × Nat)) := do
  match (← nodeAt place).content with
  | .map _ =>
    flatten place
    entriesAt place
  | .list items =>
    let contributed ← items.mapM fun item => do
      let _ ← entriesAt item
      flatten item
      entriesAt item
    return contributed.reverse.flatten
  | .scalar _ => fail "only mappings can be merged"

/-- Puts the entries that are found for the mapping at a place in front of its own ones. -/
def mergeFound (find : Nat → Construct (List (Nat × Nat))) (place : Nat) : Construct Unit := do
  let found ← find place
  settleKeys place
  setEntries place (found ++ (← entriesAt place))

/-- Finds the entries that are merged into the mapping at a place, `found` being those of earlier
merge keys.  At most `bound` merge keys are left in the graph. -/
def findMerged : Nat → List (Nat × Nat) → Nat → Construct (List (Nat × Nat))
  | 0, found, _ => return found
  | bound + 1, found, place => do
    match ← takeMerge place with
    | none => return found
    | some source =>
      let contributed ← contribution (mergeFound (findMerged bound [])) source
      findMerged bound (found ++ contributed) place

/-- The number of entries of all mappings in the graph. -/
def countEntries : Construct Nat := do
  return (← get).foldl (fun count node =>
    match node.content with
    | .map entries => count + entries.length
    | _ => count) 0

/-- Merges into the mapping at a place what its merge keys name. -/
def flatten (place : Nat) : Construct Unit := do
  mergeFound (findMerged ((← countEntries) + 1) []) place

end Construct

end ResourceGraph.Yaml
