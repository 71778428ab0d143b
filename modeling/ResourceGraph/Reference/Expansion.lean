import ResourceGraph.Reference.Pointer

/-!
# Expansion of references

A mapping whose `$ref` is a text stands for the value that the reference points to.  Expansion puts
that value in its place, the other entries of the mapping laid over it.

A reference is never followed while it is already being followed, so the references that are being
followed at any moment are distinct, and all of them occur in the document.  Hence the number of
reference texts in the document bounds the depth of following, and `follow` recurses on it.
-/

namespace ResourceGraph

/-- The key of a reference. -/
def referenceKey : String := "$ref"

/-- The reference that a mapping stands for. -/
def reference? (entries : List (Scalar × Value)) : Option String :=
  (Entries.get? entries referenceKey).bind Value.asText?

namespace Value

mutual

/-- The references that occur in a value at any depth.  A pair is not looked into. -/
def references : Value → List String
  | list items => itemReferences items
  | map entries => (reference? entries).toList ++ entryReferences entries
  | scalar _ | set _ | pair _ _ => []

/-- The references that occur in the items of a list. -/
def itemReferences : List Value → List String
  | [] => []
  | item :: rest => references item ++ itemReferences rest

/-- The references that occur in the values of a mapping. -/
def entryReferences : List (Scalar × Value) → List String
  | [] => []
  | (_, value) :: rest => references value ++ entryReferences rest

end

mutual

/-- A value with its references replaced by what `follow` gives for them. -/
def expandWith (follow : String → Except ReferenceError Value) :
    Value → Except ReferenceError Value
  | list items => do return list (← expandItems follow items)
  | map entries =>
    match reference? entries with
    | none => do return map (← expandEntries follow entries)
    | some reference => do
      let target ← follow reference
      match target with
      | map base => do return map (Entries.overlay base (← expandSiblings follow entries))
      | _ => return target
  | other => .ok other

/-- The items of a list with their references replaced. -/
def expandItems (follow : String → Except ReferenceError Value) :
    List Value → Except ReferenceError (List Value)
  | [] => .ok []
  | item :: rest => do return (← expandWith follow item) :: (← expandItems follow rest)

/-- The values of a mapping with their references replaced. -/
def expandEntries (follow : String → Except ReferenceError Value) :
    List (Scalar × Value) → Except ReferenceError (List (Scalar × Value))
  | [] => .ok []
  | (key, value) :: rest => do
    return (key, ← expandWith follow value) :: (← expandEntries follow rest)

/-- The values of a mapping with their references replaced, the reference of the mapping itself left
out. -/
def expandSiblings (follow : String → Except ReferenceError Value) :
    List (Scalar × Value) → Except ReferenceError (List (Scalar × Value))
  | [] => .ok []
  | (key, value) :: rest =>
    if key = Scalar.text referenceKey then expandSiblings follow rest
    else do return (key, ← expandWith follow value) :: (← expandSiblings follow rest)

end

/-- What a reference stands for in a document, while the references of `chain` are being followed;
at most `depth` further ones are followed inside one another. -/
def follow (root : Value) : Nat → List String → String → Except ReferenceError Value
  | 0, chain, reference => .error (.circular (chain ++ [reference]))
  | depth + 1, chain, reference =>
    if chain.contains reference then .error (.circular (chain ++ [reference]))
    else do
      let target ← Pointer.locate root reference
      expandWith (follow root depth (chain ++ [reference])) target

/-- A part of a document with its references replaced, while the references of `chain` are being
followed. -/
def expandFrom (root : Value) (chain : List String) (value : Value) :
    Except ReferenceError Value :=
  expandWith (follow root (root.references.length + 1) chain) value

/-- A document with its references replaced. -/
def expand (root : Value) : Except ReferenceError Value := expandFrom root [] root

end Value

end ResourceGraph
