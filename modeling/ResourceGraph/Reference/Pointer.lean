import ResourceGraph.Number.Integer
import ResourceGraph.Value.Text

/-!
# Pointers into a document

A reference `#/a/b` points to a place inside the document: each segment is the key of a mapping or
the index of a list.  Inside a segment `~1` stands for `/` and `~0` for `~`.
-/

namespace ResourceGraph

/-- Why references cannot be expanded. -/
inductive ReferenceError where
  /-- The reference leaves the document. -/
  | external (reference : String)
  | missingKey (reference key : String)
  | invalidIndex (reference segment : String)
  /-- A segment follows a value that has no parts. -/
  | noParts (reference kind : String)
  /-- A reference is met again while it is being expanded. -/
  | circular (chain : List String)
deriving DecidableEq, Repr

/-- The text of an error. -/
def ReferenceError.message : ReferenceError → String
  | external reference =>
    s!"External $ref not supported: {reference}. " ++
      "Only internal references (#/...) are handled."
  | missingKey reference key => s!"Cannot resolve $ref '{reference}': key '{key}' not found"
  | invalidIndex reference segment =>
    s!"Cannot resolve $ref '{reference}': invalid array index '{segment}'"
  | noParts reference kind => s!"Cannot resolve $ref '{reference}': cannot navigate into {kind}"
  | circular chain => "Circular $ref detected: " ++ " -> ".intercalate chain

namespace Pointer

/-- The characters that a segment writes. -/
def decodeSegment : List Char → List Char
  | '~' :: '1' :: rest => '/' :: decodeSegment rest
  | '~' :: '0' :: rest => '~' :: decodeSegment rest
  | c :: rest => c :: decodeSegment rest
  | [] => []

/-- The written form of the characters of a key. -/
def encodeSegment : List Char → List Char
  | [] => []
  | c :: rest =>
    if c = '~' then '~' :: '0' :: encodeSegment rest
    else if c = '/' then '~' :: '1' :: encodeSegment rest
    else c :: encodeSegment rest

/-- The segments of a reference into the document, none if it leaves the document. -/
def segments? (reference : String) : Option (List String) :=
  match reference.toList with
  | '#' :: '/' :: rest =>
    some ((rest.splitOn '/').map fun segment => String.ofList (decodeSegment segment))
  | _ => none

/-- The item of a list at an index; a negative index counts from the end. -/
def item? (items : List Value) (index : Int) : Option Value :=
  if 0 ≤ index then items[index.toNat]?
  else if index.natAbs ≤ items.length then items[items.length - index.natAbs]?
  else none

/-- The part of a value that a segment names. -/
def step (reference : String) (current : Value) (segment : String) :
    Except ReferenceError Value :=
  match current with
  | .map entries =>
    match Entries.get? entries segment with
    | some value => .ok value
    | none => .error (.missingKey reference segment)
  | .list items =>
    match (Number.readInteger segment).toOption.bind (item? items) with
    | some value => .ok value
    | none => .error (.invalidIndex reference segment)
  | other => .error (.noParts reference other.kindName)

/-- The value that a reference points to. -/
def locate (root : Value) (reference : String) : Except ReferenceError Value :=
  match segments? reference with
  | none => .error (.external reference)
  | some segments => segments.foldlM (step reference) root

end Pointer

end ResourceGraph
