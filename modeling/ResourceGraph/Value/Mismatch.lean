import ResourceGraph.Value.Text

/-!
# Mismatches

Where a field has to hold a text, a list or a mapping and holds something else, the place of the
field is reported together with what was expected.  All mismatches of a value are reported at once,
in the order of its fields.
-/

namespace ResourceGraph

/-- The kind of value that a field should have. -/
inductive Expectation where
  | text
  /-- Bytes are accepted where they write a text. -/
  | writtenText
  | list
  | mapping
deriving DecidableEq, Repr

/-- A step on the way to a field. -/
inductive LocationStep where
  | name (name : String)
  | index (index : Int)
deriving DecidableEq, Repr

/-- A field without the kind of value that it should have. -/
structure Mismatch where
  location : List LocationStep
  expected : Expectation
deriving DecidableEq, Repr

namespace Mismatch

/-- The step that stands for the key of a mapping: an integer of at most 64 bits is an index, one
that is too long to be written has a name that says so. -/
def keyStep : Scalar → LocationStep
  | .text value => .name value
  | .int value =>
    if Int64.minValue.toInt ≤ value ∧ value ≤ Int64.maxValue.toInt then .index value
    else if Number.isTooLong value then .name "<unprintable int object>"
    else .name (toString value)
  | .bool value => .index value.toInt
  | other => .name other.shownInside

/-- A mismatch seen from outside a field. -/
def within (step : LocationStep) (mismatch : Mismatch) : Mismatch :=
  { mismatch with location := step :: mismatch.location }

/-- The mismatch of a field that should hold a text. -/
def ofText (value : Value) : List Mismatch :=
  if value.fieldText?.isSome then []
  else
    match value with
    | .scalar (.bytes _) => [⟨[], .writtenText⟩]
    | _ => [⟨[], .text⟩]

/-- The mismatch of a field that should hold a text or nothing. -/
def ofOptionalText (value : Value) : List Mismatch :=
  match value with
  | .null => []
  | other => ofText other

/-- The mismatches of a field with a name. -/
def ofField (name : String) (mismatches : List Mismatch) : List Mismatch :=
  mismatches.map (within (.name name))

/-- The mismatches of the items of a list. -/
def ofItems (check : Value → List Mismatch) (items : List Value) : List Mismatch :=
  (items.zipIdx.map fun (item, index) => (check item).map (within (.index index))).flatten

/-- The mismatch of a key of a mapping that should be a text. -/
def ofKey (key : Scalar) : List Mismatch :=
  (ofText (.scalar key)).map fun mismatch =>
    within (keyStep key) (within (.name "[key]") mismatch)

/-- The mismatches of a list of texts. -/
def ofTexts (value : Value) : List Mismatch :=
  match value.fieldItems? with
  | some items => ofItems ofText items
  | none => [⟨[], .list⟩]

/-- The mismatches of a requirement: scheme names with lists of scopes. -/
def ofRequirement : Value → List Mismatch
  | .map entries =>
    entries.flatMap fun (key, scopes) =>
      ofKey key ++ (ofTexts scopes).map (within (keyStep key))
  | _ => [⟨[], .mapping⟩]

/-- The text of a step. -/
def stepText : LocationStep → String
  | .name name => name
  | .index index => toString index

/-- The words that explain a mismatch. -/
def message (mismatch : Mismatch) : String :=
  let expected :=
    match mismatch.expected with
    | .text => "a text"
    | .writtenText => "a text and no other bytes"
    | .list => "a list"
    | .mapping => "a mapping"
  ".".intercalate (mismatch.location.map stepText) ++ " should be " ++ expected

/-- The words that explain several mismatches. -/
def summary (mismatches : List Mismatch) : String :=
  "; ".intercalate (mismatches.map message)

end Mismatch

end ResourceGraph
