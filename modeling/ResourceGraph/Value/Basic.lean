import ResourceGraph.Number.Binary64
import ResourceGraph.Text.Blank
import ResourceGraph.Text.Lowercase
import ResourceGraph.Value.Date

/-!
# Document values

A document is a tree of mappings, lists and scalars.  A mapping lists its entries in the order in
which the document declares them; its keys are scalars, in practice nearly always texts.  Every
question about a mapping is answered by its first entry with the wanted key, so that a list of
entries stands for the mapping it looks up.  Some notations also declare sets of scalars and pairs
of values; nothing inside them is ever looked up.
-/

namespace ResourceGraph

/-- A value without parts. -/
inductive Scalar where
  | null
  | bool (value : Bool)
  | int (value : Int)
  | float (value : Binary64)
  | text (value : String)
  | bytes (value : List UInt8)
  | date (value : CalendarDate)
  | moment (value : Moment)
deriving DecidableEq, Repr, Inhabited

/-- A value of a document. -/
inductive Value where
  | scalar (value : Scalar)
  | list (items : List Value)
  | map (entries : List (Scalar × Value))
  | set (members : List Scalar)
  | pair (first second : Value)
deriving Repr, Inhabited

namespace Scalar

/-- Whether two scalars are the same key: numbers and truth values are compared as numbers. -/
def same : Scalar → Scalar → Bool
  | null, null => true
  | text left, text right => left == right
  | bytes left, bytes right => left == right
  | date left, date right => left == right
  | moment left, moment right => left.same right
  | float left, float right => left.same right
  | float left, int right => left.equalsInt right
  | float left, bool right => left.equalsInt right.toInt
  | int left, float right => right.equalsInt left
  | bool left, float right => right.equalsInt left.toInt
  | int left, int right => left == right
  | int left, bool right => left == right.toInt
  | bool left, int right => left.toInt == right
  | bool left, bool right => left == right
  | _, _ => false

/-- Whether a scalar counts as absent where a default applies. -/
def isEmpty : Scalar → Bool
  | null => true
  | bool value => !value
  | int value => value == 0
  | float value => value.isZero
  | text value => value.isEmpty
  | bytes value => value.isEmpty
  | date _ => false
  | moment _ => false

/-- The name of the kind of a scalar in messages. -/
def kindName : Scalar → String
  | null => "NoneType"
  | bool _ => "bool"
  | int _ => "int"
  | float _ => "float"
  | text _ => "str"
  | bytes _ => "bytes"
  | date _ => "date"
  | moment _ => "datetime"

/-- The text that a field for texts takes from a scalar: a text itself, or bytes that write one. -/
def fieldText? : Scalar → Option String
  | text value => some value
  | bytes value => String.fromUTF8? ⟨value.toArray⟩
  | _ => none

end Scalar

namespace Value

/-- The null value. -/
@[match_pattern] abbrev null : Value := scalar Scalar.null

/-- A text value. -/
@[match_pattern] abbrev text (value : String) : Value := scalar (Scalar.text value)

/-- A truth value. -/
@[match_pattern] abbrev bool (value : Bool) : Value := scalar (Scalar.bool value)

/-- Whether a value counts as absent where a default applies. -/
def isEmpty : Value → Bool
  | scalar value => value.isEmpty
  | list items => items.isEmpty
  | map entries => entries.isEmpty
  | set members => members.isEmpty
  | pair _ _ => false

/-- The name of the kind of a value in messages. -/
def kindName : Value → String
  | scalar value => value.kindName
  | list _ => "list"
  | map _ => "dict"
  | set _ => "set"
  | pair _ _ => "tuple"

/-- Whether a value is a mapping. -/
def isMap : Value → Bool
  | map _ => true
  | _ => false

/-- The text of a value that is one. -/
def asText? : Value → Option String
  | text value => some value
  | _ => none

/-- The text that a field for texts takes from a value. -/
def fieldText? : Value → Option String
  | scalar value => value.fieldText?
  | _ => none

/-- The scalar of a value that is one. -/
def asScalar? : Value → Option Scalar
  | scalar value => some value
  | _ => none

/-- The entries of a value that is a mapping. -/
def asMap? : Value → Option (List (Scalar × Value))
  | map entries => some entries
  | _ => none

/-- The items of a value that a field for lists takes: a list, a set or a pair. -/
def fieldItems? : Value → Option (List Value)
  | list items => some items
  | set members => some (members.map scalar)
  | pair first second => some [first, second]
  | _ => none

/-- The values met when a value is gone through item by item: its items, the characters of a text,
the numbers of bytes, the keys of a mapping.  Other values cannot be gone through. -/
def elements? : Value → Option (List Value)
  | text value => some (value.toList.map fun c => text (String.singleton c))
  | scalar (.bytes value) => some (value.map fun byte => scalar (.int byte.toNat))
  | map entries => some (entries.map fun entry => scalar entry.1)
  | other => other.fieldItems?

/-- Whether a value is true or a text that says so. -/
def isTrue : Value → Bool
  | text value => Text.lower (Text.trim value) == "true"
  | bool value => value
  | _ => false

end Value

/-! ## Mappings as lists of entries -/

namespace Entries

/-- The value of a text key. -/
def get? (entries : List (Scalar × Value)) (name : String) : Option Value :=
  entries.lookup (Scalar.text name)

/-- The value of a text key, null when the key is missing. -/
def getOrNull (entries : List (Scalar × Value)) (name : String) : Value :=
  (get? entries name).getD Value.null

/-- The entries with the value of `key` set: in place when the mapping already has the key, at the
end otherwise. -/
def put (key : Scalar) (value : Value) : List (Scalar × Value) → List (Scalar × Value)
  | [] => [(key, value)]
  | (other, old) :: rest =>
    if other.same key then (other, value) :: rest else (other, old) :: put key value rest

/-- The entries of one mapping laid over those of another. -/
def overlay (base upper : List (Scalar × Value)) : List (Scalar × Value) :=
  upper.foldl (fun entries entry => put entry.1 entry.2 entries) base

/-- The mapping that a list of entries declares, a repeated key keeping its first place and its last
value. -/
def ofList (entries : List (Scalar × Value)) : List (Scalar × Value) :=
  overlay [] entries

end Entries

end ResourceGraph
