/-!
# Tables

A table assigns values to names and keeps the order in which it was written.  It is a list of
entries that answers every question by the first entry with the wanted name, so that a repeated
name does no harm; `names` lists the names in code point order, each of them once.
-/

namespace ResourceGraph

/-- Values by name, in the order in which they were written. -/
abbrev Table (α : Type) := List (String × α)

/-- A name put in front of the first of some names that is not smaller. -/
def insertName (name : String) : List String → List String
  | [] => [name]
  | other :: rest =>
    if name ≤ other then name :: other :: rest else other :: insertName name rest

/-- Names in code point order. -/
def sortNames (names : List String) : List String := names.foldr insertName []

namespace Table

variable {α : Type}

/-- The value of a name. -/
def get? (table : Table α) (name : String) : Option α := table.lookup name

/-- Whether a name has a value. -/
def has (table : Table α) (name : String) : Bool := (table.get? name).isSome

/-- The names in code point order, each of them once. -/
def names (table : Table α) : List String := sortNames (table.map Prod.fst).eraseDups

/-- The entries in the code point order of their names, one for each name. -/
def sorted (table : Table α) : List (String × α) :=
  table.names.filterMap fun name => (table.get? name).map (name, ·)

/-- The names whose value satisfies a condition, in code point order. -/
def namesWhere (table : Table α) (condition : α → Bool) : List String :=
  (table.sorted.filter fun entry => condition entry.2).map Prod.fst

/-- The table with the value of a name set: in place when the name has one already, at the end
otherwise. -/
def put (name : String) (value : α) : Table α → Table α
  | [] => [(name, value)]
  | (other, old) :: rest =>
    if other = name then (name, value) :: rest else (other, old) :: put name value rest

/-- The table that a list of entries writes, a repeated name keeping its first place and its last
value. -/
def ofList (entries : List (String × α)) : Table α :=
  entries.foldl (fun table entry => put entry.1 entry.2 table) []

end Table

end ResourceGraph
