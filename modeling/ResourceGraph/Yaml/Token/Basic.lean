/-!
# Tokens of a YAML text
-/

namespace ResourceGraph.Yaml

/-- A line that instructs the reader of a document. -/
inductive Directive where
  | version (major : Nat)
  | tagPrefix (handle : String) (text : String)
  | unknown
deriving DecidableEq, Repr

/-- A tag: a suffix, shortened by a handle or not. -/
structure Tag where
  handle : Option String
  suffix : String
deriving DecidableEq, Repr

/-- A token.  The tokens that open a block, close it or announce a key have no characters of their
own: they follow from the indentation and from the `:` after a key. -/
inductive Token where
  | directive (directive : Directive)
  | documentStart
  | documentEnd
  | blockListStart
  | blockMapStart
  | blockEnd
  | flowListStart
  | flowListEnd
  | flowMapStart
  | flowMapEnd
  | blockEntry
  | flowEntry
  | key
  | value
  | alias (name : String)
  | anchor (name : String)
  | tag (tag : Tag)
  /-- A scalar; `plain` when it stands without quotes and is no block of lines. -/
  | scalar (text : String) (plain : Bool)
deriving DecidableEq, Repr

end ResourceGraph.Yaml
