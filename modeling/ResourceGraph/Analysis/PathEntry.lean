import ResourceGraph.Document.Basic
import ResourceGraph.Path.Instance

/-!
# Declared paths

A survey of the paths of a document: which operations each of them declares, and whether it is the
path of an instance.
-/

namespace ResourceGraph

/-- A declared path. -/
structure PathEntry where
  path : String
  methods : List Method
  isInstance : Bool
deriving DecidableEq, Repr

/-- The declared paths in code point order. -/
def Document.pathEntries (document : Document) : List PathEntry :=
  document.paths.sorted.map fun (path, item) =>
    { path, methods := item.operations.map Prod.fst, isInstance := Path.isInstance path }

end ResourceGraph
