/-!
# Selection of paths

Which paths of a document take part in the analysis: those that begin with one of the wanted texts,
if any are given, and that are not excluded.
-/

namespace ResourceGraph

/-- The texts that a path may begin with. -/
inductive PathPrefixes where
  | one (text : String)
  | many (texts : List String)
deriving DecidableEq, Repr

/-- The texts that a path may begin with, as a list. -/
def PathPrefixes.toList : PathPrefixes → List String
  | one text => [text]
  | many texts => texts

/-- Which paths take part in the analysis. -/
structure Selection where
  prefixes : Option PathPrefixes := none
  excluded : List String := []
deriving DecidableEq, Repr

/-- Whether a path takes part in the analysis. -/
def Selection.selects (selection : Selection) (path : String) : Bool :=
  !selection.excluded.contains path &&
    match selection.prefixes with
    | none => true
    | some prefixes => prefixes.toList.any fun text => text.toList.isPrefixOf path.toList

end ResourceGraph
