import ResourceGraph.Text.Width

/-!
# Clusters

A terminal shows some characters together, as one cluster.  A character that takes no column belongs
to the cluster before it; so does whatever follows a joiner.  The emoji selector may widen the
character that was last given columns of its own.
-/

namespace ResourceGraph.Text

/-- The character that joins its neighbours into one cluster. -/
def joiner : Char := '\u200D'

/-- The character that selects the emoji form of the character before it. -/
def emojiSelector : Char := '\uFE0F'

/-- The character that selects the text form of the character before it. -/
def textSelector : Char := '\uFE0E'

/-- Characters that are shown together. -/
structure Cluster where
  characters : List Char
  /-- The columns that the cluster takes. -/
  columns : Nat
deriving DecidableEq, Repr

namespace Cluster

/-- A cluster with one more character that adds some columns. -/
def extend (cluster : Cluster) (c : Char) (columns : Nat) : Cluster :=
  ⟨cluster.characters ++ [c], cluster.columns + columns⟩

end Cluster

/-- How far some characters have been gone through. -/
structure ClusterState where
  /-- The cluster that the next character may belong to. -/
  current : Option Cluster := none
  /-- The last character that was given columns of its own. -/
  measured : Option Char := none
  /-- Whether a joiner stands before the next character. -/
  joined : Bool := false

namespace ClusterState

/-- The columns that a selector adds. -/
def widening (state : ClusterState) : Nat := if state.measured.any isWidened then 1 else 0

/-- The state after a character, and the cluster that the character closes. -/
def step (state : ClusterState) (c : Char) : ClusterState × List Cluster :=
  match state.current with
  | none =>
    let columns := if c = joiner || c = emojiSelector then 0 else width c
    ({ current := some ⟨[c], columns⟩, measured := if columns = 0 then none else some c }, [])
  | some cluster =>
    if state.joined then ({ state with current := cluster.extend c 0, joined := false }, [])
    else if c = joiner then ({ state with current := cluster.extend c 0, joined := true }, [])
    else if c = emojiSelector then
      ({ state with
          current := cluster.extend c state.widening
          measured := if state.widening = 0 then state.measured else none }, [])
    else if width c = 0 then ({ state with current := cluster.extend c 0 }, [])
    else ({ current := some ⟨[c], width c⟩, measured := some c }, [cluster])

end ClusterState

/-- The clusters of some characters, others having been gone through. -/
def clustersAfter (state : ClusterState) : List Char → List Cluster
  | [] => state.current.toList
  | c :: rest =>
    let (next, closed) := state.step c
    closed ++ clustersAfter next rest

/-- The clusters of some characters. -/
def clusters (characters : List Char) : List Cluster := clustersAfter {} characters

/-- The columns of some characters; `measured` is the last one before them that was given columns of
its own, and `joined` tells whether a joiner stands before them. -/
def columnsAfter (measured : Option Char) (joined : Bool) : List Char → Nat
  | [] => 0
  | c :: rest =>
    if joined then columnsAfter measured false rest
    else if c = joiner then columnsAfter measured true rest
    else if c = emojiSelector then
      (if measured.any isWidened then 1 else 0) + columnsAfter none false rest
    else if width c = 0 then columnsAfter measured false rest
    else width c + columnsAfter (some c) false rest

/-- The columns that some characters take. -/
def columns (characters : List Char) : Nat := columnsAfter none false characters

end ResourceGraph.Text
