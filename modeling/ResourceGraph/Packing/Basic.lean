import ResourceGraph.Packing.Frame
import ResourceGraph.Text.Blank
import ResourceGraph.Text.Lowercase

/-!
# Packings

The body of a reply may be packed, perhaps more than once.
-/

namespace ResourceGraph

/-- How bytes are packed. -/
inductive Packing where
  /-- Blocks in a short frame or in none. -/
  | deflate
  /-- Blocks in a long frame. -/
  | gzip
deriving DecidableEq, Repr

namespace Packing

/-- The packing with a name, none if the name is not known or stands for bytes as they are. -/
def ofName? (name : String) : Option Packing :=
  let lowered := Text.lower (Text.trim name)
  if lowered == "deflate" then some deflate
  else if lowered == "gzip" then some gzip
  else none

/-- The bytes that are packed. -/
def unpack (packing : Packing) (bytes : List Nat) : Except Fault (List Nat) :=
  match packing with
  | deflate =>
    match shortFrame.unpack bytes with
    | .ok unpacked => .ok unpacked
    | .error _ => Block.blocks.unpack bytes
  | gzip => (longFrame bytes).unpack bytes

/-- The bytes that are packed in several ways, the first of which was applied first. -/
def unpackAll (packings : List Packing) (bytes : List Nat) : Except Fault (List Nat) :=
  packings.foldrM unpack bytes

end Packing

end ResourceGraph
