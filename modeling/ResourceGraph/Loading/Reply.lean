import ResourceGraph.Packing.Basic
import ResourceGraph.Text.Lowercase

/-!
# Replies

A server answers with a status, headers and a body.  The names of headers are written in any case,
and headers of one name count as one with all their values.
-/

namespace ResourceGraph

/-- The headers of a reply: their names and values. -/
abbrev Headers := List (String × String)

namespace Headers

/-- The values of all headers with a name, separated by commas. -/
def value (headers : Headers) (name : String) : String :=
  ", ".intercalate ((headers.filter fun header => Text.lower header.1 == name).map Prod.snd)

/-- Whether headers consist of ASCII characters; no others can be sent. -/
def areSendable (headers : Headers) : Bool :=
  headers.all fun (name, text) => (name ++ text).toList.all fun c => c.val < 128

/-- The packings of the body that headers name, the first to be applied in front. -/
def packings (headers : Headers) : List Packing :=
  ((headers.value "content-encoding").toList.splitOn ',').filterMap fun name =>
    Packing.ofName? (String.ofList name)

/-- The bytes of a body without the packings that headers name. -/
def unpack (headers : Headers) (body : String) : Except Packing.Fault (List Nat) :=
  Packing.unpackAll headers.packings (body.toUTF8.toList.map UInt8.toNat)

end Headers

/-- What comes back from an address. -/
inductive Reply where
  | failed (reason : String)
  | answered (status : Int) (headers : Headers) (body : String)
deriving DecidableEq, Repr

end ResourceGraph
