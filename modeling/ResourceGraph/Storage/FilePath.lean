/-!
# Paths of files

A path is a root, empty for a path below the working directory, and the segments between slashes.
Empty segments and single points do not count.
-/

namespace ResourceGraph

/-- The path of a file. -/
structure FilePath where
  /-- The slashes that an absolute path begins with. -/
  root : String
  segments : List String
deriving DecidableEq, Repr

namespace FilePath

/-- The slashes that a path begins with, as far as they count: exactly two are kept apart from
one. -/
def rootOf (characters : List Char) : String :=
  match characters.takeWhile (· == '/') with
  | [] => ""
  | [_, _] => "//"
  | _ => "/"

/-- The path that a text writes. -/
def ofText (text : String) : FilePath :=
  { root := rootOf text.toList
    segments := ((text.toList.splitOn '/').map String.ofList).filter fun segment =>
      segment != "" && segment != "." }

/-- The text of a path; the working directory itself is a point. -/
def text (path : FilePath) : String :=
  let written := path.root ++ "/".intercalate path.segments
  if written.isEmpty then "." else written

/-- The path of an entry of a directory. -/
def entry (path : FilePath) (name : String) : FilePath :=
  { path with segments := path.segments ++ [name] }

/-- The path of the directory around a file. -/
def directory (path : FilePath) : FilePath := { path with segments := path.segments.dropLast }

/-- The extension of the last segment with its point; a point at either end makes none. -/
def extension (path : FilePath) : String :=
  let reversed := (path.segments.getLast?.getD "").toList.reverse
  let ending := reversed.takeWhile (· != '.')
  match reversed.dropWhile (· != '.') with
  | '.' :: _ :: _ => if ending.isEmpty then "" else String.ofList ('.' :: ending.reverse)
  | _ => ""

/-- The greatest number of bytes in a segment. -/
def segmentLimit : Nat := 255

/-- The greatest number of bytes in a path. -/
def lengthLimit : Nat := 4095

/-- Whether a segment is too long to name an entry of a directory. -/
def isSegmentTooLong (segment : String) : Bool := segmentLimit < segment.utf8ByteSize

/-- Whether a path holds the character that ends every path, so that it cannot be looked up. -/
def isCutShort (path : FilePath) : Bool := path.text.toList.contains '\x00'

/-- Whether a path as a whole is too long to be looked up. -/
def isTooLong (path : FilePath) : Bool := lengthLimit < path.text.utf8ByteSize

end FilePath

end ResourceGraph
