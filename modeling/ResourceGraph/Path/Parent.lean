import ResourceGraph.Path.Instance
import ResourceGraph.Text.Digit

/-!
# Names and parents of resources

A resource is named after the last segment of its collection path.  A version such as `v1` in front
of it, within the section after the last parameter, is appended, so that two versions of a
collection have different names.

A path such as `/v1/cdns/{cdn_id}/v1/firewalls` nests its resource under another one, whose
collection is `/v1/cdns` and whose instance is `/v1/cdns/{cdn_id}`.  Each block of plain segments
followed by a parameter is one parent, the outermost first.
-/

namespace ResourceGraph

/-! ## Names -/

namespace Path

/-- The characters after the last closing brace. -/
def lastSection (path : List Char) : List Char :=
  (path.reverse.takeWhile (· != '}')).reverse

/-- The segments between slashes, empty ones left out. -/
def segments (path : List Char) : List (List Char) :=
  (path.splitOn '/').filter fun segment => !segment.isEmpty

/-- Whether a segment is a version: `v` and digits, a line feed at the end being passed over. -/
def isVersion (segment : List Char) : Bool :=
  match segment with
  | 'v' :: rest =>
    let digits := if rest.getLast? = some '\n' then rest.dropLast else rest
    !digits.isEmpty && digits.all Text.isDecimalDigit
  | _ => false

/-- The name of the resource whose collection has a path; `preferred` takes the place of the last
segment. -/
def resourceName (path : String) (preferred : Option String) : String :=
  let chosen := preferred.getD ""
  let own := segments (lastSection path.toList)
  match own.getLast? with
  | none => chosen
  | some last =>
    let name := if chosen.isEmpty then String.ofList last else chosen
    match own.dropLast.reverse.find? isVersion with
    | some version => name ++ "_" ++ String.ofList version
    | none => name

end Path

/-! ## Parents -/

/-- A resource that another one is nested under. -/
structure Parent where
  rootPath : String
  instancePath : String
  name : String
deriving DecidableEq, Repr

/-- The name of the property that holds the identifier of a parent. -/
def Parent.propertyName (parent : Parent) : String := parent.name ++ "_id"

/-- The names of parents joined, the outermost first. -/
def Parent.fullName (parents : List Parent) : String :=
  "_".intercalate (parents.map Parent.name)

namespace Path

/-- A block of plain segments followed by a parameter. -/
structure Block where
  root : List Char
  parameter : List Char
deriving DecidableEq, Repr

/-- The characters of a block. -/
def Block.text (block : Block) : List Char :=
  block.root ++ '/' :: '{' :: block.parameter ++ ['}']

/-- The number of characters in front that belong to plain segments, each after its slash. -/
def plainLength : List Char → Nat
  | [] => 0
  | c :: rest =>
    if isSegmentCharacter c || (c == '/' && rest.head?.any isSegmentCharacter) then
      plainLength rest + 1
    else 0

/-- The block in front of some characters. -/
def blockAt? (path : List Char) : Option Block :=
  let count := if path.head? = some '/' then plainLength path else 0
  match path.drop count with
  | '/' :: '{' :: rest =>
    let parameter := rest.takeWhile isSegmentCharacter
    if count = 0 || parameter.isEmpty ||
        (rest.dropWhile isSegmentCharacter).head? != some '}' then none
    else some ⟨path.take count, parameter⟩
  | _ => none

/-- The blocks of a path from left to right; the first `skipped` characters are passed over. -/
def blocksFrom : Nat → List Char → List Block
  | _, [] => []
  | skipped + 1, _ :: rest => blocksFrom skipped rest
  | 0, c :: rest =>
    match blockAt? (c :: rest) with
    | some block => block :: blocksFrom (block.text.length - 1) rest
    | none => blocksFrom 0 rest

/-- The parents that blocks describe, `before` being the characters of the blocks before them. -/
def parentsOf (before : List Char) : List Block → List Parent
  | [] => []
  | block :: rest =>
    let root := String.ofList (before ++ block.root)
    let text := before ++ block.text
    ⟨root, String.ofList text, resourceName root none⟩ :: parentsOf text rest

/-- The parents of the resource whose collection has a path, none if it is not nested. -/
def parents (path : String) : List Parent := parentsOf [] (blocksFrom 0 path.toList)

end Path

end ResourceGraph
