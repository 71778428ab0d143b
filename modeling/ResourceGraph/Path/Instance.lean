import ResourceGraph.Rejection
import ResourceGraph.Table

/-!
# Instance paths

The path of one instance of a resource is the path of its collection followed by a parameter in
braces and perhaps a slash, as in `/v1/cdns/{id}`.  Such a path splits in exactly one way into the
root before the parameter, the name of the parameter, and the tail after it; a line feed at the very
end counts as part of the tail.
-/

namespace ResourceGraph.Path

/-- Whether a character may occur in a path segment or in the name of a parameter. -/
def isSegmentCharacter (c : Char) : Bool := c != '/' && c != '{' && c != '}'

/-- The parts of an instance path. -/
structure InstanceParts where
  /-- What stands before the parameter, with the slash at its end. -/
  root : List Char
  parameter : List Char
  tail : List Char
deriving DecidableEq, Repr

/-- Splits off an expected last character; the characters are given last one first. -/
def splitLast (last : Char) : List Char → List Char × List Char
  | [] => ([], [])
  | c :: rest => if c = last then ([c], rest) else ([], c :: rest)

/-- Splits the characters of a path before its tail, given last one first. -/
def splitParameter? (tail : List Char) : List Char → Option InstanceParts
  | '}' :: rest =>
    let parameter := rest.takeWhile isSegmentCharacter
    match rest.dropWhile isSegmentCharacter with
    | '{' :: '/' :: root =>
      if parameter.isEmpty || root.contains '\n' then none
      else some ⟨('/' :: root).reverse, parameter.reverse, tail⟩
    | _ => none
  | _ => none

/-- The parts of the characters of an instance path. -/
def instanceParts? (path : List Char) : Option InstanceParts :=
  let (feed, beforeFeed) := splitLast '\n' path.reverse
  let (slash, reversed) := splitLast '/' beforeFeed
  splitParameter? (slash ++ feed) reversed

/-- Whether a path is that of one instance of a resource. -/
def isInstance (path : String) : Bool := (instanceParts? path.toList).isSome

/-- The characters of a path without the slashes at its end. -/
def withoutSlashes (path : List Char) : List Char :=
  (path.reverse.dropWhile (· == '/')).reverse

/-- A path without the slashes at its end. -/
def trimSlashes (path : String) : String := String.ofList (withoutSlashes path.toList)

/-- The instance paths among some paths, in code point order. -/
def instances (paths : List String) : List String := sortNames (paths.filter isInstance)

/-! ## Collection paths

The collection of an instance is declared under the root of the instance path, with or without the
slash at its end. -/

/-- The root of an instance path, with the slash at its end.  The root must name a collection: it
may be neither a mere slash nor an instance path itself. -/
def rootOf (path : String) : Except Rejection String :=
  match instanceParts? path.toList with
  | none => .error ⟨path, .notInstancePath⟩
  | some parts =>
    let root := String.ofList parts.root
    if root == "/" || isInstance (trimSlashes root) then .error ⟨path, .ambiguousRootPath root⟩
    else .ok root

/-- The collection path that is declared for an instance path, `declared` telling which paths
are. -/
def findRoot (declared : String → Bool) (path : String) : Except Rejection String := do
  let root ← rootOf path
  if declared root then return root
  else if declared (trimSlashes root) then return trimSlashes root
  else throw ⟨path, .noMatchingRootPath⟩

/-- The pairs of a collection path and an instance path, and the instance paths without a
collection, each in the order of the instance paths. -/
def pair (declared : String → Bool) (selected : List String) :
    List (String × String) × List Rejection :=
  (instances selected).foldr
    (fun path (pairs, rejections) =>
      match findRoot declared path with
      | .ok root => ((root, path) :: pairs, rejections)
      | .error rejection => (pairs, rejection :: rejections))
    ([], [])

end ResourceGraph.Path
