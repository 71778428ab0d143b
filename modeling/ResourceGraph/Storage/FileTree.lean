import ResourceGraph.Storage.FilePath

/-!
# Trees of files

Files held in memory below a working directory.  A directory exists when it is listed or when
something below it is.  A path is walked from one directory to the next, so that the first segment
that leads nowhere decides what becomes of it: two points lead back only from a directory that
exists, and a segment is found to be too long only where its directory is looked into.
-/

namespace ResourceGraph

/-- What a path leads to. -/
inductive FileState where
  /-- No file: nothing at all, or a directory. -/
  | missing
  | nameTooLong
  | file (content : ByteArray)

/-- An entry of a directory. -/
inductive FileNode where
  | directory
  | file (content : ByteArray)

/-- Files below a working directory. -/
structure FileTree where
  workingDirectory : FilePath
  /-- The entries by their segments below the working directory. -/
  nodes : List (List String × FileNode)

/-- Where a walk along the segments of a path ends. -/
inductive Walk where
  /-- At a place whose directory exists. -/
  | ended (place : List String)
  /-- Away from the working directory. -/
  | outside
  /-- Before a directory that does not exist. -/
  | missing
  /-- At a file that stands where a directory is needed. -/
  | blocked
  /-- Before a segment that is too long. -/
  | nameTooLong
deriving DecidableEq, Repr

/-- Why a directory cannot be made. -/
inductive DirectoryFault where
  /-- The directory above does not exist. -/
  | missingAbove
  /-- A file stands where a directory above is needed. -/
  | blocked
  /-- A file has the name of the directory. -/
  | taken
  | nameTooLong
deriving DecidableEq, Repr

namespace FileTree

/-- The segments of a path below the working directory, none if it leads elsewhere. -/
def segmentsBelow? (tree : FileTree) (path : FilePath) : Option (List String) :=
  let base := tree.workingDirectory
  if base.root == path.root && base.segments.isPrefixOf path.segments then
    some (path.segments.drop base.segments.length)
  else if path.root.isEmpty then some path.segments
  else none

/-- The file at a place. -/
def file? (tree : FileTree) (place : List String) : Option ByteArray :=
  match tree.nodes.lookup place with
  | some (.file content) => some content
  | _ => none

/-- Whether a directory is at a place. -/
def isDirectory (tree : FileTree) (place : List String) : Bool :=
  place.isEmpty || tree.nodes.any fun (listed, node) =>
    place.isPrefixOf listed && (place.length < listed.length || node matches .directory)

/-- The walk along segments from a place below the working directory, or from above it. -/
def walk (tree : FileTree) (place : Option (List String)) : List String → Walk
  | [] =>
    match place with
    | some reached => .ended reached
    | none => .outside
  | segment :: rest =>
    match place with
    | none =>
      if FilePath.isSegmentTooLong segment then .nameTooLong
      else if segment == ".." then tree.walk none rest
      else .outside
    | some reached =>
      if (tree.file? reached).isSome then .blocked
      else if !tree.isDirectory reached then .missing
      else if FilePath.isSegmentTooLong segment then .nameTooLong
      else if segment != ".." then tree.walk (some (reached ++ [segment])) rest
      else tree.walk (if reached.isEmpty then none else some reached.dropLast) rest

/-- The walk along a path. -/
def walkPath (tree : FileTree) (path : FilePath) : Walk :=
  if path.isTooLong then .nameTooLong
  else
    match tree.segmentsBelow? path with
    | some segments => tree.walk (some []) segments
    | none => tree.walk none path.segments

/-- What a path leads to. -/
def state (tree : FileTree) (path : FilePath) : FileState :=
  if path.isCutShort then .missing
  else
    match tree.walkPath path with
    | .ended place => ((tree.file? place).map FileState.file).getD .missing
    | .nameTooLong => .nameTooLong
    | .outside | .missing | .blocked => .missing

/-! ## Making directories -/

/-- The tree with a directory, which may exist already, made in an existing one. -/
def make (tree : FileTree) (path : FilePath) : Except DirectoryFault FileTree :=
  match tree.walkPath path with
  | .ended place =>
    if (tree.file? place).isSome then .error .taken
    else if tree.isDirectory place then .ok tree
    else .ok { tree with nodes := tree.nodes ++ [(place, .directory)] }
  | .outside =>
    if path.segments.any FilePath.isSegmentTooLong then .error .nameTooLong else .ok tree
  | .missing => .error .missingAbove
  | .blocked => .error .blocked
  | .nameTooLong => .error .nameTooLong

/-- The tree with a directory made together with the missing ones above it; the segments of its path
come last one first. -/
def makeFrom (tree : FileTree) (root : String) : List String → Except DirectoryFault FileTree
  | [] => .ok tree
  | segment :: above =>
    let path : FilePath := ⟨root, (segment :: above).reverse⟩
    match tree.make path with
    | .error .missingAbove => do (← tree.makeFrom root above).make path
    | made => made

/-- The tree with a directory made together with the missing ones above it. -/
def makeAll (tree : FileTree) (path : FilePath) : Except DirectoryFault FileTree :=
  tree.makeFrom path.root path.segments.reverse

/-- The place that a path leads to, none if it leads to no place below the working directory. -/
def place? (tree : FileTree) (path : FilePath) : Option (List String) :=
  match tree.walkPath path with
  | .ended place => some place
  | _ => none

end FileTree

end ResourceGraph
