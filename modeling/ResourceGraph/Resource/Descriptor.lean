import ResourceGraph.Number.Binary64
import ResourceGraph.Path.Parent

/-!
# Descriptors

What the analysis publishes about a resource or a data source: its name, where it lives, the
properties of its payload and the operations on it.
-/

namespace ResourceGraph

/-- A field of a payload. -/
structure PropertyDescriptor where
  name : String
  type : String
  description : Option String
  required : Bool
  readOnly : Bool
  /-- Whether the property identifies the resource. -/
  identifier : Bool
  immutable : Bool
  forceNew : Bool
  sensitive : Bool
  preferredName : Option String
  itemsType : Option String
  properties : List PropertyDescriptor

/-- An operation on a resource or a data source. -/
structure ResourceOperation where
  method : String
  path : String
  operationId : Option String
  /-- How long the operation may take, in seconds. -/
  timeout : Option Binary64
  /-- The names of the schemes that protect the operation. -/
  security : List String
  /-- The headers that the caller configures. -/
  headerParameters : List String
deriving DecidableEq, Repr

/-- The operations on a resource. -/
structure ResourceOperations where
  create : ResourceOperation
  read : ResourceOperation
  update : Option ResourceOperation
  delete : Option ResourceOperation
deriving DecidableEq, Repr

/-- The names of the operations that a resource has. -/
def ResourceOperations.names (operations : ResourceOperations) : List String :=
  ["create", "read"] ++ (if operations.update.isSome then ["update"] else []) ++
    (if operations.delete.isSome then ["delete"] else [])

/-- A resource. -/
structure ResourceDescriptor where
  name : String
  rootPath : String
  instancePath : String
  host : Option String
  region : Option String
  /-- The name of the property that identifies an instance. -/
  identifier : String
  properties : List PropertyDescriptor
  operations : ResourceOperations
  /-- The resources it is nested under, the outermost first. -/
  parents : List Parent
  ignored : Bool
  /-- Whether nothing is sent to create the resource. -/
  computedOnly : Bool

/-- Whether a resource is nested under another one. -/
def ResourceDescriptor.isNested (resource : ResourceDescriptor) : Bool := !resource.parents.isEmpty

/-- A data source. -/
structure DataSourceDescriptor where
  name : String
  path : String
  host : Option String
  properties : List PropertyDescriptor
  read : ResourceOperation

end ResourceGraph
