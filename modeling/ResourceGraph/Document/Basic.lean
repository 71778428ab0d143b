import ResourceGraph.Table
import ResourceGraph.Value.Basic

/-!
# API documents

The typed view of a Swagger 2.0 document whose references have been expanded: the paths with the
operations declared under them, the schemas of what they take and answer, and the declared ways of
authentication.  Vendor extensions, the entries whose key begins with `x-`, are kept as they are.
-/

namespace ResourceGraph

/-- The vendor extensions of a part of the document. -/
abbrev Extensions := Table Value

/-- The shape of a payload, as far as the analysis reads it. -/
structure Schema where
  type : Option String := none
  description : Option String := none
  properties : List (String × Schema) := []
  /-- The names of the properties that must be present. -/
  required : List String := []
  readOnly : Bool := false
  items : Option Schema := none
  /-- A reference that was left unexpanded. -/
  reference : Option String := none
  extensions : Extensions := []

/-- Where a parameter of an operation travels. -/
inductive ParameterLocation where
  | path
  | query
  | header
  | body
  | formData
deriving DecidableEq, Repr

/-- The name of a location in a document. -/
def ParameterLocation.name : ParameterLocation → String
  | path => "path"
  | query => "query"
  | header => "header"
  | body => "body"
  | formData => "formData"

/-- The locations of parameters. -/
def ParameterLocation.all : List ParameterLocation := [path, query, header, body, formData]

/-- The location with a name. -/
def ParameterLocation.ofName? (name : String) : Option ParameterLocation :=
  all.find? fun location => location.name == name

/-- A parameter of an operation; only one in the body has a schema. -/
structure Parameter where
  name : String
  location : ParameterLocation
  required : Bool := false
  type : Option String := none
  schema : Option Schema := none
  extensions : Extensions := []

/-- What is answered with one status code. -/
structure Response where
  status : String
  description : Option String := none
  schema : Option Schema := none

/-- Schemes that are required together, each with its scopes. -/
abbrev SecurityRequirement := Table (List String)

/-- An operation: one method under one path. -/
structure Operation where
  operationId : Option String := none
  summary : Option String := none
  parameters : List Parameter := []
  responses : Table Response := []
  /-- The alternatives of required schemes; none when the document's own apply. -/
  security : Option (List SecurityRequirement) := none
  extensions : Extensions := []

namespace Operation

/-- The first parameter in the body. -/
def bodyParameter? (operation : Operation) : Option Parameter :=
  operation.parameters.find? fun parameter => parameter.location == .body

/-- The status codes of success. -/
def successCodes : List String := ["200", "201", "202"]

/-- The first response to success that is declared. -/
def successfulResponse? (operation : Operation) : Option Response :=
  successCodes.findSome? operation.responses.get?

end Operation

/-- The methods that a path may declare. -/
inductive Method where
  | get
  | post
  | put
  | patch
  | delete
deriving DecidableEq, Repr

/-- The name of a method in a document. -/
def Method.name : Method → String
  | get => "get"
  | post => "post"
  | put => "put"
  | patch => "patch"
  | delete => "delete"

/-- The methods in the order in which they are listed. -/
def Method.all : List Method := [get, post, put, patch, delete]

/-- The operations declared under one path. -/
structure PathItem where
  get : Option Operation := none
  post : Option Operation := none
  put : Option Operation := none
  patch : Option Operation := none
  delete : Option Operation := none
  parameters : List Parameter := []

namespace PathItem

/-- The operation of a method. -/
def operation? (item : PathItem) : Method → Option Operation
  | .get => item.get
  | .post => item.post
  | .put => item.put
  | .patch => item.patch
  | .delete => item.delete

/-- The declared operations with their methods. -/
def operations (item : PathItem) : List (Method × Operation) :=
  Method.all.filterMap fun method => (item.operation? method).map (method, ·)

/-- The path item with an operation set. -/
def withOperation (item : PathItem) (method : Method) (operation : Operation) : PathItem :=
  match method with
  | .get => { item with get := some operation }
  | .post => { item with post := some operation }
  | .put => { item with put := some operation }
  | .patch => { item with patch := some operation }
  | .delete => { item with delete := some operation }

end PathItem

/-- A declared way of authentication. -/
structure SecurityDeclaration where
  type : String
  location : Option String := none
  parameterName : Option String := none
  description : Option String := none
  extensions : Extensions := []

/-- An API document. -/
structure Document where
  swagger : String := "2.0"
  title : Option String := none
  version : Option String := none
  host : Option String := none
  basePath : Option String := none
  schemes : List String := []
  paths : Table PathItem := []
  definitions : Table Schema := []
  securityDefinitions : Table SecurityDeclaration := []
  security : List SecurityRequirement := []
  extensions : Extensions := []
  /-- The file or the address that the document was loaded from. -/
  source : Option String := none

/-- Whether a schema describes an object: it says so, or it says nothing and has properties. -/
def Schema.isObject (schema : Schema) : Bool :=
  match schema.type with
  | some type => type == "object"
  | none => !schema.properties.isEmpty

/-- The path item of a path, or else of the same path with a slash at its end. -/
def Document.findPath? (document : Document) (path : String) : Option PathItem :=
  document.paths.get? path <|> document.paths.get? (path ++ "/")

end ResourceGraph
