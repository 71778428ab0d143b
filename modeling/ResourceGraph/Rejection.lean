import ResourceGraph.Extension
import ResourceGraph.Duration

/-!
# Reasons to leave something out

A path that could have been a resource or a data source is left out of the result for one reason,
which is reported and does not disturb any other path.  A document that asserts what it cannot
honour, on the other hand, ends the analysis with an `AnalysisError`.
-/

namespace ResourceGraph

/-- Why the payload of a resource is unusable. -/
inductive PayloadFault where
  /-- The body has no schema. -/
  | bodyWithoutSchema
  | bodyReference (reference : String)
  | bodyNotObject (type : Option String)
  | bodyWithoutProperties
  /-- There is no body, and no response to success either. -/
  | noResponse
  | responseWithoutSchema (status : String)
  /-- There is no body, and the response has properties that can be written. -/
  | writableProperties (names : List String)
deriving DecidableEq, Repr

/-- Why a path is left out. -/
inductive RejectionCause where
  | notInstancePath
  | ambiguousRootPath (root : String)
  | noMatchingRootPath
  | missingRead
  | missingCreate (rootPath : String)
  | invalidPayload (rootPath : String) (fault : PayloadFault)
  | missingIdentifier
  | duplicateIdentifier (names : List String)
  | invalidTimeout (operation : String) (fault : Duration.Fault)
  | missingParentInstance (parent : String)
  | missingParentRoot (parent : String)
  | ignoredParentRoot (parent : String)
  | duplicateResource (name rootPath : String)
  | missingDataSourceRead
  | missingSuccessResponse
  | missingResponseSchema
  | responseNotArray
  | invalidItems
  | emptyItems
  | duplicateDataSource (name : String)
deriving DecidableEq, Repr

/-- A path that is left out and the reason. -/
structure Rejection where
  path : String
  cause : RejectionCause
deriving DecidableEq, Repr

namespace RejectionCause

/-- The name under which a reason is reported. -/
def kind : RejectionCause → String
  | notInstancePath => "NotInstancePath"
  | ambiguousRootPath _ => "AmbiguousRootPath"
  | noMatchingRootPath => "NoMatchingRootPath"
  | missingRead => "MissingReadOperation"
  | missingCreate _ => "MissingCreateOperation"
  | invalidPayload _ _ => "InvalidBodySchema"
  | missingIdentifier => "MissingIdentifier"
  | duplicateIdentifier _ => "DuplicateIdentifier"
  | invalidTimeout _ _ => "InvalidTimeout"
  | missingParentInstance _ => "MissingParentInstancePath"
  | missingParentRoot _ => "MissingOrIgnoredParentRootPath"
  | ignoredParentRoot _ => "MissingOrIgnoredParentRootPath"
  | duplicateResource _ _ => "DuplicateResource"
  | missingDataSourceRead => "MissingDataSourceReadOperation"
  | missingSuccessResponse => "MissingSuccessResponse"
  | missingResponseSchema => "MissingResponseSchema"
  | responseNotArray => "NonArrayResponse"
  | invalidItems => "InvalidItemsSchema"
  | emptyItems => "EmptyItemsSchema"
  | duplicateDataSource _ => "DuplicateDataSource"

end RejectionCause

/-- A text between single quotes. -/
def between (text : String) : String := "'" ++ text ++ "'"

namespace PayloadFault

/-- The words for an unusable payload, after the words that name the collection path. -/
def message : PayloadFault → String
  | bodyWithoutSchema => "POST body parameter is missing its schema"
  | bodyReference reference =>
    "POST body schema reference " ++ between reference ++ " was not expanded"
  | bodyNotObject type =>
    "POST body schema is of type " ++ between (type.getD "None") ++ ", expected 'object'"
  | bodyWithoutProperties => "POST body schema has no properties"
  | noResponse =>
    "POST operation (without body parameter) is missing a successful 200, 201 or 202 response"
  | responseWithoutSchema status =>
    "POST operation (without body parameter) response " ++ between status ++
      " is missing the schema definition"
  | writableProperties names =>
    "POST operation (without body parameter) returns a schema with properties that are not read " ++
      "only: " ++ ", ".intercalate names

end PayloadFault

namespace Rejection

/-- The kind under which a rejection is reported. -/
def kind (rejection : Rejection) : String := rejection.cause.kind

/-- The words that explain a rejection. -/
def message (rejection : Rejection) : String :=
  let path := between rejection.path
  match rejection.cause with
  | .notInstancePath => "path " ++ path ++ " is not a resource instance path"
  | .ambiguousRootPath root =>
    "resource instance path " ++ path ++ " does not resolve to a unique collection path " ++
      "(stripped root " ++ between root ++ ")"
  | .noMatchingRootPath => "resource instance path " ++ path ++ " missing resource root path"
  | .missingRead => "resource instance path " ++ path ++ " missing required GET operation"
  | .missingCreate rootPath =>
    "resource root path " ++ between rootPath ++ " missing required POST operation"
  | .invalidPayload rootPath fault =>
    "resource root path " ++ between rootPath ++ " " ++ fault.message
  | .missingIdentifier =>
    "resource schema is missing a property that uniquely identifies the resource, either a " ++
      "property named 'id' or a property with the extension " ++
      between Extension.identifier.name ++ " set to true"
  | .duplicateIdentifier names =>
    "resource schema flags several properties with " ++ between Extension.identifier.name ++ ": " ++
      ", ".intercalate names
  | .invalidTimeout operation fault =>
    "operation " ++ between operation ++ " declares an invalid " ++
      between Extension.resourceTimeout.name ++ " value: " ++ fault.message
  | .missingParentInstance parent =>
    "subresource with path " ++ path ++ " is missing parent path instance definition " ++
      between parent
  | .missingParentRoot parent =>
    "subresource with path " ++ path ++ " is missing parent root path definition " ++
      between parent
  | .ignoredParentRoot parent =>
    "subresource with path " ++ path ++ " contains a parent " ++ between parent ++
      " that is marked as ignored, therefore ignoring the subresource too"
  | .duplicateResource name rootPath =>
    "resource name " ++ between name ++ " derived from " ++ between rootPath ++
      " is already used by another resource"
  | .missingDataSourceRead => "missing get operation"
  | .missingSuccessResponse => "missing get 200 OK response specification"
  | .missingResponseSchema => "missing response schema"
  | .responseNotArray => "response does not return an array of items"
  | .invalidItems => "the response items schema is missing or not defined as an object"
  | .emptyItems => "the response items object has no properties"
  | .duplicateDataSource name =>
    "data source name " ++ between name ++ " derived from " ++ path ++
      " is already used by another data source"

end Rejection

/-! ## Errors that end the analysis -/

/-- What a document asserts and cannot honour. -/
inductive AnalysisError where
  /-- A key is expected neither in a header nor in the query. -/
  | unsupportedLocation (name : String) (location : Option String)
  /-- The whole API requires a scheme that is not supported. -/
  | unresolvedScheme (name : String)
  /-- A host serves several regions that are declared nowhere. -/
  | missingRegions (keyword extension : String)
  /-- The declared list of regions is empty; `shown` is its value. -/
  | emptyRegions (keyword extension shown : String)
  /-- The declared list of regions has a blank name; `shown` is its value. -/
  | blankRegion (keyword extension shown : String)
  /-- The declared list of regions repeats names. -/
  | duplicatedRegions (keyword extension : String) (names : List String)
  /-- The declared list of regions has an integer that is too long to be written. -/
  | unwritableRegions
deriving DecidableEq, Repr

/-- The words that explain an error. -/
def AnalysisError.message : AnalysisError → String
  | unsupportedLocation name location =>
    "apiKey security definition " ++ between name ++ " uses location " ++
      between (location.getD "None") ++ "; only 'header' and 'query' are supported"
  | unresolvedScheme name =>
    "global security scheme " ++ between name ++ " not found or not matching a supported " ++
      "'apiKey' security definition"
  | missingRegions keyword extension =>
    "missing matching " ++ between keyword ++ " root level region extension " ++ between extension
  | emptyRegions keyword extension shown =>
    "could not find any region for " ++ between keyword ++ " matching region extension " ++
      extension ++ ": " ++ between shown
  | blankRegion _ extension shown =>
    "region extension " ++ extension ++ " contains a blank region name: " ++ between shown
  | duplicatedRegions _ extension names =>
    "region extension " ++ extension ++ " lists duplicated regions: " ++ ", ".intercalate names
  | unwritableRegions => Number.longIntegerText none

end ResourceGraph
