import ResourceGraph.Analysis.Result
import ResourceGraph.Value.Basic

/-!
# The report of an analysis

The result of an analysis as a value: every part is a mapping of all its fields, a missing part
being null.
-/

namespace ResourceGraph

namespace Value

/-- A mapping with names as keys. -/
def record (fields : List (String × Value)) : Value :=
  map (fields.map fun (name, value) => (Scalar.text name, value))

/-- A text that may be missing. -/
def ofText? (value : Option String) : Value := (value.map text).getD null

/-- A list of texts. -/
def ofTexts (values : List String) : Value := list (values.map text)

end Value

mutual

/-- A property with the properties nested in it. -/
def PropertyDescriptor.toValue : PropertyDescriptor → Value
  | ⟨name, type, description, required, readOnly, identifier, immutable, forceNew, sensitive,
      preferredName, itemsType, properties⟩ =>
    .record [("name", .text name), ("type", .text type), ("description", .ofText? description),
      ("required", .bool required), ("read_only", .bool readOnly),
      ("identifier", .bool identifier), ("immutable", .bool immutable),
      ("force_new", .bool forceNew), ("sensitive", .bool sensitive),
      ("preferred_name", .ofText? preferredName), ("items_type", .ofText? itemsType),
      ("properties", .list (PropertyDescriptor.toValues properties))]

/-- The values of properties. -/
def PropertyDescriptor.toValues : List PropertyDescriptor → List Value
  | [] => []
  | property :: rest => property.toValue :: PropertyDescriptor.toValues rest

end

/-- An operation. -/
def ResourceOperation.toValue (operation : ResourceOperation) : Value :=
  .record [("method", .text operation.method), ("path", .text operation.path),
    ("operation_id", .ofText? operation.operationId),
    ("timeout", (operation.timeout.map fun seconds => .scalar (.float seconds)).getD .null),
    ("security", .ofTexts operation.security),
    ("header_parameters", .ofTexts operation.headerParameters)]

/-- The operations on a resource. -/
def ResourceOperations.toValue (operations : ResourceOperations) : Value :=
  let optional (operation : Option ResourceOperation) : Value :=
    (operation.map ResourceOperation.toValue).getD .null
  .record [("create", operations.create.toValue), ("read", operations.read.toValue),
    ("update", optional operations.update), ("delete", optional operations.delete)]

/-- The parents of a resource, null if there are none. -/
def Parent.listValue (parents : List Parent) : Value :=
  if parents.isEmpty then .null
  else
    .record [("parent_root_paths", .ofTexts (parents.map Parent.rootPath)),
      ("parent_instance_paths", .ofTexts (parents.map Parent.instancePath)),
      ("parent_names", .ofTexts (parents.map Parent.name)),
      ("parent_property_names", .ofTexts (parents.map Parent.propertyName)),
      ("full_parent_name", .text (Parent.fullName parents))]

/-- The fields of a resource. -/
def ResourceDescriptor.fields (resource : ResourceDescriptor) : List (String × Value) :=
  [("name", .text resource.name), ("root_path", .text resource.rootPath),
    ("instance_path", .text resource.instancePath), ("host", .ofText? resource.host),
    ("region", .ofText? resource.region), ("identifier", .text resource.identifier),
    ("properties", .list (resource.properties.map PropertyDescriptor.toValue)),
    ("operations", resource.operations.toValue), ("parent", Parent.listValue resource.parents),
    ("ignored", .bool resource.ignored), ("computed_only", .bool resource.computedOnly)]

/-- A resource. -/
def ResourceDescriptor.toValue (resource : ResourceDescriptor) : Value := .record resource.fields

/-- A data source. -/
def DataSourceDescriptor.toValue (dataSource : DataSourceDescriptor) : Value :=
  .record [("name", .text dataSource.name), ("path", .text dataSource.path),
    ("host", .ofText? dataSource.host),
    ("properties", .list (dataSource.properties.map PropertyDescriptor.toValue)),
    ("read", dataSource.read.toValue)]

/-- A supported way of authentication. -/
def SecurityDefinition.toValue (definition : SecurityDefinition) : Value :=
  .record [("name", .text definition.name), ("parameter", .text definition.parameter),
    ("variant", .text definition.variant.name)]

/-- A scheme that the whole document requires. -/
def GlobalScheme.toValue (scheme : GlobalScheme) : Value :=
  .record [("name", .text scheme.name), ("scopes", .ofTexts scheme.scopes)]

/-- A header that callers configure. -/
def HeaderParameter.toValue (parameter : HeaderParameter) : Value :=
  .record [("name", .text parameter.name), ("header", .text parameter.header),
    ("required", .bool parameter.required)]

/-- Where an API is served. -/
def Backend.toValue (backend : Backend) : Value :=
  .record [("host", .ofText? backend.host), ("base_path", .text backend.basePath),
    ("http_scheme", .text backend.httpScheme), ("schemes", .ofTexts backend.schemes)]

/-- Why a path is not in the result. -/
def Diagnostic.toValue (diagnostic : Diagnostic) : Value :=
  .record [("subject", .text diagnostic.subject.name), ("path", .text diagnostic.path),
    ("kind", .text diagnostic.rejection.kind), ("message", .text diagnostic.rejection.message)]

/-- The result of an analysis. -/
def AnalysisResult.toValue (result : AnalysisResult) : Value :=
  .record [("resources", .list (result.resources.map ResourceDescriptor.toValue)),
    ("data_sources", .list (result.dataSources.map DataSourceDescriptor.toValue)),
    ("security_definitions", .list (result.securityDefinitions.map SecurityDefinition.toValue)),
    ("global_security", .list (result.globalSecurity.map GlobalScheme.toValue)),
    ("header_parameters", .list (result.headerParameters.map HeaderParameter.toValue)),
    ("backend", result.backend.toValue),
    ("diagnostics", .list (result.diagnostics.map Diagnostic.toValue))]

end ResourceGraph
