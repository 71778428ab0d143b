import ResourceGraph.Compliance
import ResourceGraph.DataSource
import ResourceGraph.Path.Parent
import ResourceGraph.Region.List
import ResourceGraph.Resource.Property
import ResourceGraph.Security
import ResourceGraph.Value.Text

/-!
# From paths to descriptors

The descriptor of a resource puts together what is declared about it in different places: its name
and its host in extensions of the operation that creates it, its timeouts and its security at each
operation, its parents in its path.
-/

namespace ResourceGraph

/-! ## Operations -/

/-- The length in seconds of the duration that a value writes. -/
def Duration.ofValue (value : Value) : Except Duration.Fault Binary64 :=
  if !value.isWritable then .error .unwritable
  else
    match Duration.parse? value.shown with
    | some seconds => .ok seconds
    | none => .error (.malformed value.shown)

/-- What an operation is called in messages: its identifier, or its path if it has none. -/
def Operation.label (operation : Operation) (path : String) : String :=
  let identifier := operation.operationId.getD ""
  if identifier.isEmpty then path else identifier

/-- How long an operation may take. -/
def Operation.timeout (operation : Operation) (path : String) :
    Except Rejection (Option Binary64) :=
  match operation.extensions.lookup? Extension.resourceTimeout.name with
  | none => .ok none
  | some value =>
    match Duration.ofValue value with
    | .ok seconds => .ok (some seconds)
    | .error fault => .error ⟨path, .invalidTimeout (operation.label path) fault⟩

/-- The headers of an operation that the caller configures, in code point order. -/
def Operation.configuredHeaders (operation : Operation) : List String :=
  sortNames ((operation.parameters.filter fun parameter =>
    parameter.location == .header && (parameter.extensions.text? .header).isSome).map
      Parameter.name)

/-- The descriptor of an operation; one without security of its own is protected as the document
requires. -/
def Operation.descriptor (operation : Operation) (document : Document) (method : Method)
    (path : String) : Except Rejection ResourceOperation := do
  let timeout ← operation.timeout path
  return { method := method.name
           path
           operationId := operation.operationId
           timeout
           security := Security.requirementNames (operation.security.getD document.security)
           headerParameters := operation.configuredHeaders }

/-- The descriptor of an operation that may be missing. -/
def Operation.optionalDescriptor (operation : Option Operation) (document : Document)
    (method : Method) (path : String) : Except Rejection (Option ResourceOperation) :=
  match operation with
  | none => .ok none
  | some operation => (operation.descriptor document method path).map some

/-! ## Resources -/

/-- Whether a collection is marked as left out. -/
def PathItem.isIgnored (item : PathItem) : Bool :=
  item.post.any fun create => create.extensions.isSet .excludeResource

/-- The name that a collection asks for. -/
def PathItem.preferredName? (item : PathItem) : Option String :=
  item.post.bind fun create => create.extensions.text? .resourceName

/-- The name of the resource of a collection, with the names of its parents in front. -/
def PathItem.resourceName (item : PathItem) (rootPath : String) : String :=
  let name := Path.resourceName rootPath item.preferredName?
  match Path.parents rootPath with
  | [] => name
  | parents => Parent.fullName parents ++ "_" ++ name

/-- The descriptor of a compliant resource. -/
def Candidate.descriptor (candidate : Candidate) (document : Document) :
    Except Rejection ResourceDescriptor := do
  let create ← candidate.create.descriptor document .post candidate.rootPath
  let read ← candidate.read.descriptor document .get candidate.instancePath
  let update ← Operation.optionalDescriptor candidate.instanceItem.put document .put
    candidate.instancePath
  let delete ← Operation.optionalDescriptor candidate.instanceItem.delete document .delete
    candidate.instancePath
  return { name := candidate.root.resourceName candidate.rootPath
           rootPath := candidate.rootPath
           instancePath := candidate.instancePath
           host := candidate.create.extensions.text? .resourceHost
           region := none
           identifier := candidate.identifier
           properties := candidate.schema.payloadProperties (some candidate.identifier)
           operations := { create, read, update, delete }
           parents := Path.parents candidate.rootPath
           ignored := candidate.root.isIgnored
           computedOnly := candidate.computedOnly }

/-- The descriptor of a path that lists items. -/
def PathItem.dataSource (item : PathItem) (document : Document) (path : String) :
    Except Rejection DataSourceDescriptor := do
  let (read, items) ← item.listedItems.mapError (Rejection.mk path)
  let trimmed := Path.trimSlashes path
  let operation ← read.descriptor document .get path
  return { name := Path.resourceName (if trimmed.isEmpty then path else trimmed) none
           path
           host := read.extensions.text? .resourceHost
           properties := items.payloadProperties none
           read := operation }

/-! ## Parents -/

/-- The reason why a nested resource cannot be kept: a parent that is missing or left out. -/
def Parent.fault? (document : Document) (parents : List Parent) : Option RejectionCause :=
  let missingInstance := parents.findSome? fun parent =>
    if (document.findPath? parent.instancePath).isNone then
      some (RejectionCause.missingParentInstance parent.instancePath)
    else none
  let unusableRoot := parents.findSome? fun parent =>
    match document.findPath? parent.rootPath with
    | none => some (RejectionCause.missingParentRoot parent.rootPath)
    | some item =>
      if item.isIgnored then some (RejectionCause.ignoredParentRoot parent.rootPath) else none
  missingInstance <|> unusableRoot

/-! ## Regions -/

/-- The descriptor of a resource in one region. -/
def ResourceDescriptor.inRegion (resource : ResourceDescriptor) (region : String) :
    ResourceDescriptor :=
  { resource with
    name := resource.name ++ "_" ++ region
    host := resource.host.map (Region.substitute · region)
    region := some region }

end ResourceGraph
