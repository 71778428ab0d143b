import ResourceGraph.Rejection

/-!
# Compliant resources

A collection path and an instance path describe a resource when the instance can be read, the
collection accepts new members, the payload of a new member is usable, and one of its properties
identifies the resource.  Where nothing is sent to create a member, the payload is what comes back,
and then it must be read-only throughout: the resource is computed.
-/

namespace ResourceGraph

/-- A pair of paths that describe a resource. -/
structure Candidate where
  rootPath : String
  instancePath : String
  root : PathItem
  instanceItem : PathItem
  create : Operation
  read : Operation
  schema : Schema
  identifier : String
  computedOnly : Bool

namespace Compliance

/-- The property that identifies a resource unless another one is flagged. -/
def identifierName : String := "id"

/-- The properties of a schema that are flagged as identifier, in code point order. -/
def flaggedNames (schema : Schema) : List String :=
  Table.namesWhere schema.properties fun property => property.extensions.isSet .identifier

/-- The property that identifies the instances of a schema. -/
def identifierOf (schema : Schema) : Except RejectionCause String :=
  match flaggedNames schema with
  | [name] => .ok name
  | [] =>
    if Table.has schema.properties identifierName then .ok identifierName
    else .error .missingIdentifier
  | names => .error (.duplicateIdentifier names)

/-- The names of the properties that can be written, in code point order. -/
def writableNames (schema : Schema) : List String :=
  Table.namesWhere schema.properties fun property => !property.readOnly

/-- The schema of a body, if it is usable. -/
def bodySchema (schema : Option Schema) : Except PayloadFault Schema :=
  match schema with
  | none => .error .bodyWithoutSchema
  | some schema =>
    match schema.reference with
    | some reference => .error (.bodyReference reference)
    | none =>
      if !schema.isObject then .error (.bodyNotObject schema.type)
      else if schema.properties.isEmpty then .error .bodyWithoutProperties
      else .ok schema

/-- The schema of the response to an operation without a body, if it is usable. -/
def responseSchema (response : Option Response) : Except PayloadFault Schema :=
  match response with
  | none => .error .noResponse
  | some response =>
    match response.schema with
    | none => .error (.responseWithoutSchema response.status)
    | some schema =>
      if schema.reference.isSome || schema.properties.isEmpty then
        .error (.responseWithoutSchema response.status)
      else if !(writableNames schema).isEmpty then
        .error (.writableProperties (writableNames schema))
      else .ok schema

/-- The payload of the operation that creates a resource, and whether the resource is computed. -/
def payload (create : Operation) : Except PayloadFault (Schema × Bool) :=
  match create.bodyParameter? with
  | some body => (bodySchema body.schema).map (·, false)
  | none => (responseSchema create.successfulResponse?).map (·, true)

end Compliance

/-- The resource that a collection path describes together with an instance path that is
declared. -/
def Candidate.validate (document : Document) (rootPath instancePath : String)
    (instanceItem : PathItem) : Except RejectionCause Candidate := do
  let some read := instanceItem.get | throw .missingRead
  let some root := document.paths.get? rootPath | throw (.missingCreate rootPath)
  let some create := root.post | throw (.missingCreate rootPath)
  let (schema, computedOnly) ←
    (Compliance.payload create).mapError (RejectionCause.invalidPayload rootPath)
  let identifier ← Compliance.identifierOf schema
  return { rootPath, instancePath, root, instanceItem, create, read, schema, identifier,
           computedOnly }

end ResourceGraph
