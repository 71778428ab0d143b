import ResourceGraph.Document.Basic
import ResourceGraph.Document.Fault
import ResourceGraph.Document.Version

/-!
# The typed form of a document

The parts of a document are built from the inside out, and the first part with a fault ends the
building.  Fields that are empty count as absent; entries of the wrong shape are passed over where
the document stays meaningful without them.
-/

namespace ResourceGraph

/-- The entries of a mapping whose keys write texts. -/
def textEntries {α : Type} (entries : List (Scalar × α)) : Table α :=
  Table.ofList (entries.filterMap fun (key, value) => key.fieldText?.map (·, value))

/-- A part without mismatches. -/
def checked {α : Type} (part : DocumentPart) (mismatches : List Mismatch) (value : α) :
    Except DocumentFault α :=
  if mismatches.isEmpty then .ok value else .error (.malformed part mismatches)

/-- The mapping that a value is, an empty value being the empty mapping. -/
def mappingOf (value : Value) : Except DocumentFault (List (Scalar × Value)) :=
  match value with
  | .map entries => .ok entries
  | other => if other.isEmpty then .ok [] else .error (.shape .notAMapping)

/-- The items that are met going through a value. -/
def itemsOf (value : Value) : Except DocumentFault (List Value) :=
  match value.elements? with
  | some items => .ok items
  | none => .error (.shape .notIterable)

/-- The items that are met going through a value, none if it is empty. -/
def itemsOrNone (value : Value) : Except DocumentFault (List Value) :=
  if value.isEmpty then .ok [] else itemsOf value

/-- Whether a key is that of a vendor extension. -/
def isExtensionKey (key : String) : Bool :=
  match (Text.lower key).toList with
  | 'x' :: '-' :: _ => true
  | _ => false

/-- The vendor extensions among the entries of a mapping, whose keys must all be texts. -/
def extensionsOf : List (Scalar × Value) → Except DocumentFault Extensions
  | [] => .ok []
  | (.text key, value) :: rest => do
    let others ← extensionsOf rest
    return if isExtensionKey key then (key, value) :: others else others
  | (.bytes _, _) :: _ => .error (.shape .keyOfBytes)
  | _ => .error (.shape .keyNotText)

/-- The text of a value, which must not have an integer that is too long. -/
def written (value : Value) : Except DocumentFault String :=
  if value.isWritable then .ok value.shown else .error (.shape .unwritable)

/-- The text of a value, none if it is null. -/
def writtenOrNone (value : Value) : Except DocumentFault (Option String) :=
  match value with
  | .null => .ok none
  | other => (written other).map some

/-- The text of the value of a key, or a default. -/
def writtenUnder (entries : List (Scalar × Value)) (key default : String) :
    Except DocumentFault String :=
  match Entries.get? entries key with
  | none => .ok default
  | some value => written value

/-! ## Schemas -/

namespace Schema

/-- The type that a schema names, the first one other than null if it names several. -/
def typeOf (entries : List (Scalar × Value)) : Except DocumentFault (Option String) :=
  match Entries.getOrNull entries "type" with
  | .list items =>
    match items.find? fun item => item.asText? != some "null" with
    | none => .ok none
    | some item => (written item).map some
  | other => writtenOrNone other

/-- The names of the properties that a schema requires. -/
def requiredOf (entries : List (Scalar × Value)) : Except DocumentFault (List String) := do
  return (← itemsOrNone (Entries.getOrNull entries "required")).filterMap Value.asText?

/-- The parts of a schema that are schemas themselves. -/
structure Parts where
  properties : Except DocumentFault (List (Scalar × Schema)) := .ok []
  items : Except DocumentFault (Option Schema) := .ok none

/-- The schema that entries declare, given its parts. -/
def assemble (entries : List (Scalar × Value)) (parts : Parts) : Except DocumentFault Schema := do
  let description := Entries.getOrNull entries "description"
  let reference := Entries.getOrNull entries "$ref"
  let type ← typeOf entries
  let properties ← parts.properties
  let required ← requiredOf entries
  let items ← parts.items
  let extensions ← extensionsOf entries
  let mismatches :=
    Mismatch.ofField "description" (Mismatch.ofOptionalText description) ++
      Mismatch.ofField "properties" (properties.flatMap fun entry => Mismatch.ofKey entry.1) ++
      Mismatch.ofField "ref" (Mismatch.ofOptionalText reference)
  checked .schema mismatches
    { type
      description := description.fieldText?
      properties := textEntries properties
      required
      readOnly := (Entries.getOrNull entries "readOnly").isTrue
      items
      reference := reference.fieldText?
      extensions }

mutual

/-- The schema that a mapping declares. -/
def ofValue : Value → Except DocumentFault Schema
  | .map entries => assemble entries (partsOf entries)
  | _ => .error (.shape .notAMapping)

/-- The parts that the entries of a schema declare. -/
def partsOf : List (Scalar × Value) → Parts
  | [] => {}
  | (key, value) :: rest =>
    if key == .text "properties" then { partsOf rest with properties := propertiesOf value }
    else if key == .text "items" then { partsOf rest with items := itemSchemaOf value }
    else partsOf rest

/-- The properties that a value declares. -/
def propertiesOf : Value → Except DocumentFault (List (Scalar × Schema))
  | .map entries => schemasOf entries
  | other => if other.isEmpty then .ok [] else .error (.shape .notAMapping)

/-- The schemas among the values of a mapping. -/
def schemasOf : List (Scalar × Value) → Except DocumentFault (List (Scalar × Schema))
  | [] => .ok []
  | (key, value) :: rest =>
    if value.isMap then do
      let schema ← ofValue value
      return (key, schema) :: (← schemasOf rest)
    else schemasOf rest

/-- The schema of the items of a list; of several ones the first counts. -/
def itemSchemaOf : Value → Except DocumentFault (Option Schema)
  | .map entries => do return some (← assemble entries (partsOf entries))
  | .list (first :: _) => if first.isMap then do return some (← ofValue first) else .ok none
  | _ => .ok none

end

/-- The schema under a key, if a mapping stands there. -/
def under (entries : List (Scalar × Value)) (key : String) :
    Except DocumentFault (Option Schema) :=
  let value := Entries.getOrNull entries key
  if value.isMap then do return some (← ofValue value) else .ok none

end Schema

/-! ## Parameters -/

namespace Parameter

/-- The location of a raw parameter; a parameter without one travels in the query. -/
def locationOf? (entries : List (Scalar × Value)) : Option ParameterLocation :=
  match Entries.get? entries "in" with
  | none => some .query
  | some value => value.asText?.bind ParameterLocation.ofName?

/-- The parameter that entries declare at a location. -/
def ofEntries (location : ParameterLocation) (entries : List (Scalar × Value)) :
    Except DocumentFault Parameter := do
  let type := Entries.getOrNull entries "type"
  let name ← writtenUnder entries "name" ""
  let schema ← Schema.under entries "schema"
  let extensions ← extensionsOf entries
  checked .parameter (Mismatch.ofField "type" (Mismatch.ofOptionalText type))
    { name
      location
      required := location == .path || (Entries.getOrNull entries "required").isTrue
      type := type.fieldText?
      schema
      extensions }

/-- The parameters that raw ones declare; those at an unknown location are passed over. -/
def ofList : List (List (Scalar × Value)) → Except DocumentFault (List Parameter)
  | [] => .ok []
  | entries :: rest =>
    match locationOf? entries with
    | some location => do
      let parameter ← ofEntries location entries
      return parameter :: (← ofList rest)
    | none => ofList rest

/-- What identifies a raw parameter: its name and its location as they are written. -/
structure Identity where
  name : Scalar
  location : Scalar
deriving DecidableEq, Repr

/-- Whether two raw parameters are the same. -/
def Identity.same (left right : Identity) : Bool :=
  left.name.same right.name && left.location.same right.location

/-- A part of the identity of a raw parameter, which must be a scalar. -/
def identityPart (entries : List (Scalar × Value)) (key : String) : Except DocumentFault Scalar :=
  match (Entries.get? entries key).getD (.text "") with
  | .scalar value => .ok value
  | _ => .error (.shape .compoundKey)

/-- The identity of a raw parameter. -/
def identityOf (entries : List (Scalar × Value)) : Except DocumentFault Identity := do
  return ⟨← identityPart entries "name", ← identityPart entries "in"⟩

/-- A raw parameter of an operation, which must be a mapping. -/
def entriesOf (value : Value) : Except DocumentFault (List (Scalar × Value)) :=
  match value with
  | .map entries => .ok entries
  | _ => .error (.shape .notAMapping)

/-- The raw parameters of an operation: those of its path that it does not declare itself, and its
own. -/
def merge (ofPath : List (List (Scalar × Value))) (own : List Value) :
    Except DocumentFault (List (List (Scalar × Value))) := do
  let declared ← own.mapM fun value => do
    let entries ← entriesOf value
    return (entries, ← identityOf entries)
  let inherited ← ofPath.mapM fun entries => do return (entries, ← identityOf entries)
  let kept := inherited.filter fun candidate =>
    !declared.any fun override => override.2.same candidate.2
  return (kept ++ declared).map Prod.fst

end Parameter

/-! ## Operations -/

/-- The response that entries declare for a status code. -/
def Response.ofEntries (status : String) (entries : List (Scalar × Value)) :
    Except DocumentFault Response := do
  let description := Entries.getOrNull entries "description"
  let schema ← Schema.under entries "schema"
  checked .response (Mismatch.ofField "description" (Mismatch.ofOptionalText description))
    { status, description := description.fieldText?, schema }

/-- The responses that the entries of a mapping declare. -/
def Response.listOf : List (Scalar × Value) → Except DocumentFault (List (String × Response))
  | [] => .ok []
  | (key, .map entries) :: rest => do
    let status ← written (.scalar key)
    let response ← Response.ofEntries status entries
    return (status, response) :: (← listOf rest)
  | _ :: rest => listOf rest

/-- The requirement that a value writes. -/
def SecurityRequirement.ofValue : Value → SecurityRequirement
  | .map entries =>
    (textEntries entries).map fun (name, scopes) =>
      (name, (scopes.fieldItems?.getD []).filterMap Value.fieldText?)
  | _ => []

namespace Operation

/-- The security that an operation declares. -/
def securityOf (value : Value) : Except DocumentFault (Option (List Value)) :=
  match value with
  | .null => .ok none
  | other => do return some (← itemsOf other)

/-- The raw parameters that apply to an operation. -/
def rawParameters (ofPath : List (List (Scalar × Value))) (entries : List (Scalar × Value)) :
    Except DocumentFault (List (List (Scalar × Value))) := do
  Parameter.merge ofPath (← itemsOrNone (Entries.getOrNull entries "parameters"))

/-- The operation that entries declare under a path with the given raw parameters. -/
def ofEntries (ofPath : List (List (Scalar × Value))) (entries : List (Scalar × Value)) :
    Except DocumentFault Operation := do
  let operationId := Entries.getOrNull entries "operationId"
  let summary := Entries.getOrNull entries "summary"
  let parameters ← Parameter.ofList (← rawParameters ofPath entries)
  let responses ← Response.listOf (← mappingOf (Entries.getOrNull entries "responses"))
  let security ← securityOf (Entries.getOrNull entries "security")
  let extensions ← extensionsOf entries
  let mismatches :=
    Mismatch.ofField "operation_id" (Mismatch.ofOptionalText operationId) ++
      Mismatch.ofField "summary" (Mismatch.ofOptionalText summary) ++
      Mismatch.ofField "security"
        (Mismatch.ofItems Mismatch.ofRequirement (security.getD []))
  checked .operation mismatches
    { operationId := operationId.fieldText?
      summary := summary.fieldText?
      parameters
      responses := Table.ofList responses
      security := security.map fun items => items.map SecurityRequirement.ofValue
      extensions }

end Operation

/-! ## Paths -/

namespace PathItem

/-- The raw parameters that a path declares. -/
def rawParameters (entries : List (Scalar × Value)) :
    Except DocumentFault (List (List (Scalar × Value))) := do
  return (← itemsOrNone (Entries.getOrNull entries "parameters")).filterMap Value.asMap?

/-- The path item with the operations that entries declare for methods. -/
def withOperations (ofPath : List (List (Scalar × Value))) (entries : List (Scalar × Value)) :
    List Method → PathItem → Except DocumentFault PathItem
  | [], item => .ok item
  | method :: rest, item =>
    match Entries.getOrNull entries method.name with
    | .map declared => do
      let operation ← Operation.ofEntries ofPath declared
      withOperations ofPath entries rest (item.withOperation method operation)
    | _ => withOperations ofPath entries rest item

/-- The path item that entries declare. -/
def ofEntries (entries : List (Scalar × Value)) : Except DocumentFault PathItem := do
  let ofPath ← rawParameters entries
  let item ← withOperations ofPath entries Method.all {}
  return { item with parameters := ← Parameter.ofList ofPath }

/-- The path items among the values of a mapping. -/
def listOf : List (Scalar × Value) → Except DocumentFault (List (Scalar × PathItem))
  | [] => .ok []
  | (key, .map entries) :: rest => do
    let item ← ofEntries entries
    return (key, item) :: (← listOf rest)
  | _ :: rest => listOf rest

end PathItem

/-! ## The document -/

/-- The way of authentication that entries declare. -/
def SecurityDeclaration.ofEntries (entries : List (Scalar × Value)) :
    Except DocumentFault SecurityDeclaration := do
  let location := Entries.getOrNull entries "in"
  let name := Entries.getOrNull entries "name"
  let description := Entries.getOrNull entries "description"
  let type ← writtenUnder entries "type" ""
  let extensions ← extensionsOf entries
  let mismatches :=
    Mismatch.ofField "location" (Mismatch.ofOptionalText location) ++
      Mismatch.ofField "param_name" (Mismatch.ofOptionalText name) ++
      Mismatch.ofField "description" (Mismatch.ofOptionalText description)
  checked .securityDeclaration mismatches
    { type
      location := location.fieldText?
      parameterName := name.fieldText?
      description := description.fieldText?
      extensions }

/-- The ways of authentication among the values of a mapping. -/
def SecurityDeclaration.listOf :
    List (Scalar × Value) → Except DocumentFault (List (Scalar × SecurityDeclaration))
  | [] => .ok []
  | (key, .map entries) :: rest => do
    let declaration ← SecurityDeclaration.ofEntries entries
    return (key, declaration) :: (← listOf rest)
  | _ :: rest => listOf rest

namespace Document

/-- The section of a document under a key, which must be a mapping. -/
def sectionOf (entries : List (Scalar × Value)) (key : String) (fault : DocumentFault) :
    Except DocumentFault (List (Scalar × Value)) :=
  (mappingOf (Entries.getOrNull entries key)).mapError fun _ => fault

/-- The mismatches of the keys of a section. -/
def keyMismatches {α : Type} (section_ : List (Scalar × α)) : List Mismatch :=
  section_.flatMap fun entry => Mismatch.ofKey entry.1

/-- The typed form of an expanded document that was loaded from `source`. -/
def ofValue (source : Option String) (value : Value) : Except DocumentFault Document := do
  let .map entries := value | throw (.shape .notAMapping)
  let pathEntries ← sectionOf entries "paths" .pathsNotMapping
  let definitionEntries ← sectionOf entries "definitions" .definitionsNotMapping
  let paths ← PathItem.listOf pathEntries
  let swagger ← writtenUnder entries "swagger" supportedVersion
  let info ← mappingOf (Entries.getOrNull entries "info")
  let title := Entries.getOrNull info "title"
  let version ← writtenOrNone (Entries.getOrNull info "version")
  let host := Entries.getOrNull entries "host"
  let basePath := Entries.getOrNull entries "basePath"
  let schemes ← itemsOrNone (Entries.getOrNull entries "schemes")
  let definitions ← Schema.schemasOf definitionEntries
  let securityDefinitions ← SecurityDeclaration.listOf
    (← mappingOf (Entries.getOrNull entries "securityDefinitions"))
  let security ← itemsOrNone (Entries.getOrNull entries "security")
  let extensions ← extensionsOf entries
  let mismatches :=
    Mismatch.ofField "title" (Mismatch.ofOptionalText title) ++
      Mismatch.ofField "host" (Mismatch.ofOptionalText host) ++
      Mismatch.ofField "base_path" (Mismatch.ofOptionalText basePath) ++
      Mismatch.ofField "schemes" (Mismatch.ofItems Mismatch.ofText schemes) ++
      Mismatch.ofField "paths" (keyMismatches paths) ++
      Mismatch.ofField "definitions" (keyMismatches definitions) ++
      Mismatch.ofField "security_definitions" (keyMismatches securityDefinitions) ++
      Mismatch.ofField "security" (Mismatch.ofItems Mismatch.ofRequirement security)
  checked .document mismatches
    { swagger
      title := title.fieldText?
      version
      host := host.fieldText?
      basePath := basePath.fieldText?
      schemes := schemes.filterMap Value.fieldText?
      paths := textEntries paths
      definitions := textEntries definitions
      securityDefinitions := textEntries securityDefinitions
      security := security.map SecurityRequirement.ofValue
      extensions
      source }

end Document

end ResourceGraph
