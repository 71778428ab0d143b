import ResourceGraph.Extension
import ResourceGraph.Resource.Descriptor

/-!
# Properties of a payload

The properties of a schema are described in the code point order of their names.  A property with
properties of its own, or an array whose items have properties, is described together with them.
-/

namespace ResourceGraph

namespace Schema

/-- The type that a property is presented with; one without a type is an object if it has
properties. -/
def presentedType (schema : Schema) : String :=
  match schema.type with
  | some type =>
    if !type.isEmpty then type else if schema.properties.isEmpty then "string" else "object"
  | none => if schema.properties.isEmpty then "string" else "object"

/-- The type that the items of a schema are presented with. -/
def presentedItemsType? (schema : Schema) : Option String :=
  schema.items.map fun items =>
    match items.type with
    | some type => if type.isEmpty then "object" else type
    | none => "object"

/-- The description of a property, given those of the properties nested in it. -/
def describe (name : String) (required : Bool) (schema : Schema)
    (nested : List PropertyDescriptor) : PropertyDescriptor :=
  { name
    type := schema.presentedType
    description := schema.description
    required
    readOnly := schema.readOnly
    identifier := false
    immutable := schema.extensions.isSet .immutable
    forceNew := schema.extensions.isSet .forceNew
    sensitive := schema.extensions.isSet .sensitive
    preferredName := schema.extensions.text? .fieldName
    itemsType := schema.presentedItemsType?
    properties := nested }

mutual

/-- The descriptions of the properties of a schema. -/
def describedProperties : Schema → List PropertyDescriptor
  | ⟨_, _, properties, required, _, _, _, _⟩ =>
    (Table.sorted (describedEntries required properties)).map Prod.snd

/-- The descriptions of the properties that are nested in a property: those of the items of an
array, otherwise its own. -/
def nestedProperties : Schema → List PropertyDescriptor
  | ⟨type, _, properties, required, _, some items, _, _⟩ =>
    if type = some "array" then describedProperties items
    else (Table.sorted (describedEntries required properties)).map Prod.snd
  | ⟨_, _, properties, required, _, none, _, _⟩ =>
    (Table.sorted (describedEntries required properties)).map Prod.snd

/-- The descriptions of properties, of which those named in `required` must be present. -/
def describedEntries (required : List String) :
    List (String × Schema) → Table PropertyDescriptor
  | [] => []
  | (name, property) :: rest =>
    (name, describe name (required.contains name) property (nestedProperties property)) ::
      describedEntries required rest

end

/-- The descriptions of the properties of a payload whose instances are identified by the property
`identifier`, if they are. -/
def payloadProperties (schema : Schema) (identifier : Option String) : List PropertyDescriptor :=
  schema.describedProperties.map fun property =>
    { property with identifier := some property.name == identifier }

end Schema

end ResourceGraph
