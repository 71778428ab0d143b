import ResourceGraph.Document.Basic

/-!
# Vendor extensions

What an API document cannot say by itself (which property identifies a resource, which resources to
leave out, where a resource is hosted) is said by vendor extensions.  Their names are matched
without regard to case.
-/

namespace ResourceGraph

/-- The extensions with a fixed name. -/
inductive Extension where
  /-- The property identifies the resource. -/
  | identifier
  /-- The name that a property is presented under. -/
  | fieldName
  | immutable
  | forceNew
  | sensitive
  /-- The resource is left out. -/
  | excludeResource
  | resourceName
  | resourceHost
  | resourceTimeout
  /-- The header is configured by the caller under this name. -/
  | header
  /-- The credential is a bearer token. -/
  | bearer
deriving DecidableEq, Repr

namespace Extension

/-- The name of an extension in a document. -/
def name : Extension → String
  | identifier => "x-terraform-id"
  | fieldName => "x-terraform-field-name"
  | immutable => "x-terraform-immutable"
  | forceNew => "x-terraform-force-new"
  | sensitive => "x-terraform-sensitive"
  | excludeResource => "x-terraform-exclude-resource"
  | resourceName => "x-terraform-resource-name"
  | resourceHost => "x-terraform-resource-host"
  | resourceTimeout => "x-terraform-resource-timeout"
  | header => "x-terraform-header"
  | bearer => "x-terraform-authentication-scheme-bearer"

/-- The extensions with a fixed name. -/
def all : List Extension := [identifier, fieldName, immutable, forceNew, sensitive, excludeResource,
  resourceName, resourceHost, resourceTimeout, header, bearer]

/-- The extension with exactly this name. -/
def ofName? (wanted : String) : Option Extension :=
  all.find? fun extension => extension.name == wanted

/-- The name of the extension of a document that lists the regions of a keyword. -/
def regionsName (keyword : String) : String := "x-terraform-resource-regions-" ++ keyword

end Extension

namespace Extensions

/-- The value of the first extension whose name is the wanted one up to case. -/
def lookup? (extensions : Extensions) (wanted : String) : Option Value :=
  let lowered := Text.lower wanted
  (extensions.find? fun entry => Text.lower entry.1 == lowered).map Prod.snd

/-- Whether an extension is set to true. -/
def isSet (extensions : Extensions) (extension : Extension) : Bool :=
  (extensions.lookup? extension.name).any Value.isTrue

/-- The text of an extension without the blank characters around it, if any text is left. -/
def textNamed? (extensions : Extensions) (wanted : String) : Option String := do
  let trimmed := Text.trim (← (← extensions.lookup? wanted).asText?)
  if trimmed.isEmpty then none else some trimmed

/-- The text of an extension with a fixed name. -/
def text? (extensions : Extensions) (extension : Extension) : Option String :=
  extensions.textNamed? extension.name

end Extensions

end ResourceGraph
