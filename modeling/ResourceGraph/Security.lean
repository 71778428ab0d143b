import ResourceGraph.Rejection

/-!
# Authentication

Supported are keys that travel in a header or in the query, each either plain or as a bearer token.
Other ways of authentication are passed over, unless the whole document requires them.
-/

namespace ResourceGraph

/-- How a key travels. -/
inductive SecurityVariant where
  | headerKey
  | headerBearer
  | queryKey
  | queryBearer
deriving DecidableEq, Repr

namespace SecurityVariant

/-- The variants in the order in which they are listed. -/
def all : List SecurityVariant := [headerKey, headerBearer, queryKey, queryBearer]

/-- The name under which a variant is reported. -/
def name : SecurityVariant → String
  | headerKey => "header_api_key"
  | headerBearer => "header_bearer"
  | queryKey => "query_api_key"
  | queryBearer => "query_bearer"

/-- Where the key travels. -/
def location : SecurityVariant → String
  | headerKey | headerBearer => "header"
  | queryKey | queryBearer => "query"

/-- Whether the key is a bearer token. -/
def isBearer : SecurityVariant → Bool
  | headerBearer | queryBearer => true
  | headerKey | queryKey => false

end SecurityVariant

/-- A supported way of authentication. -/
structure SecurityDefinition where
  name : String
  /-- The header or the query parameter that carries the key. -/
  parameter : String
  variant : SecurityVariant
deriving DecidableEq, Repr

/-- A scheme that the whole document requires. -/
structure GlobalScheme where
  name : String
  scopes : List String
deriving DecidableEq, Repr

namespace Security

/-- The type of the declarations that are supported. -/
def apiKeyType : String := "apiKey"

/-- The header that carries bearer tokens. -/
def bearerParameter : String := "Authorization"

/-- The variant of a location, for bearer tokens or plain keys. -/
def variantOf? (location : String) (bearer : Bool) : Option SecurityVariant :=
  SecurityVariant.all.find? fun variant =>
    variant.location == location && variant.isBearer == bearer

/-- The supported way of authentication that a declaration describes. -/
def classify (name : String) (declaration : SecurityDeclaration) :
    Except AnalysisError SecurityDefinition :=
  let bearer := declaration.extensions.isSet .bearer
  match variantOf? (declaration.location.getD "") bearer with
  | none => .error (.unsupportedLocation name declaration.location)
  | some variant =>
    let parameter := if bearer then bearerParameter else declaration.parameterName.getD ""
    .ok ⟨name, parameter, variant⟩

/-- The supported ways of authentication of a document, in code point order of their names. -/
def definitions (document : Document) : Except AnalysisError (List SecurityDefinition) :=
  (document.securityDefinitions.sorted.filter fun entry => entry.2.type == apiKeyType).mapM
    fun (name, declaration) => classify name declaration

/-- The names of the required schemes in the order in which they are first required. -/
def requirementNames (requirements : List SecurityRequirement) : List String :=
  (requirements.flatMap fun requirement => requirement.map Prod.fst).eraseDups

/-- The schemes that a document requires, in the order in which they are first required; each of
them must be among `known`. -/
def resolveGlobal (document : Document) (known : List SecurityDefinition) :
    Except AnalysisError (List GlobalScheme) :=
  let required := document.security.flatten
  match required.find? fun entry => !known.any fun definition => definition.name == entry.1 with
  | some (name, _) => .error (.unresolvedScheme name)
  | none => .ok ((requirementNames document.security).filterMap fun name =>
      (required.lookup name).map (⟨name, ·⟩))

/-- The definitions of each variant. -/
def partition (definitions : List SecurityDefinition) :
    List (SecurityVariant × List SecurityDefinition) :=
  SecurityVariant.all.map fun variant =>
    (variant, definitions.filter fun definition => definition.variant == variant)

end Security

end ResourceGraph
