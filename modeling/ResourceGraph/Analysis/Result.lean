import ResourceGraph.Analysis.DataSource
import ResourceGraph.Backend

/-!
# The analysis of a document

Everything that one pass over a document derives from it.
-/

namespace ResourceGraph

/-- What a rejected path could have been. -/
inductive Subject where
  | resource
  | dataSource
deriving DecidableEq, Repr

/-- The name under which a subject is reported. -/
def Subject.name : Subject → String
  | resource => "resource"
  | dataSource => "data_source"

/-- Why a path is not in the result. -/
structure Diagnostic where
  subject : Subject
  rejection : Rejection
deriving DecidableEq, Repr

/-- The path that a diagnostic is about. -/
def Diagnostic.path (diagnostic : Diagnostic) : String := diagnostic.rejection.path

/-- The diagnostics of rejected instance paths. -/
def Findings.diagnostics (findings : Findings) : List Diagnostic :=
  findings.rejections.map (Diagnostic.mk .resource)

/-- The diagnostics of paths that are no data sources. -/
def Listings.diagnostics (listings : Listings) : List Diagnostic :=
  listings.rejections.map (Diagnostic.mk .dataSource)

/-- Everything that an analysis derives. -/
structure AnalysisResult where
  resources : List ResourceDescriptor
  dataSources : List DataSourceDescriptor
  securityDefinitions : List SecurityDefinition
  globalSecurity : List GlobalScheme
  headerParameters : List HeaderParameter
  backend : Backend
  diagnostics : List Diagnostic

/-- The diagnostics about a path. -/
def AnalysisResult.diagnosticsFor (result : AnalysisResult) (path : String) : List Diagnostic :=
  result.diagnostics.filter fun diagnostic => diagnostic.path == path

/-- Why an analysis has no result. -/
inductive AnalysisFailure where
  | error (error : AnalysisError)
  /-- The document was fetched from an address that names no server. -/
  | address (fault : AddressFault)
  /-- An integer is too long to be written. -/
  | unwritable
deriving DecidableEq, Repr

/-- The failure that an error makes: what cannot be written is no fault that a document asserts. -/
def AnalysisFailure.ofError : AnalysisError → AnalysisFailure
  | .unwritableRegions => .unwritable
  | other => .error other

namespace Document

/-- The supported ways of authentication of a document and the schemes that it requires. -/
def authentication (document : Document) :
    Except AnalysisError (List SecurityDefinition × List GlobalScheme) := do
  let definitions ← Security.definitions document
  return (definitions, ← Security.resolveGlobal document definitions)

/-- The analysis of a document. -/
def analyse (document : Document) (selection : Selection) :
    Except AnalysisFailure AnalysisResult := do
  let (definitions, globalSecurity) ← document.authentication.mapError .ofError
  let findings ← (document.resources selection).mapError .ofError
  let listings := document.dataSources selection
  let backend ← document.backend.mapError .address
  return { resources := findings.resources
           dataSources := listings.dataSources
           securityDefinitions := definitions
           globalSecurity
           headerParameters := document.headerParameters
           backend
           diagnostics := findings.diagnostics ++ listings.diagnostics }

end Document

end ResourceGraph
