import ResourceGraph.Analysis.PathEntry
import ResourceGraph.Analysis.Report
import ResourceGraph.Log.Analysis
import ResourceGraph.Output.Table

/-!
# Commands

Each command answers one question about a document with a table, or with the whole analysis as a
value.  A command may add a remark, and it may have nothing to show but the remark.
-/

namespace ResourceGraph

/-- The commands of the program. -/
inductive Command where
  | paths
  | resources
  | dataSources
  | security
  | diagnostics
  | analyse
deriving DecidableEq, Repr

/-- Data that is printed. -/
inductive Data where
  | table (rows : TextTable)
  | value (content : Value)

/-- What a command has to say. -/
structure Answer where
  data : Option Data
  remark : Option String := none

/-- What data looks like in a format; a value is JSON in every format. -/
def Data.print (data : Data) (format : OutputFormat) : String :=
  match data with
  | .table rows => rows.print format
  | .value content => printValue content

namespace Command

/-- The name of a command. -/
def name : Command → String
  | paths => "paths"
  | resources => "resources"
  | dataSources => "data-sources"
  | security => "security"
  | diagnostics => "diagnostics"
  | analyse => "analyse"

/-- The commands. -/
def all : List Command := [paths, resources, dataSources, security, diagnostics, analyse]

/-- The command with a name. -/
def ofName? (text : String) : Option Command := all.find? fun command => command.name == text

/-! ## Tables -/

/-- A table whose title counts its rows. -/
def countedTable (subject : String) (headers : List String) (rows : List (List String)) :
    TextTable :=
  { title := subject ++ " (" ++ toString rows.length ++ ")", headers, rows }

/-- The declared paths. -/
def pathTable (document : Document) : TextTable :=
  countedTable "Paths" ["Path", "Kind", "Operations"] <|
    document.pathEntries.map fun entry =>
      [entry.path, if entry.isInstance then "instance" else "collection",
        ",".intercalate (entry.methods.map Method.name)]

/-- The cells of a resource. -/
def resourceCells (resource : ResourceDescriptor) : List String :=
  [resource.name ++ (if resource.ignored then " (ignored)" else ""), resource.rootPath,
    resource.instancePath, resource.identifier, ",".intercalate resource.operations.names,
    Parent.fullName resource.parents, resource.host.getD ""]

/-- The resources. -/
def resourceTable (resources : List ResourceDescriptor) : TextTable :=
  countedTable "Resources"
    ["Name", "Root Path", "Instance Path", "Identifier", "Operations", "Parent", "Host"]
    (resources.map resourceCells)

/-- The data sources. -/
def dataSourceTable (dataSources : List DataSourceDescriptor) : TextTable :=
  countedTable "Data Sources" ["Name", "Path", "Properties"] <|
    dataSources.map fun dataSource =>
      [dataSource.name, dataSource.path,
        ", ".intercalate (dataSource.properties.map PropertyDescriptor.name)]

/-- The supported ways of authentication, those that the whole document requires being marked. -/
def securityTable (definitions : List SecurityDefinition) (required : List GlobalScheme) :
    TextTable :=
  countedTable "Security Definitions" ["Name", "Variant", "Parameter", "Global"] <|
    definitions.map fun definition =>
      [definition.name, definition.variant.name, definition.parameter,
        if required.any fun scheme => scheme.name == definition.name then "Yes" else ""]

/-- The reasons why paths are left out. -/
def diagnosticTable (diagnostics : List Diagnostic) : TextTable :=
  countedTable "Diagnostics" ["Subject", "Path", "Kind", "Message"] <|
    diagnostics.map fun diagnostic =>
      [diagnostic.subject.name, diagnostic.path, diagnostic.rejection.kind,
        diagnostic.rejection.message]

/-! ## Answers -/

/-- The remark on paths that are left out. -/
def skippedRemark (findings : Findings) : Option String :=
  if findings.rejections.isEmpty then none
  else
    some (toString findings.rejections.length ++
      " path(s) skipped; run 'specgraph diagnostics' for details.")

/-- The answer to the question why paths are left out. -/
def diagnosticAnswer (diagnostics : List Diagnostic) : Answer :=
  if diagnostics.isEmpty then
    { data := none, remark := some "No diagnostics: every candidate path is compliant." }
  else { data := some (.table (diagnosticTable diagnostics)) }

/-- What a command has to say about a document. -/
def answer (command : Command) (document : Document) (selection : Selection) :
    Except AnalysisFailure Answer :=
  match command with
  | paths => .ok { data := some (.table (pathTable document)) }
  | resources => do
    let findings ← (document.resources selection).mapError .ofError
    return { data := some (.table (resourceTable findings.resources))
             remark := skippedRemark findings }
  | dataSources =>
    .ok { data := some (.table (dataSourceTable (document.dataSources selection).dataSources)) }
  | security => do
    let (definitions, required) ← document.authentication.mapError .ofError
    return { data := some (.table (securityTable definitions required)) }
  | diagnostics => do
    let findings ← (document.resources selection).mapError .ofError
    return diagnosticAnswer
      (findings.diagnostics ++ (document.dataSources selection).diagnostics)
  | analyse => do
    let result ← document.analyse selection
    return { data := some (.value result.toValue) }

/-- What the log tells while a command looks at a document. -/
def events (command : Command) (document : Document) (selection : Selection) : List LogEvent :=
  match command with
  | paths => []
  | resources => document.resourceEvents selection
  | dataSources => document.dataSourceEvents selection
  | security => document.authenticationEvents
  | diagnostics =>
    document.resourceEvents selection ++
      (if (document.resources selection).toBool then document.dataSourceEvents selection else [])
  | analyse => document.analysisEvents selection

end Command

end ResourceGraph
