import ResourceGraph.Document.Basic
import ResourceGraph.Extension
import ResourceGraph.ServerAddress

/-!
# Settings of the whole document

Where the API is served, and the headers that its callers configure.
-/

namespace ResourceGraph

/-- Where an API is served. -/
structure Backend where
  host : Option String
  basePath : String
  /-- The scheme to use: a secure one if there is a choice. -/
  httpScheme : String
  schemes : List String
deriving DecidableEq, Repr

/-- A header that callers configure. -/
structure HeaderParameter where
  /-- The name under which it is configured. -/
  name : String
  header : String
  required : Bool
deriving DecidableEq, Repr

namespace Document

/-- The schemes that may be used, best first. -/
def preferredSchemes : List String := ["https", "http"]

/-- The host of an API: the declared one, or else the one that the document was fetched from. -/
def servingHost (document : Document) : Except AddressFault (Option String) :=
  let declared := document.host.getD ""
  if !declared.isEmpty then .ok document.host
  else
    match document.source with
    | some source =>
      if ServerAddress.isRemote source then do
        let host ← ServerAddress.host source
        return if host.isEmpty then none else some host
      else .ok document.host
    | none => .ok document.host

/-- Where the API of a document is served. -/
def backend (document : Document) : Except AddressFault Backend := do
  let host ← document.servingHost
  let schemes := document.schemes.map Text.lower
  let basePath := document.basePath.getD ""
  return { host
           basePath := if basePath.isEmpty then "/" else basePath
           httpScheme := (preferredSchemes.find? schemes.contains).getD "https"
           schemes }

/-- The headers of the operations of a document that are configured under a name. -/
def headerOccurrences (document : Document) : List HeaderParameter :=
  document.paths.sorted.flatMap fun (_, item) =>
    item.operations.flatMap fun (_, operation) =>
      operation.parameters.filterMap fun parameter =>
        if parameter.location == .header then
          (parameter.extensions.text? .header).map (⟨·, parameter.name, parameter.required⟩)
        else none

/-- The order of headers by the name they are configured under, then by the header. -/
def precedes (left right : String × String) : Bool :=
  left.1 < right.1 || (left.1 == right.1 && decide (left.2 ≤ right.2))

/-- The headers that callers configure, each of them once; one is required if some operation
requires it. -/
def headerParameters (document : Document) : List HeaderParameter :=
  let occurrences := document.headerOccurrences
  let keys := (occurrences.map fun occurrence => (occurrence.name, occurrence.header)).eraseDups
  (keys.mergeSort precedes).map fun (name, header) =>
    { name
      header
      required := occurrences.any fun occurrence =>
        occurrence.name == name && occurrence.header == header && occurrence.required }

end Document

end ResourceGraph
