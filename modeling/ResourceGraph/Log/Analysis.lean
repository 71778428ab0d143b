import ResourceGraph.Analysis.Result
import ResourceGraph.Log.Event

/-!
# Events of an analysis

What the log tells while resources, data sources and ways of authentication are derived from a
document.  An error that ends the analysis ends the row of events.
-/

namespace ResourceGraph

namespace Document

/-! ## Authentication -/

/-- The events of going through security declarations, up to the first that is not supported. -/
def declarationEvents : List (String × SecurityDeclaration) → List LogEvent
  | [] => []
  | (name, declaration) :: rest =>
    if declaration.type != Security.apiKeyType then
      .securityIgnored name declaration.type :: declarationEvents rest
    else if (Security.classify name declaration).toBool then declarationEvents rest
    else []

/-- The events of deriving the ways of authentication. -/
def authenticationEvents (document : Document) : List LogEvent :=
  declarationEvents document.securityDefinitions.sorted

/-! ## Resources -/

/-- The events of looking for the collection of an instance path. -/
def collectionEvents (instancePath rootPath : String) : List LogEvent :=
  [.collectionFound rootPath (rootPath.toList.getLast? == some '/'), .validating instancePath]

/-- The events of checking the parents of a resource. -/
def parentEvents (document : Document) (resource : ResourceDescriptor) : List LogEvent :=
  match Parent.fault? document resource.parents with
  | some cause =>
    let rejection : Rejection := ⟨resource.instancePath, cause⟩
    [.nestedRejected resource.name resource.rootPath rejection.message]
  | none =>
    if resource.isNested then
      [.parentsAccepted resource.instancePath (resource.parents.map Parent.rootPath)]
    else []

/-- The events of an outcome. -/
def outcomeEvents (instancePath rootPath : String) : Outcome → List LogEvent
  | .failed _ => []
  | .rejected rejection => [.notCompliant instancePath rejection.message]
  | .accepted resources =>
    let regional := resources.filterMap fun resource =>
      resource.region.map (LogEvent.regionalResource resource.name)
    if regional.isEmpty then [] else .hostInRegions rootPath :: regional

/-- The events of an instance path, the other paths left aside. -/
def candidateEvents (document : Document) (instancePath : String) : List LogEvent :=
  match Path.findRoot document.declares instancePath with
  | .error _ => []
  | .ok rootPath =>
    let described :=
      (document.candidate instancePath).bind fun candidate => candidate.descriptor document
    let ofParents :=
      match described with
      | .ok resource => document.parentEvents resource
      | .error _ => []
    collectionEvents instancePath rootPath ++ ofParents ++
      outcomeEvents instancePath rootPath (document.outcome instancePath)

/-- The events of adding the outcome of an instance path to what has been found. -/
def recordEvents (before after : Findings) (instancePath : String) : Outcome → List LogEvent
  | .accepted resources =>
    if (before.clash? resources).isNone then
      resources.map fun resource =>
        .resourceFound resource.name resource.rootPath resource.instancePath
    else
      after.rejections.getLast?.toList.map fun rejection =>
        .resourceRejected instancePath rejection.message
  | _ => []

/-- The events of going through instance paths after others. -/
def resourceEventsFrom (document : Document) (findings : Findings) : List String → List LogEvent
  | [] => [.resourcesFound findings.resources.length]
  | path :: rest =>
    let outcome := document.outcome path
    document.candidateEvents path ++
      match findings.record path outcome with
      | .error _ => []
      | .ok next => recordEvents findings next path outcome ++ resourceEventsFrom document next rest

/-- The events of deriving the resources. -/
def resourceEvents (document : Document) (selection : Selection) : List LogEvent :=
  document.resourceEventsFrom {} (document.candidatePaths selection)

/-! ## Data sources -/

/-- The event of adding what a path gives to the listings. -/
def listingEvent (listings : Listings) (path : String) :
    Except Rejection DataSourceDescriptor → LogEvent
  | .error rejection => .notDataSource path rejection.message
  | .ok dataSource =>
    if listings.takes dataSource.name then
      let rejection : Rejection := ⟨path, .duplicateDataSource dataSource.name⟩
      .dataSourceRejected path rejection.message
    else .dataSourceFound dataSource.name path

/-- The events of going through paths after others. -/
def dataSourceEventsFrom (document : Document) (listings : Listings) : List String → List LogEvent
  | [] => []
  | path :: rest =>
    let found := document.dataSource path
    listingEvent listings path found ::
      dataSourceEventsFrom document (listings.record path found) rest

/-- The events of deriving the data sources. -/
def dataSourceEvents (document : Document) (selection : Selection) : List LogEvent :=
  document.dataSourceEventsFrom {} (document.selectedPaths selection)

/-! ## The whole analysis -/

/-- The events of a whole analysis. -/
def analysisEvents (document : Document) (selection : Selection) : List LogEvent :=
  let ofResources :=
    if document.authentication.toBool then document.resourceEvents selection else []
  let ofDataSources :=
    if document.authentication.toBool && (document.resources selection).toBool then
      document.dataSourceEvents selection
    else []
  document.authenticationEvents ++ ofResources ++ ofDataSources

end Document

end ResourceGraph
