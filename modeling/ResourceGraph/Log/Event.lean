import ResourceGraph.Log.Level
import ResourceGraph.Text.Quoted

/-!
# Events

What a run has to tell about its own progress.  An event becomes a record of the log: a level, the
part of the program that speaks, and a message.
-/

namespace ResourceGraph

/-- A step of a run that the log tells about. -/
inductive LogEvent where
  | fetching (address : String)
  | pathSkipped (path : String)
  | parameterSkipped (name location : String)
  | securityIgnored (name type : String)
  /-- The collection of an instance path is declared, with the slash at its end or without. -/
  | collectionFound (rootPath : String) (slashed : Bool)
  | validating (instancePath : String)
  | parentsAccepted (instancePath : String) (rootPaths : List String)
  | nestedRejected (name rootPath message : String)
  | hostInRegions (rootPath : String)
  | regionalResource (name region : String)
  | notCompliant (instancePath message : String)
  | resourceRejected (instancePath message : String)
  | resourceFound (name rootPath instancePath : String)
  | resourcesFound (count : Nat)
  | notDataSource (path message : String)
  | dataSourceRejected (path message : String)
  | dataSourceFound (name path : String)
deriving DecidableEq, Repr

/-- A record of the log. -/
structure LogRecord where
  level : LogLevel
  /-- The part of the program that speaks. -/
  speaker : String
  message : String
deriving DecidableEq, Repr

/-- The line of a record. -/
def LogRecord.line (record : LogRecord) : String :=
  "[" ++ record.level.name ++ "] " ++ record.speaker ++ ": " ++ record.message

/-- The records that are shown when the least severity is `threshold`. -/
def LogRecord.shown (threshold : Nat) (records : List LogRecord) : List LogRecord :=
  records.filter fun record => threshold ≤ record.level.severity

namespace LogEvent

/-- The level of an event. -/
def level : LogEvent → LogLevel
  | nestedRejected .. | resourceRejected .. | dataSourceRejected .. => .warning
  | hostInRegions _ | regionalResource .. | resourceFound .. | resourcesFound _
  | dataSourceFound .. => .info
  | _ => .debug

/-- The part of the program that tells about an event. -/
def speaker : LogEvent → String
  | fetching _ => "specgraph.parser.loader"
  | pathSkipped _ | parameterSkipped .. => "specgraph.parser.document"
  | securityIgnored .. => "specgraph.analyser.security"
  | collectionFound .. => "specgraph.analyser.paths"
  | validating _ => "specgraph.analyser.compliance"
  | parentsAccepted .. => "specgraph.analyser.subresources"
  | regionalResource .. => "specgraph.analyser.regions"
  | _ => "specgraph.analyser.analyser"

/-- The message of an event; `elapsed` is the time in seconds that the resources took. -/
def message (elapsed : String) : LogEvent → String
  | fetching address => "fetching document from " ++ address
  | pathSkipped path => "skipping path '" ++ path ++ "': not a path item object"
  | parameterSkipped name location =>
    "skipping parameter '" ++ name ++ "' with unsupported location '" ++ location ++ "'"
  | securityIgnored name type =>
    "ignoring security definition '" ++ name ++ "' of unsupported type '" ++ type ++ "'"
  | collectionFound rootPath slashed =>
    "found resource root path " ++ (if slashed then "with" else "without") ++ " trailing '/' - " ++
      rootPath
  | validating instancePath => "validating end point compliance " ++ instancePath
  | parentsAccepted instancePath rootPaths =>
    "subresource '" ++ instancePath ++ "' parent chain [" ++
      ", ".intercalate (rootPaths.map Text.quoted) ++ "] validated"
  | nestedRejected name rootPath message =>
    "ignoring subresource name='" ++ name ++ "' with rootPath='" ++ rootPath ++
      "' due to not meeting validation requirements: " ++ message
  | hostInRegions rootPath =>
    "resource '" ++ rootPath ++ "' is configured with host override AND multi region; " ++
      "creating one resource per region"
  | regionalResource name region =>
    "multi region resource name = " ++ name ++ ", region = '" ++ region ++ "'"
  | notCompliant instancePath message =>
    "resource path '" ++ instancePath ++ "' not compliant: " ++ message
  | resourceRejected instancePath message =>
    "ignoring resource '" ++ instancePath ++ "': " ++ message
  | resourceFound name rootPath instancePath =>
    "found compliant resource [name='" ++ name ++ "', rootPath='" ++ rootPath ++
      "', instancePath='" ++ instancePath ++ "']"
  | resourcesFound count =>
    "found " ++ toString count ++ " compliant resources (time: " ++ elapsed ++ "s)"
  | notDataSource path message => "path '" ++ path ++ "' not data source compliant: " ++ message
  | dataSourceRejected path message => "ignoring data source '" ++ path ++ "': " ++ message
  | dataSourceFound name path =>
    "found compliant data source [name='" ++ name ++ "', path='" ++ path ++ "']"

/-- The record of an event. -/
def record (elapsed : String) (event : LogEvent) : LogRecord :=
  { level := event.level, speaker := event.speaker, message := event.message elapsed }

end LogEvent

end ResourceGraph
