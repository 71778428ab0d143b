import ResourceGraph.Loading.Load
import ResourceGraph.Log.Event

/-!
# Events of loading

What the log tells while a document is loaded: the address it is fetched from, and the parts that
are passed over while the document is given its typed form.  The first fault ends the row of events.
-/

namespace ResourceGraph

/-- A row of events, and whether the work they tell about was done to the end. -/
structure Progress where
  events : List LogEvent := []
  finished : Bool := true

namespace Progress

/-- Work that is done if and when other work is done. -/
def andThen (first next : Progress) : Progress :=
  if first.finished then ⟨first.events ++ next.events, next.finished⟩ else first

/-- Work without events. -/
def silent {ε α : Type} (result : Except ε α) : Progress :=
  ⟨[], result.toBool⟩

/-- The progress of building the parameters that raw ones declare. -/
def ofParameters : List (List (Scalar × Value)) → Progress
  | [] => {}
  | entries :: rest =>
    match Parameter.locationOf? entries with
    | some location =>
      (silent (Parameter.ofEntries location entries)).andThen (ofParameters rest)
    | none =>
      let shown (key : String) := (Entries.getOrNull entries key).shown
      andThen ⟨[.parameterSkipped (shown "name") (shown "in")], true⟩ (ofParameters rest)

/-- The progress of building an operation under a path with the given raw parameters. -/
def ofOperation (ofPath : List (List (Scalar × Value))) (entries : List (Scalar × Value)) :
    Progress :=
  match Operation.rawParameters ofPath entries with
  | .error _ => ⟨[], false⟩
  | .ok parameters =>
    (ofParameters parameters).andThen (silent (Operation.ofEntries ofPath entries))

/-- The progress of building the operations that entries declare for methods. -/
def ofMethods (ofPath : List (List (Scalar × Value))) (entries : List (Scalar × Value)) :
    List Method → Progress
  | [] => {}
  | method :: rest =>
    match Entries.getOrNull entries method.name with
    | .map declared => (ofOperation ofPath declared).andThen (ofMethods ofPath entries rest)
    | _ => ofMethods ofPath entries rest

/-- The progress of building a path item. -/
def ofPathItem (entries : List (Scalar × Value)) : Progress :=
  match PathItem.rawParameters entries with
  | .error _ => ⟨[], false⟩
  | .ok parameters => (ofMethods parameters entries Method.all).andThen (ofParameters parameters)

/-- The progress of building the path items among the values of a mapping. -/
def ofPaths : List (Scalar × Value) → Progress
  | [] => {}
  | (_, .map entries) :: rest => (ofPathItem entries).andThen (ofPaths rest)
  | (key, _) :: rest => andThen ⟨[.pathSkipped key.shown], true⟩ (ofPaths rest)

/-- The progress of giving a document its typed form. -/
def ofDocument (value : Value) : Progress :=
  match value with
  | .map entries =>
    match Document.sectionOf entries "paths" .pathsNotMapping,
        Document.sectionOf entries "definitions" .definitionsNotMapping with
    | .ok paths, .ok _ => ofPaths paths
    | _, _ => ⟨[], false⟩
  | _ => ⟨[], false⟩

end Progress

/-- The events of reading a source. -/
def Source.events : Source → List LogEvent
  | .address text => [.fetching text]
  | _ => []

/-- The events of loading the document that a source gives. -/
def Document.loadEvents (surroundings : Surroundings) (source : String) : List LogEvent :=
  (Source.ofText source).events ++
    match (surroundings.readSource source).bind Document.expand with
    | .ok value => (Progress.ofDocument value).events
    | .error _ => []

end ResourceGraph
