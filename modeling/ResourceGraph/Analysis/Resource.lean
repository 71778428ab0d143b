import ResourceGraph.Path.Instance
import ResourceGraph.Resource.Build
import ResourceGraph.Selection

/-!
# Resources of a document

Every selected instance path has one outcome of its own: descriptors, a rejection, or an error that
ends the analysis.  The outcomes are then gone through in the order of the paths, and a path whose
descriptors would repeat a name that is already taken is rejected as a whole.
-/

namespace ResourceGraph

/-- What becomes of an instance path, the other paths left aside. -/
inductive Outcome where
  | accepted (resources : List ResourceDescriptor)
  | rejected (rejection : Rejection)
  | failed (error : AnalysisError)

namespace Document

/-- The paths that a document declares. -/
def declares (document : Document) (path : String) : Bool := document.paths.has path

/-- The selected paths of a document, in code point order. -/
def selectedPaths (document : Document) (selection : Selection) : List String :=
  document.paths.names.filter selection.selects

/-- The selected instance paths of a document, in code point order. -/
def candidatePaths (document : Document) (selection : Selection) : List String :=
  Path.instances (document.selectedPaths selection)

/-- The candidate of an instance path: the pair with its collection path, if it is compliant. -/
def candidate (document : Document) (instancePath : String) : Except Rejection Candidate := do
  let rootPath ← Path.findRoot document.declares instancePath
  let some item := document.paths.get? instancePath | throw ⟨instancePath, .missingRead⟩
  (Candidate.validate document rootPath instancePath item).mapError (Rejection.mk instancePath)

/-- The descriptor of an instance path, parents checked, before regions are looked at. -/
def resource (document : Document) (instancePath : String) :
    Except Rejection ResourceDescriptor := do
  let descriptor ← (← document.candidate instancePath).descriptor document
  match Parent.fault? document descriptor.parents with
  | some cause => throw ⟨instancePath, cause⟩
  | none => return descriptor

/-- What becomes of an instance path, the other paths left aside. -/
def outcome (document : Document) (instancePath : String) : Outcome :=
  match document.resource instancePath with
  | .error rejection => .rejected rejection
  | .ok descriptor =>
    match Region.ofHost? descriptor.host document.extensions with
    | .error error => .failed error
    | .ok none => .accepted [descriptor]
    | .ok (some regions) => .accepted (regions.map descriptor.inRegion)

end Document

/-- What has been found so far. -/
structure Findings where
  resources : List ResourceDescriptor := []
  rejections : List Rejection := []

namespace Findings

/-- The first name, in code point order, among those of some resources that is already taken. -/
def clash? (findings : Findings) (resources : List ResourceDescriptor) : Option String :=
  let taken := findings.resources.map ResourceDescriptor.name
  (sortNames ((resources.map ResourceDescriptor.name).filter taken.contains)).head?

/-- The findings with the outcome of one more instance path. -/
def record (findings : Findings) (instancePath : String) :
    Outcome → Except AnalysisError Findings
  | .failed error => .error error
  | .rejected rejection =>
    .ok { findings with rejections := findings.rejections ++ [rejection] }
  | .accepted resources =>
    match findings.clash? resources with
    | none => .ok { findings with resources := findings.resources ++ resources }
    | some name =>
      let rootPath := (resources.head?.map ResourceDescriptor.rootPath).getD ""
      let rejection : Rejection := ⟨instancePath, .duplicateResource name rootPath⟩
      .ok { findings with rejections := findings.rejections ++ [rejection] }

end Findings

/-- The resources of a document and the rejected instance paths. -/
def Document.resources (document : Document) (selection : Selection) :
    Except AnalysisError Findings :=
  (document.candidatePaths selection).foldlM
    (fun findings path => findings.record path (document.outcome path)) {}

end ResourceGraph
