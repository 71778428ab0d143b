import ResourceGraph.Document.Fault
import ResourceGraph.Document.Version
import ResourceGraph.Json.Reader
import ResourceGraph.Loading.ContentType
import ResourceGraph.Loading.Request
import ResourceGraph.Reference.Pointer
import ResourceGraph.ServerAddress
import ResourceGraph.Yaml.Fault

/-!
# Faults of loading

A document that cannot be loaded is reported with a message.  Some accidents are not foreseen (a
file that is not text, a value of a shape that nothing can be done with) and end the program with a
crash log instead.
-/

namespace ResourceGraph

/-- Why a document is not loaded. -/
inductive LoadFault where
  | unnamedSource
  | emptyInput
  | fileNotFound (path : String)
  | emptyFile (path : String)
  | httpStatus (status : Int) (address : String)
  | unreachable (address reason : String)
  | invalidJson (error : Json.Error)
  /-- The text is neither JSON, if that was tried, nor YAML. -/
  | unreadable (json : Option Json.Error) (yaml : Yaml.Fault)
  /-- The text holds no mapping: nothing at all, or a value of another kind. -/
  | notAMapping (kind : Option String)
  | version (fault : VersionFault)
  | reference (error : ReferenceError)
  | malformed (fault : DocumentFault)
deriving DecidableEq, Repr

/-- What ends the program unforeseen. -/
inductive Accident where
  | nameTooLong
  /-- The bytes of a file are not the UTF-8 form of a text. -/
  | notText
  | request (fault : RequestFault)
  /-- The headers of a reply hold characters that cannot be sent. -/
  | unsendableHeaders
  | contentType (fault : ContentTypeFault)
  | charset (fault : Text.CharsetFault)
  | number (error : Json.Error)
  | scalar (fault : Yaml.Fault)
  | shape (fault : ShapeFault)
  | address (fault : AddressFault)
deriving DecidableEq, Repr

/-- Why there is no document. -/
inductive LoadFailure where
  | fault (fault : LoadFault)
  | accident (accident : Accident)
deriving DecidableEq, Repr

/-- The words that explain a fault. -/
def LoadFault.message : LoadFault → String
  | unnamedSource => "document source is empty, please provide a file path or URL"
  | emptyInput => "No input received from stdin"
  | fileNotFound path => "Document file not found: " ++ path
  | emptyFile path => "Document file is empty: " ++ path
  | httpStatus status address => "HTTP " ++ toString status ++ " fetching document from " ++ address
  | unreachable address reason => "Failed to fetch document from " ++ address ++ ": " ++ reason
  | invalidJson error => "Invalid JSON: " ++ error.message
  | unreadable json yaml =>
    let jsonLine := (json.map fun error => "\n  JSON error: " ++ error.message).getD ""
    "Failed to parse document as JSON or YAML" ++ jsonLine ++ "\n  YAML error: " ++ yaml.message
  | notAMapping kind =>
    "Document must be a JSON/YAML object (got " ++ kind.getD "empty document" ++ ")"
  | version fault => fault.message
  | reference error => error.message
  | malformed fault => fault.message

end ResourceGraph
