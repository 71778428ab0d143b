import ResourceGraph.Document.Build
import ResourceGraph.Loading.Content
import ResourceGraph.Reference.Expansion
import ResourceGraph.ServerAddress
import ResourceGraph.Surroundings

/-!
# Loading a document

A source gives a text, the text a mapping, and the mapping, once its version is checked and its
references are expanded, the typed document.  The first of these steps that fails decides.
-/

namespace ResourceGraph

/-! ## Sources

A document comes from the standard input, which is written `-`, from an address or from a file. -/

/-- Where a document comes from. -/
inductive Source where
  | unnamed
  | standardInput
  | address (text : String)
  | file (text : String)
deriving DecidableEq, Repr

/-- The source that a text names. -/
def Source.ofText (text : String) : Source :=
  if text.isEmpty then .unnamed
  else if text == "-" then .standardInput
  else if ServerAddress.isRemote text then .address text
  else .file text

/-! ## Loading -/

namespace Surroundings

/-- The entries of the document in a file. -/
def readFile (surroundings : Surroundings) (name : String) :
    Except LoadFailure (List (Scalar × Value)) :=
  let path := FilePath.ofText name
  match surroundings.files path with
  | .missing => .error (.fault (.fileNotFound name))
  | .nameTooLong => .error (.accident .nameTooLong)
  | .file bytes =>
    match Content.ofFile bytes with
    | .error accident => .error (.accident accident)
    | .ok text =>
      if Text.isAllBlank text then .error (.fault (.emptyFile name))
      else Content.read (.ofExtension path.extension) text

/-- The entries of the document at an address. -/
def readAddress (surroundings : Surroundings) (address : String) :
    Except LoadFailure (List (Scalar × Value)) :=
  match surroundings.fetch address with
  | .failed reason => .error (.fault (.unreachable address reason))
  | .answered status headers body => do
    (Request.check address).mapError fun fault => .accident (.request fault)
    if !headers.areSendable then throw (.accident .unsendableHeaders)
    let unpacked ← (headers.unpack body).mapError fun fault =>
      .fault (.unreachable address fault.message)
    if status < 200 ∨ 299 < status then throw (.fault (.httpStatus status address))
    let contentType := headers.value "content-type"
    let text ← (Content.ofBody contentType unpacked).mapError .accident
    Content.read (.ofContentType contentType) text

/-- The entries of the document that a source gives. -/
def readSource (surroundings : Surroundings) (source : String) :
    Except LoadFailure (List (Scalar × Value)) :=
  match Source.ofText source with
  | .unnamed => .error (.fault .unnamedSource)
  | .standardInput =>
    if Text.isAllBlank surroundings.input then .error (.fault .emptyInput)
    else Content.read .unknown surroundings.input
  | .address text => surroundings.readAddress text
  | .file text => surroundings.readFile text

end Surroundings

/-- The failure of giving a document its typed form. -/
def LoadFailure.ofDocumentFault : DocumentFault → LoadFailure
  | .shape reason => .accident (.shape reason)
  | other => .fault (.malformed other)

/-- The failure of checking the version of a document. -/
def LoadFailure.ofVersionFault : VersionFault → LoadFailure
  | .unwritable => .accident (.shape .unwritable)
  | other => .fault (.version other)

namespace Document

/-- The document, with its references expanded, that entries write. -/
def expand (entries : List (Scalar × Value)) : Except LoadFailure Value := do
  let _ ← (checkVersion entries).mapError .ofVersionFault
  (Value.map entries).expand.mapError fun error => .fault (.reference error)

/-- The typed document that entries write. -/
def ofEntries (source : Option String) (entries : List (Scalar × Value)) :
    Except LoadFailure Document := do
  (ofValue source (← expand entries)).mapError .ofDocumentFault

/-- The typed document that a source gives. -/
def load (surroundings : Surroundings) (source : String) : Except LoadFailure Document := do
  ofEntries (some source) (← surroundings.readSource source)

end Document

end ResourceGraph
