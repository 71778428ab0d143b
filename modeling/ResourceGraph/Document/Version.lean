import ResourceGraph.Value.Text

/-!
# The version of a document

Only documents of version 2.0 are analysed.  The version is compared by its text, so that the number
`2.0` is as good as the text.
-/

namespace ResourceGraph

/-- Why the version of a document is not supported. -/
inductive VersionFault where
  /-- The document follows the successor format. -/
  | successor (shown : String)
  | missing
  | unsupported (shown : String)
  /-- The version cannot be written, having an integer that is too long. -/
  | unwritable
deriving DecidableEq, Repr

/-- The words that explain a fault. -/
def VersionFault.message : VersionFault → String
  | successor shown =>
    "OpenAPI " ++ shown ++ " is not supported. Only Swagger 2.0 documents can be analysed."
  | missing => "Missing 'swagger' field. Is this a Swagger 2.0 document?"
  | unsupported shown => "Unsupported Swagger version: " ++ shown ++ ". Only 2.0 is supported."
  | unwritable => Number.longIntegerText none

/-- The version of the documents that are analysed. -/
def supportedVersion : String := "2.0"

/-- The version that the entries of a document declare, if it is the supported one. -/
def checkVersion (entries : List (Scalar × Value)) : Except VersionFault String :=
  match Entries.get? entries "openapi" with
  | some version =>
    .error (if version.isWritable then .successor version.shown else .unwritable)
  | none =>
    match Entries.getOrNull entries "swagger" with
    | .null => .error .missing
    | version =>
      if !version.isWritable then .error .unwritable
      else if version.shown == supportedVersion then .ok supportedVersion
      else .error (.unsupported version.shown)

end ResourceGraph
