import ResourceGraph.Value.Mismatch

/-!
# Faults of a document

What stops a document from being given its typed form.  The fields without the kind of value that
they should have are reported for one part of the document at a time.  A part that cannot even be
gone through is reported by its shape alone.
-/

namespace ResourceGraph

/-- The parts of a document that are given a typed form. -/
inductive DocumentPart where
  | schema
  | parameter
  | response
  | operation
  | securityDeclaration
  | document
deriving DecidableEq, Repr

/-- A value of a shape that does not allow what is done with it. -/
inductive ShapeFault where
  /-- A value that should be a mapping, or behave like one, does not. -/
  | notAMapping
  /-- A key that should be a text is not. -/
  | keyNotText
  /-- A key that should be a text is a row of bytes. -/
  | keyOfBytes
  /-- A value that should be gone through item by item cannot be. -/
  | notIterable
  /-- A list or a mapping stands where a key is needed. -/
  | compoundKey
  /-- A value that should be written as a text has an integer that is too long. -/
  | unwritable
deriving DecidableEq, Repr

/-- Why a document has no typed form. -/
inductive DocumentFault where
  | pathsNotMapping
  | definitionsNotMapping
  | malformed (part : DocumentPart) (mismatches : List Mismatch)
  | shape (fault : ShapeFault)
deriving DecidableEq, Repr

/-- The words that explain why a document has no typed form. -/
def DocumentFault.message : DocumentFault → String
  | pathsNotMapping => "'paths' must be a mapping of path templates"
  | definitionsNotMapping => "'definitions' must be a mapping of schemas"
  | malformed _ mismatches => "malformed document: " ++ Mismatch.summary mismatches
  | shape _ => "malformed document: a value has the wrong shape"

end ResourceGraph
