import ResourceGraph.DomainName.Label
import ResourceGraph.Text.Punycode

/-!
# Domain names

Points separate the labels of a domain name; one more may stand at its end.  On its way a label with
other characters than ASCII is written in ASCII, behind a mark.
-/

namespace ResourceGraph.DomainName

/-- What stands in front of a label that is written in ASCII. -/
def asciiMark : List Char := ['x', 'n', '-', '-']

/-- Whether a character separates labels. -/
def isPoint (c : Char) : Bool := c == '.' || c == '\u3002' || c == '\uFF0E' || c == '\uFF61'

/-- The labels of a domain name, and whether a point stands at its end. -/
def labels (name : List Char) : List (List Char) × Bool :=
  let parts := name.splitOnP isPoint
  if 1 < parts.length && parts.getLast? == some [] then (parts.dropLast, true) else (parts, false)

/-- Checks a label of ASCII characters, and the label that it writes if it bears the mark. -/
def checkAsciiLabel (label : List Char) : Except DomainFault Unit :=
  let lowered := label.map Char.toLower
  if !asciiMark.isPrefixOf lowered then checkLabel lowered
  else
    let written := lowered.drop asciiMark.length
    let decoded := Text.Punycode.decode written
    if written.isEmpty || written.getLast? == some '-' || !decoded.isSound then .error .malformed
    else checkLabel decoded.characters

/-- Checks a domain name of ASCII characters. -/
def checkAscii (name : List Char) : Except DomainFault Unit :=
  if lengthLimit < name.length then .error .malformed
  else (labels name).1.forM checkAsciiLabel

/-- A label in ASCII, if that is short enough. -/
def asciiLabel (label : List Char) : Except DomainFault (List Char) := do
  let written ←
    if label.all fun c => c.toNat < 128 then do
      checkAsciiLabel label
      pure label
    else do
      checkLabel label
      pure (asciiMark ++ Text.Punycode.encode label)
  if labelLengthLimit < written.length then throw .malformed
  return written

/-- A domain name in ASCII. -/
def toAscii (name : List Char) : Except DomainFault (List Char) := do
  if lengthLimit < name.length then throw .malformed
  let (parts, isClosed) := labels name
  let written := List.intercalate ['.'] (← parts.mapM asciiLabel) ++ if isClosed then ['.'] else []
  if (if isClosed then lengthLimit else lengthLimit - 1) < written.length then throw .malformed
  return written

end ResourceGraph.DomainName
