import ResourceGraph.DomainName.Basic
import ResourceGraph.Number.Integer
import ResourceGraph.ServerAddress
import ResourceGraph.Text.Lowercase

/-!
# Requests

A request is made to an address, whose parts have to be sound: the host, which is a domain name or
an address of the Internet Protocol, and the number of the port behind it.
-/

namespace ResourceGraph

/-- Why no request can be made to an address. -/
inductive RequestFault where
  | malformedAddress
  /-- The host holds characters that cannot be sent. -/
  | unsendableHost
  /-- The domain name that is written in ASCII is refused. -/
  | domain (fault : DomainFault)
deriving DecidableEq, Repr

namespace Request

/-- The number of characters that an address may have. -/
def lengthLimit : Nat := 65536

/-- Whether a character controls a device instead of being shown. -/
def isControl (c : Char) : Bool := c.toNat < 32 || c.toNat == 127

/-- The host and what stands between a colon behind it and the end of the authority. -/
structure Authority where
  host : List Char
  port : List Char
deriving DecidableEq, Repr

namespace Authority

/-- What stands in an address between the slashes and the path. -/
def characters (address : String) : List Char :=
  (((address.toList.dropWhile (· != ':')).drop 3)).takeWhile fun c =>
    c != '/' && c != '?' && c != '#'

/-- The number of characters in front of the port and its colon: up to the last closing bracket if
the first character is an opening one and there is any, else up to the first colon. -/
def hostLength (characters : List Char) : Nat :=
  let afterBracket := (characters.reverse.takeWhile (· != ']')).length
  if characters.head? = some '[' ∧ afterBracket < characters.length then
    characters.length - afterBracket
  else (characters.takeWhile (· != ':')).length

/-- The authority of an address. -/
def ofAddress (address : String) : Authority :=
  let characters := ServerAddress.withoutUser (characters address)
  let length := hostLength characters
  let rest := characters.drop length
  { host := characters.take length
    port := if rest.head? = some ':' then rest.drop 1 else rest }

end Authority

/-- How many characters in a row of digits can be taken for separators between digits. -/
def innerSeparators (row : List Char) : Nat := (row.length - 1) / 2

/-- Whether a host looks like an address in short form: four rows of digits with a character between
each two of them, which may be another digit. -/
def looksShort (host : List Char) : Bool :=
  let rows := host.splitOnP fun c => !c.isDigit
  rows.length ≤ 4 && rows.all (fun row => !row.isEmpty) &&
    4 ≤ rows.length + rows.foldl (fun total row => total + innerSeparators row) 0

/-- The characters that stand in a domain name as they are; others are written in another way. -/
def isKept (c : Char) : Bool := !" <>[]^".toList.contains c

/-- A domain name of ASCII characters as it is sent, without capitals. -/
def escaped (host : List Char) : List Char :=
  host.flatMap fun c =>
    if isKept c then [c.toLower] else '%' :: (Nat.toDigits 16 c.toNat).map Char.toUpper

/-- Whether characters are all ASCII. -/
def isAscii (characters : List Char) : Bool := characters.all fun c => c.toNat < 128

/-- Whether a host is enclosed in brackets. -/
def isBracketed (host : List Char) : Bool :=
  1 < host.length && host.head? == some '[' && host.getLast? == some ']'

/-- Whether a host is sound.  A domain name of ASCII characters is taken as it is. -/
def isHost (host : List Char) : Bool :=
  if looksShort host then ServerAddress.isShortAddress host
  else if isBracketed host then ServerAddress.isLongAddress (host.drop 1).dropLast
  else isAscii host || (DomainName.toAscii (Text.lower (String.ofList host)).toList).toBool

/-- Whether a port is left out or is a number. -/
def isPort (port : List Char) : Bool :=
  port.isEmpty || (Number.readInteger (String.ofList port)).toBool

/-- Checks that a sound host can be sent. -/
def checkSendable (host : List Char) : Except RequestFault Unit :=
  if isBracketed host then if isAscii host then .ok () else .error .unsendableHost
  else if isAscii host && DomainName.asciiMark.isPrefixOf (escaped host) then
    (DomainName.checkAscii (escaped host)).mapError .domain
  else .ok ()

/-- Checks that a request can be made to an address. -/
def check (address : String) : Except RequestFault Unit :=
  let authority := Authority.ofAddress address
  if lengthLimit < address.length || address.toList.any isControl || !isHost authority.host ||
      !isPort authority.port then
    .error .malformedAddress
  else checkSendable authority.host

end Request

end ResourceGraph
