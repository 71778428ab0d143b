import ResourceGraph.Text.Quoted

/-!
# Addresses of servers

The address of a document begins with `http://` or `https://`; the host of the server follows, up to
the next slash, question mark or number sign.  Brackets enclose an address of the Internet Protocol
in its long form; the name of a user may stand before it, a colon with a number after it.
-/

namespace ResourceGraph

/-- Why an address names no server. -/
inductive AddressFault where
  /-- A square bracket without its counterpart, or away from the ends of the host. -/
  | misplacedBrackets
  /-- Brackets around what is no long address; `short` tells whether it is a short one. -/
  | notLongAddress (text : String) (short : Bool)
  /-- Brackets around a malformed address of a future form. -/
  | malformedFutureAddress
  /-- A character that some readers take for one of `/ ? # @ :`. -/
  | ambiguousCharacter (host : String)
deriving DecidableEq, Repr

/-- The words that explain a fault. -/
def AddressFault.message : AddressFault → String
  | misplacedBrackets => "Invalid IPv6 URL"
  | notLongAddress text short =>
    if short then "An IPv4 address cannot be in brackets"
    else Text.quoted text ++ " does not appear to be an IPv4 or IPv6 address"
  | malformedFutureAddress => "IPvFuture address is invalid"
  | ambiguousCharacter host =>
    "netloc '" ++ host ++ "' contains invalid characters under NFKC normalization"

namespace ServerAddress

/-- Whether a source is an address to fetch from. -/
def isRemote (source : String) : Bool :=
  "http://".toList.isPrefixOf source.toList || "https://".toList.isPrefixOf source.toList

/-- Whether a text is a number below 256 without leading zeros. -/
def isOctet (digits : List Char) : Bool :=
  !digits.isEmpty && digits.all Char.isDigit && digits.length ≤ 3 &&
    (digits.length == 1 || digits.head? != some '0') &&
    digits.foldl (fun value c => value * 10 + (c.toNat - 48)) 0 ≤ 255

/-- Whether characters are an address in short form: four numbers between points. -/
def isShortAddress (characters : List Char) : Bool :=
  let parts := characters.splitOn '.'
  parts.length == 4 && parts.all isOctet

/-- Whether a character is a hexadecimal digit. -/
def isHexDigit (c : Char) : Bool :=
  c.isDigit || ('a' ≤ c && c ≤ 'f') || ('A' ≤ c && c ≤ 'F')

/-- Whether a text is a group of a long address. -/
def isGroup (digits : List Char) : Bool :=
  !digits.isEmpty && digits.length ≤ 4 && digits.all isHexDigit

/-- The groups of a long address that may end in a short one; none if that is malformed. -/
def expandShortEnd? (parts : List (List Char)) : Option (List (List Char)) :=
  match parts.getLast? with
  | some last =>
    if !last.contains '.' then some parts
    else if isShortAddress last then some (parts.dropLast ++ [['0'], ['0']])
    else none
  | none => some parts

/-- Whether parts between colons are eight groups, or fewer with one row of zeros left out. -/
def areGroups (parts : List (List Char)) : Bool :=
  let inner := (parts.drop 1).dropLast
  match inner.findIdx? List.isEmpty with
  | none => parts.length == 8 && parts.all isGroup
  | some position =>
    let before := parts.take (position + 1)
    let after := parts.drop (position + 2)
    let leading := if before == [[]] then [] else before
    let trailing := if after == [[]] then [] else after
    leading.all isGroup && trailing.all isGroup && leading.length + trailing.length < 8

/-- Whether characters are an address in long form, perhaps with a zone behind a percent sign. -/
def isLongAddress (characters : List Char) : Bool :=
  let address := characters.takeWhile (· != '%')
  let zoneIsSound :=
    match characters.dropWhile (· != '%') with
    | [] => true
    | _ :: zone => !zone.isEmpty && !zone.contains '%'
  let parts := address.splitOn ':'
  zoneIsSound && 3 ≤ parts.length &&
    match expandShortEnd? parts with
    | some groups => groups.length ≤ 9 && areGroups groups
    | none => false

/-- Whether characters are an address of a future form: `v`, a version, a point and more. -/
def isFutureAddress (characters : List Char) : Bool :=
  match characters with
  | 'v' :: rest =>
    !(rest.takeWhile isHexDigit).isEmpty &&
      match rest.dropWhile isHexDigit with
      | '.' :: c :: further => (c :: further).all (· != '\n')
      | _ => false
  | _ => false

/-- Checks that characters are an address in long form or in a future form. -/
def checkAddress (characters : List Char) : Except AddressFault Unit :=
  if characters.head? == some 'v' then
    if isFutureAddress characters then .ok () else .error .malformedFutureAddress
  else if isLongAddress characters then .ok ()
  else .error (.notLongAddress (String.ofList characters) (isShortAddress characters))

/-- The characters after the last at sign, all of them if there is none. -/
def withoutUser (host : List Char) : List Char :=
  (host.reverse.takeWhile (· != '@')).reverse

/-- The address in a host with brackets: what they enclose, if nothing but a colon with what follows
it stands outside them; without an opening one, what stands before the colon. -/
def bracketedAddress (host : List Char) : Except AddressFault (List Char) :=
  if host.contains '[' then
    let inside := (host.drop 1).takeWhile (· != ']')
    let after := ((host.drop 1).dropWhile (· != ']')).drop 1
    if host.head? == some '[' && (after.isEmpty || after.head? == some ':') then .ok inside
    else .error .misplacedBrackets
  else .ok (host.takeWhile (· != ':'))

/-- Checks the use of square brackets in a host. -/
def checkBrackets (host : List Char) : Except AddressFault Unit :=
  if host.contains '[' != host.contains ']' then .error .misplacedBrackets
  else if host.contains '[' then bracketedAddress (withoutUser host) >>= checkAddress
  else .ok ()

/-- The characters that some readers take for one of `/ ? # @ :`. -/
def ambiguousCharacters : List Nat := [
  0x2047, 0x2048, 0x2049, 0x2100, 0x2101, 0x2105, 0x2106, 0x2A74, 0xFE13, 0xFE16, 0xFE55, 0xFE56,
  0xFE5F, 0xFE6B, 0xFF03, 0xFF0F, 0xFF1A, 0xFF1F, 0xFF20]

/-- Whether a character is passed over in an address. -/
def isSkipped (c : Char) : Bool := c == '\t' || c == '\r' || c == '\n'

/-- The host of a server whose address begins with `http://` or `https://`. -/
def host (address : String) : Except AddressFault String := do
  let characters := address.toList.filter fun c => !isSkipped c
  let afterScheme := (characters.dropWhile (· != ':')).drop 1
  let host :=
    match afterScheme with
    | '/' :: '/' :: rest => rest.takeWhile fun c => c != '/' && c != '?' && c != '#'
    | _ => []
  checkBrackets host
  if host.any fun c => ambiguousCharacters.contains c.toNat then
    throw (.ambiguousCharacter (String.ofList host))
  return String.ofList host

end ServerAddress

end ResourceGraph
