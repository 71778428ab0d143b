import ResourceGraph.Output.Pattern
import ResourceGraph.Text.Digit
import ResourceGraph.Text.WordCharacter

/-!
# Highlighting

A terminal shows parts of a remark in colours of their own: tags, attributes and brackets, and
whatever looks like an address, an identifier, a call, a constant, a number, a path or a quotation.
The colours themselves are not modelled, only the stretches that have one.
-/

namespace ResourceGraph.Highlight

open Pattern

/-- One of certain characters. -/
def oneOf (characters : String) : Pattern := one characters.toList.contains

/-- A word character, or one of certain others. -/
def wordOr (others : String) : Pattern :=
  one fun c => Text.isWordCharacter c || others.toList.contains c

/-- A word character. -/
def word : Pattern := one Text.isWordCharacter

/-- A digit from `0` to `9`. -/
def digit : Pattern := one Char.isDigit

/-- Whether a character is a hexadecimal digit. -/
def isHexadecimal (c : Char) : Bool :=
  c.isDigit || ('a' ≤ c && c ≤ 'f') || ('A' ≤ c && c ≤ 'F')

/-- A hexadecimal digit. -/
def hexadecimal : Pattern := one isHexadecimal

/-- The end or the beginning of a word. -/
def edge : Pattern :=
  between fun before after => before.any Text.isWordCharacter != after.any Text.isWordCharacter

/-- No such end or beginning. -/
def noEdge : Pattern :=
  between fun before after => before.any Text.isWordCharacter == after.any Text.isWordCharacter

/-- Not after certain characters. -/
def notAfter (test : Char → Bool) : Pattern := between fun before _ => !before.any test

/-- A tag in angle brackets. -/
def tag : Pattern :=
  row [marked (only '<'), marked (many (wordOr "-.:|")), marked (many (one fun _ => true)),
    marked (only '>')]

/-- A name with the value it is given. -/
def assignment : Pattern :=
  row [marked (oneUpTo 50 word), only '=',
    optional (marked (row [optional (only '"'), atLeastOne word, optional (only '"')]))]

/-- A bracket. -/
def bracket : Pattern := marked (oneOf "[]\x7b\x7d()")

/-- Four numbers with points between them. -/
def dottedAddress : Pattern :=
  let number := oneUpTo 3 digit
  marked (row [rounds 3 (chain number (only '.')), number])

/-- Hexadecimal numbers with one or two colons between them. -/
def colonAddress : Pattern :=
  let number := oneUpTo 4 hexadecimal
  marked (row [oneUpTo 7 (row [number, only ':', optional (only ':')]), number])

/-- The address of a device: pairs of hexadecimal digits after `pairs` others, or groups of four
after `groups` others. -/
def deviceAddress (pairs groups : Nat) : Pattern :=
  let number := oneUpTo 2 hexadecimal
  let group := rounds 4 hexadecimal
  marked (anyOf [
    chain (rounds pairs (chain number (only '-'))) number,
    chain (rounds pairs (chain number (only ':'))) number,
    chain (rounds groups (chain group (only '.'))) group])

/-- A universally unique identifier. -/
def uniqueIdentifier : Pattern :=
  let group (length : Nat) := rounds length hexadecimal
  marked (row [group 8, only '-', group 4, only '-', group 4, only '-', group 4, only '-',
    group 12])

/-- The name of something that is called. -/
def call : Pattern := chain (marked (few (wordOr "."))) (only '(')

/-- A constant. -/
def constant : Pattern :=
  anyOf (["True", "False", "None"].map fun name => row [edge, marked (literal name), edge])

/-- An ellipsis. -/
def ellipsis : Pattern := marked (literal "...")

/-- A number without a sign; the digits of its power of ten are as many as `power` says. -/
def unsigned (power : Pattern) : Pattern :=
  row [atLeastOne digit, optional (only '.'), many digit,
    optional (row [only 'e', optional (oneOf "-+"), power])]

/-- A decimal digit of any script. -/
def decimal : Pattern := one Text.isDecimalDigit

/-- Decimal digits, rather fewer of them. -/
def fewDecimals : Pattern := chain decimal (few decimal)

/-- A complex number. -/
def complexNumber : Pattern :=
  marked (row [notAfter Text.isWordCharacter, optional (only '-'), unsigned fewDecimals,
    optional (chain (oneOf "-+") (unsigned (atLeastOne decimal))), only 'j'])

/-- A number. -/
def number : Pattern :=
  marked (choice
    (row [notAfter Text.isWordCharacter, optional (only '-'), unsigned fewDecimals, edge])
    (chain (literal "0x") (many hexadecimal)))

/-- A path, and the name of a file behind it. -/
def path : Pattern :=
  let letter := wordOr "-._+"
  row [marked (row [noEdge, many (chain (only '/') (atLeastOne letter)), only '/']),
    optional (marked (many letter))]

/-- A quotation between marks, on a single line. -/
def quotation (mark : String) : Pattern :=
  row [optional (only 'b'), literal mark, few (one (· != '\n')), notAfter (· == '\\'),
    literal mark]

/-- A quotation. -/
def quoted : Pattern :=
  chain (notAfter fun c => c == '\\' || Text.isWordCharacter c)
    (marked (anyOf (["'''", "'", "\"\"\"", "\""].map quotation)))

/-- The address of a resource. -/
def resourceAddress : Pattern :=
  let special := "-$_+!\x60(),.?/;:&=%#~@"
  marked (row [anyOf (["file", "https", "http", "ws", "wss"].map literal), literal "://",
    many (one fun c => c.isAlphanum || special.toList.contains c)])

/-- What is highlighted, each pattern on its own. -/
def patterns : List Pattern := [
  tag,
  assignment,
  bracket,
  anyOf [dottedAddress, colonAddress, deviceAddress 7 3, deviceAddress 5 2, uniqueIdentifier, call,
    constant, ellipsis, complexNumber, number, path, quoted, resourceAddress]]

/-- The stretches of a text that are highlighted. -/
def spans (text : List Char) : List Span := patterns.flatMap (Pattern.marks · text)

end ResourceGraph.Highlight
