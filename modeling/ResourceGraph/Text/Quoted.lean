import ResourceGraph.Text.Printable

/-!
# Quoted text inside messages

A text that is part of a value shown in a message stands in quotes: single ones, or double ones when
it holds a single quote and no double one.  The quote itself, the backslash and every character
that is not printable are escaped.  Bytes are shown in the same way.
-/

namespace ResourceGraph.Text

/-- A number in hexadecimal, padded with zeros to a width. -/
def hexadecimal (width value : Nat) : List Char :=
  let digits := Nat.toDigits 16 value
  List.replicate (width - digits.length) '0' ++ digits

/-- The characters that stand for one character between two quotes. -/
def escapeCharacter (quote c : Char) : List Char :=
  if c == quote || c == '\\' then ['\\', c]
  else if c == '\n' then ['\\', 'n']
  else if c == '\r' then ['\\', 'r']
  else if c == '\t' then ['\\', 't']
  else if isPrintable c then [c]
  else if c.toNat < 0x100 then '\\' :: 'x' :: hexadecimal 2 c.toNat
  else if c.toNat < 0x10000 then '\\' :: 'u' :: hexadecimal 4 c.toNat
  else '\\' :: 'U' :: hexadecimal 8 c.toNat

/-- The quote that surrounds a text. -/
def chooseQuote (characters : List Char) : Char :=
  if characters.contains '\'' && !characters.contains '"' then '"' else '\''

/-- Characters in quotes, `escape` telling what stands for each of them. -/
def quotedWith (escape : Char → Char → List Char) (characters : List Char) : List Char :=
  let quote := chooseQuote characters
  quote :: characters.flatMap (escape quote) ++ [quote]

/-- A text in quotes. -/
def quoted (text : String) : String := String.ofList (quotedWith escapeCharacter text.toList)

/-- The characters that stand for one byte between two quotes; only ASCII stands for itself. -/
def escapeByte (quote byte : Char) : List Char :=
  if byte.toNat < 0x80 then escapeCharacter quote byte
  else '\\' :: 'x' :: hexadecimal 2 byte.toNat

/-- Bytes in quotes, behind the letter that tells them from a text. -/
def quotedBytes (bytes : List UInt8) : String :=
  String.ofList ('b' :: quotedWith escapeByte (bytes.map fun byte => Char.ofNat byte.toNat))

end ResourceGraph.Text
