import ResourceGraph.Number.Integer
import ResourceGraph.Text.Charset.Reader
import ResourceGraph.Text.Punycode

/-!
# Escaped characters

Charsets in which ASCII characters stand for others: sequences behind a backslash, as in the sources
of programs, or the numbers of Punycode.
-/

namespace ResourceGraph.Text.Charset

/-- Reads a number of so many hexadecimal digits behind a backslash and a letter as a character. -/
def hexEscape (count : Nat) (rest : List Nat) : Reading :=
  let digits := (rest.take count).map fun byte => Number.hexadecimalDigit? (Char.ofNat byte)
  let given := (digits.takeWhile Option.isSome).filterMap id
  let point := Number.positional 16 given
  if given.length < count || 0x10FFFF < point then .malformed (2 + given.length)
  else .single (characterOf point) (2 + count)

/-- The bytes that stand for other characters behind a backslash. -/
def letterEscapes : List (Char × Char) := [
  ('\\', '\\'), ('\'', '\''), ('"', '"'), ('b', '\x08'), ('f', '\x0C'), ('t', '\t'), ('n', '\n'),
  ('r', '\r'), ('v', '\x0B'), ('a', '\x07')]

/-- Whether a byte is an octal digit. -/
def isOctalDigit (byte : Nat) : Bool := 0x30 ≤ byte && byte ≤ 0x37

/-- Reads a name in braces behind a backslash and a letter; no names are known. -/
def nameEscape (rest : List Nat) : Reading :=
  match rest with
  | 0x7B :: name =>
    let length := (name.takeWhile (· != 0x7D)).length
    if length = name.length then .malformed (3 + length)
    else if length = 0 then .malformed 3
    else .malformed (3 + length + 1)
  | _ => .malformed 2

/-- Reads what stands behind a backslash in a quoted text, with the backslash. -/
def quotedEscape (marker : Nat) (rest : List Nat) : Reading :=
  let c := Char.ofNat marker
  match letterEscapes.lookup c with
  | some meant => .single meant 2
  | none =>
    if c = '\n' then ⟨[], 2⟩
    else if isOctalDigit marker then
      let digits := marker :: (rest.take 2).takeWhile isOctalDigit
      let value := Number.positional 8 (digits.map (· - 0x30))
      .single (Char.ofNat value) (1 + digits.length)
    else if c = 'x' then hexEscape 2 rest
    else if c = 'u' then hexEscape 4 rest
    else if c = 'U' then hexEscape 8 rest
    else if c = 'N' then nameEscape rest
    else ⟨['\\', c], 2⟩

/-- Reads bytes as the first characters, with all sequences of quoted texts. -/
def quotedReader : Reader
  | 0x5C :: marker :: rest => quotedEscape marker rest
  | 0x5C :: [] => .malformed 1
  | byte :: _ => .single (Char.ofNat byte) 1
  | [] => .malformed 1

/-- Reads bytes as the first characters, with the sequences for numbers only. -/
def rawReader : Reader
  | 0x5C :: marker :: rest =>
    let c := Char.ofNat marker
    if c = 'u' then hexEscape 4 rest
    else if c = 'U' then hexEscape 8 rest
    else ⟨['\\', c], 2⟩
  | byte :: _ => .single (Char.ofNat byte) 1
  | [] => .malformed 1

/-- Punycode, in which only the plain characters may be malformed. -/
def punycode : Charset := fun bytes =>
  let numbers := (bytes.reverse.takeWhile (· != 0x2D)).reverse
  let plain := (bytes.take (bytes.length - numbers.length)).dropLast
  if numbers.any (128 ≤ ·) then .error .notAscii
  else .ok (Punycode.ofParts (readAll ascii plain) (numbers.map Char.ofNat)).characters

end ResourceGraph.Text.Charset
