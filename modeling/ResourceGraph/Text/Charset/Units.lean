import ResourceGraph.Text.Charset.Reader

/-!
# Unicode charsets

A character is written by one to four bytes, the first of which tells how many there are, or as a
number of two or four bytes, whose order is either known or told by a mark at the beginning.
-/

namespace ResourceGraph.Text.Charset

/-! ## The standard form -/

/-- The number of bytes that follow a first byte, the range of the first one of them, and the bits
of the character in the first byte; none if no character begins with it. -/
def followers? (first : Nat) : Option (Nat × Nat × Nat × Nat) :=
  if first < 0xC2 then none
  else if first < 0xE0 then some (1, 0x80, 0xBF, first - 0xC0)
  else if first = 0xE0 then some (2, 0xA0, 0xBF, 0)
  else if first = 0xED then some (2, 0x80, 0x9F, 0xD)
  else if first < 0xF0 then some (2, 0x80, 0xBF, first - 0xE0)
  else if first = 0xF0 then some (3, 0x90, 0xBF, 0)
  else if first < 0xF4 then some (3, 0x80, 0xBF, first - 0xF0)
  else if first = 0xF4 then some (3, 0x80, 0x8F, 4)
  else none

/-- The bytes in front, at most `count`, that may follow a first byte, `low` and `high` being the
range of the first of them. -/
def following (low high : Nat) : Nat → List Nat → List Nat
  | count + 1, byte :: rest =>
    if low ≤ byte ∧ byte ≤ high then byte :: following 0x80 0xBF count rest else []
  | _, _ => []

/-- Reads the standard form.  A beginning of a character that breaks off is one malformed unit. -/
def standardReader : Reader :=
  asciiOr fun bytes =>
    match bytes with
    | first :: rest =>
      match followers? first with
      | none => .malformed 1
      | some (count, low, high, bits) =>
        let bytes := following low high count rest
        if bytes.length < count then .malformed (1 + bytes.length)
        else
          .single (Char.ofNat (bytes.foldl (fun value byte => value * 64 + byte % 64) bits))
            (1 + count)
    | [] => .malformed 1

/-- The standard form. -/
def standard : Charset := ofReader standardReader

/-- The mark at the beginning of a text in the standard form. -/
def standardMark : List Nat := [0xEF, 0xBB, 0xBF]

/-- The standard form, a mark at its beginning being left out, also if it breaks off. -/
def signed : Charset := fun bytes =>
  if bytes.length < 3 && bytes.isPrefixOf standardMark then .ok []
  else if standardMark.isPrefixOf bytes then standard (bytes.drop 3)
  else standard bytes

/-! ## Numbers of bytes -/

/-- The order of the bytes of a number. -/
inductive ByteOrder where
  | littleEndian
  | bigEndian
deriving DecidableEq, Repr

namespace ByteOrder

/-- Bytes with the highest one first. -/
def arrange (order : ByteOrder) (bytes : List Nat) : List Nat :=
  match order with
  | littleEndian => bytes.reverse
  | bigEndian => bytes

/-- The number that bytes write. -/
def value (order : ByteOrder) (bytes : List Nat) : Nat :=
  (order.arrange bytes).foldl (fun value byte => value * 256 + byte) 0

end ByteOrder

/-- Reads units of two bytes, some characters being pairs of them. -/
def twoByteReader (order : ByteOrder) : Reader := fun bytes =>
  let unit := order.value (bytes.take 2)
  let following := order.value ((bytes.drop 2).take 2)
  if bytes.length < 2 then .malformed 1
  else if !isHalf unit then .single (Char.ofNat unit) 2
  else if isFirstHalf unit && bytes.length < 4 then .malformed bytes.length
  else if isFirstHalf unit && isSecondHalf following then
    .single (joinHalves unit following) 4
  else .malformed 2

/-- Reads units of four bytes. -/
def fourByteReader (order : ByteOrder) : Reader := fun bytes =>
  let unit := order.value (bytes.take 4)
  if bytes.length < 4 then .malformed bytes.length
  else if unit ≤ 0x10FFFF && !isHalf unit then .single (Char.ofNat unit) 4
  else .malformed 4

/-- Reads units of two or of four bytes. -/
def unitReader (size : Nat) (order : ByteOrder) : Reader :=
  if size = 2 then twoByteReader order else fourByteReader order

/-- The mark that tells an order at the beginning of units of some bytes. -/
def markOf (size : Nat) (order : ByteOrder) : List Nat :=
  order.arrange (List.replicate (size - 2) 0 ++ [0xFE, 0xFF])

/-- Units of some bytes whose order a mark at the beginning tells, and that are read by `unmarked`
without one.  What is too short for a mark is one malformed unit. -/
def markedOr (unmarked : Charset) (size : Nat) : Charset := fun bytes =>
  if bytes.length < size then .ok (readAll (fun bytes => .malformed bytes.length) bytes)
  else
    match [ByteOrder.littleEndian, .bigEndian].find? fun order =>
        (markOf size order).isPrefixOf bytes with
    | some order => ofReader (unitReader size order) (bytes.drop size)
    | none => unmarked bytes

/-- Units of some bytes whose order a mark at the beginning has to tell. -/
def marked (size : Nat) : Charset := markedOr (fun _ => .error .unmarked) size

end ResourceGraph.Text.Charset
