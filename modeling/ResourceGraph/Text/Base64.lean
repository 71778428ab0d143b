/-!
# Base 64

Three bytes are written as a group of four digits; the last group may be filled up with equals signs
where there are not enough bytes.
-/

namespace ResourceGraph.Text.Base64

/-- The value of a digit, which is given by its code point. -/
def digit? (point : Nat) : Option Nat :=
  if 0x41 ≤ point && point ≤ 0x5A then some (point - 0x41)
  else if 0x61 ≤ point && point ≤ 0x7A then some (point - 0x61 + 26)
  else if 0x30 ≤ point && point ≤ 0x39 then some (point - 0x30 + 52)
  else if point = 0x2B then some 62
  else if point = 0x2F then some 63
  else none

/-- How far a group of digits has been read. -/
structure Group where
  /-- The number of its digits, less than four. -/
  digits : Nat := 0
  /-- The equals signs behind the digits. -/
  padding : Nat := 0
  /-- The bits that do not fill a byte, as a number. -/
  left : Nat := 0

/-- The group after one more digit, and the byte that the digit completes. -/
def Group.push (group : Group) (digit : Nat) : Option UInt8 × Group :=
  match group.digits with
  | 0 => (none, ⟨1, 0, digit⟩)
  | 1 => (some (group.left * 4 + digit / 16).toUInt8, ⟨2, 0, digit % 16⟩)
  | 2 => (some (group.left * 16 + digit / 4).toUInt8, ⟨3, 0, digit % 4⟩)
  | _ => (some (group.left * 64 + digit).toUInt8, {})

/-- The bytes that characters write after those of a group, none if the last group is too short.  A
group that is filled up after two or three digits ends the text; characters without a meaning are
passed over. -/
def decodeAfter (group : Group) : List Char → Option (List UInt8)
  | [] => if group.digits = 0 then some [] else none
  | c :: rest =>
    if c = '=' then
      if group.digits < 2 then decodeAfter group rest
      else if 4 ≤ group.digits + group.padding + 1 then some []
      else decodeAfter { group with padding := group.padding + 1 } rest
    else
      match digit? c.toNat with
      | none => decodeAfter group rest
      | some digit =>
        let (byte, next) := group.push digit
        (decodeAfter next rest).map (byte.toList ++ ·)

/-- The bytes that ASCII characters write. -/
def decode? (characters : List Char) : Option (List UInt8) :=
  if characters.all (·.val < 128) then decodeAfter {} characters else none

end ResourceGraph.Text.Base64
