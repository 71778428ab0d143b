import ResourceGraph.Value.Basic

/-!
# The order of sets

A set keeps its members in a table whose size is a power of two.  A number has a code that depends
on its value alone, and it lies where the last bits of the code point, or at the first free place
that a fixed search finds from there; the order of the members is that of their places.  The codes
of other scalars differ from run to run, so that a set with such a member has no order of its own:
it keeps that of its declaration.
-/

namespace ResourceGraph.SetOrder

/-- The modulus of the codes, a prime. -/
def modulus : Nat := 0x1FFFFFFFFFFFFFFF

/-- The code of infinity. -/
def infinityCode : Nat := 314159

/-- A code with a sign in 64 bits; that of minus one is taken by minus two. -/
def signed (negative : Bool) (magnitude : Nat) : Nat :=
  if negative && magnitude != 0 then 0x10000000000000000 - max magnitude 2 else magnitude

/-- The code of a floating-point number.  As a power of two the modulus is one less than
`2 ^ 61`, exponents count by their remainder. -/
def floatCode? (number : Binary64) : Option Nat :=
  if number.isNotANumber then none
  else if !number.isFinite then some (signed number.isNegative infinityCode)
  else
    let shift := (number.exponent % 61).toNat
    some (signed number.isNegative (number.significand * Nat.pow 2 shift % modulus))

/-- The code of a number. -/
def code? : Scalar → Option Nat
  | .bool value => some value.toNat
  | .int value => some (signed (value < 0) (value.natAbs % modulus))
  | .float value => floatCode? value
  | _ => none

/-- The places of a table for some members. -/
def size (count : Nat) : Nat := if count < 5 then 8 else Nat.pow 2 (Nat.log2 (2 * count) + 1)

/-- A table, with nothing at its free places. -/
abbrev Slots := List (Option Scalar)

/-- How many places after one are searched before the search goes on elsewhere. -/
def reach : Nat := 9

/-- The first free place from one on, in at most `bound` stretches of the search; `left` is what is
left of the code, whose bits decide where the search goes on. -/
def freePlace (slots : Slots) : Nat → Nat → Nat → Nat
  | 0, place, _ => place
  | bound + 1, place, left =>
    let stretch := List.range' place (if place + reach < slots.length then reach + 1 else 1)
    match stretch.find? fun place => slots[place]? == some none with
    | some place => place
    | none => freePlace slots bound ((place * 5 + 1 + left / 32) % slots.length) (left / 32)

/-- A table with one more member.  After thirteen stretches nothing is left of a code, and then the
search visits every place. -/
def insert (slots : Slots) (member : Scalar × Nat) : Slots :=
  let place := freePlace slots (slots.length + 13) (member.2 % slots.length) member.2
  slots.set place (some member.1)

/-- The members of a set in their order. -/
def arrange (members : List Scalar) : List Scalar :=
  match members.mapM code? with
  | none => members
  | some codes =>
    ((members.zip codes).foldl insert (List.replicate (size members.length) none)).filterMap id

end ResourceGraph.SetOrder
