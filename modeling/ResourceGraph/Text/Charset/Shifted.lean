import ResourceGraph.Text.Base64
import ResourceGraph.Text.Charset.Units

/-!
# Shifted bytes

A charset for channels that carry ASCII alone: other characters stand in shifts.  A shift begins
with a plus sign, goes on with digits of base 64, which write units of two bytes, and ends with the
first byte that is no such digit; a minus sign does nothing else.  A plus sign with a minus sign
behind it stands for itself.
-/

namespace ResourceGraph.Text.Charset

/-- What a shift has read without writing it yet. -/
structure Shift where
  /-- The bits that do not fill a unit, as a number. -/
  value : Nat
  /-- How many bits these are. -/
  bits : Nat
  /-- The first half of a pair of units. -/
  half : Option Nat
deriving DecidableEq, Repr

namespace Shift

/-- The beginning of a shift. -/
def start : Shift := ⟨0, 0, none⟩

/-- Whether a shift may end: nothing is left of it but a few bits, which are zero. -/
def isSettled (shift : Shift) : Bool := shift.bits < 6 && shift.value == 0

/-- The characters that a unit writes, and the first half that waits for another unit. -/
def ofUnit (half : Option Nat) (unit : Nat) : List Char × Option Nat :=
  match half with
  | some first =>
    if isSecondHalf unit then ([joinHalves first unit], none)
    else if isFirstHalf unit then ([replacement], some unit)
    else ([replacement, Char.ofNat unit], none)
  | none => if isFirstHalf unit then ([], some unit) else ([characterOf unit], none)

/-- Goes on with a digit. -/
def push (shift : Shift) (digit : Nat) : List Char × Shift :=
  let value := shift.value * 64 + digit
  let bits := shift.bits + 6
  if bits < 16 then ([], { shift with value, bits })
  else
    let (characters, half) := ofUnit shift.half (value >>> (bits - 16))
    (characters, ⟨value % (1 <<< (bits - 16)), bits - 16, half⟩)

end Shift

/-- Where the reading of shifted bytes stands. -/
inductive ShiftState where
  | plain
  /-- Behind the plus sign that begins a shift. -/
  | opened
  | shifted (shift : Shift)
deriving DecidableEq, Repr

namespace ShiftState

/-- Reads a byte outside shifts. -/
def stepPlain (byte : Nat) : List Char × ShiftState :=
  if byte = 0x2B then ([], opened)
  else ([if byte < 128 then Char.ofNat byte else replacement], plain)

/-- Reads a byte. -/
def step (state : ShiftState) (byte : Nat) : List Char × ShiftState :=
  match state, Base64.digit? byte with
  | plain, _ => stepPlain byte
  | opened, some digit => ([], shifted (Shift.start.push digit).2)
  | opened, none => ([if byte = 0x2D then '+' else replacement], plain)
  | shifted shift, some digit =>
    let (characters, next) := shift.push digit
    (characters, shifted next)
  | shifted shift, none =>
    if !shift.isSettled then ([replacement], plain)
    else if byte = 0x2D then ([], plain)
    else stepPlain byte

/-- The characters that the end of the bytes gives. -/
def finish : ShiftState → List Char
  | shifted shift => if shift.isSettled && shift.half.isNone then [] else [replacement]
  | _ => []

end ShiftState

/-- The characters that shifted bytes write in some state. -/
def readShifted (state : ShiftState) : List Nat → List Char
  | [] => state.finish
  | byte :: rest =>
    let (characters, next) := state.step byte
    characters ++ readShifted next rest

/-- ASCII with shifts. -/
def shifted : Charset := fun bytes => .ok (readShifted .plain bytes)

end ResourceGraph.Text.Charset
