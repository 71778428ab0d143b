import ResourceGraph.Packing.Fault

/-!
# Unpackers

An unpacker goes through the bits of packed bytes, the lowest bit of each byte first, and writes
bytes.  It stops where the bits end or where they are faulty; what it has written stays.
-/

namespace ResourceGraph.Packing

/-- What an unpacker works on. -/
structure Progress where
  /-- The bits that are left. -/
  bits : List Bool
  /-- The bytes that have been written. -/
  output : Array Nat

/-- Why an unpacker stops before it is done. -/
inductive Stop where
  | ended
  | fault (fault : Fault)

/-- A step of unpacking.  A stop leaves behind what has been written before. -/
abbrev Unpacker := ExceptT Stop (StateM Progress)

namespace Unpacker

/-- The bits of a byte. -/
def bitsOfByte (byte : Nat) : List Bool := (List.range 8).map byte.testBit

/-- Takes the next bit. -/
def bit : Unpacker Bool := do
  match (← get).bits with
  | [] => throw .ended
  | next :: rest =>
    modify fun progress => { progress with bits := rest }
    return next

/-- Takes a number of so many bits, the lowest one first. -/
def number : Nat → Unpacker Nat
  | 0 => return 0
  | count + 1 => do
    let low ← bit
    let high ← number count
    return low.toNat + 2 * high

/-- Leaves out what is left of a byte that has been begun. -/
def align : Unpacker Unit :=
  modify fun progress => { progress with bits := progress.bits.drop (progress.bits.length % 8) }

/-- Writes a byte. -/
def write (byte : Nat) : Unpacker Unit :=
  modify fun progress => { progress with output := progress.output.push byte }

/-- Refuses the bytes unless a condition holds. -/
def require (condition : Bool) (fault : Fault) : Unpacker Unit :=
  if condition then return () else throw (.fault fault)

/-- Repeats a step so many times. -/
def repeated (step : Unpacker Unit) : Nat → Unpacker Unit
  | 0 => return ()
  | count + 1 => do
    step
    repeated step count

/-- What an unpacker writes, unless the bytes are faulty. -/
def unpack (unpacker : Unpacker Unit) (bytes : List Nat) : Except Fault (List Nat) :=
  match unpacker.run { bits := bytes.flatMap bitsOfByte, output := #[] } with
  | (.error (.fault fault), _) => .error fault
  | (_, progress) => .ok progress.output.toList

end Unpacker

end ResourceGraph.Packing
