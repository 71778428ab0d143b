import ResourceGraph.Packing.Block

/-!
# Frames of packed bytes

Packed blocks stand in a frame: a header in front and sums behind, by which errors are found.  There
are two kinds of frames, and some servers leave the short one out.
-/

namespace ResourceGraph.Packing

open Unpacker

/-! ## Sums -/

/-- The sum of bytes behind a short frame: the sum of the bytes and the sum of all such sums. -/
def pairSum (bytes : Array Nat) : Nat :=
  let (first, second) := bytes.foldl (fun (first, second) byte =>
    let first := (first + byte) % 65521
    (first, (second + first) % 65521)) (1, 0)
  second * 65536 + first

/-- One bit of the division by which the sum of a long frame is found. -/
def divisionStep (remainder : Nat) : Nat :=
  if remainder % 2 = 1 then (remainder / 2) ^^^ 0xEDB88320 else remainder / 2

/-- The remainder after one more byte. -/
def divide (remainder byte : Nat) : Nat :=
  (List.range 8).foldl (fun value _ => divisionStep value) (remainder ^^^ byte)

/-- The sum of bytes in a long frame: the remainder of a division of polynomials. -/
def remainderSum (bytes : List Nat) : Nat := (bytes.foldl divide 0xFFFFFFFF) ^^^ 0xFFFFFFFF

/-! ## Frames -/

/-- Takes a number of four bytes, the highest one first. -/
def highFirst : Unpacker Nat := do
  let bytes ← [(), (), (), ()].mapM fun _ => number 8
  return bytes.foldl (fun value byte => value * 256 + byte) 0

/-- Unpacks blocks in a short frame. -/
def shortFrame : Unpacker Unit := do
  let first ← number 8
  let second ← number 8
  require ((first * 256 + second) % 31 == 0) .header
  require (first % 16 == 8) .method
  require (first / 16 ≤ 7) .window
  if second.testBit 5 then
    let _ ← highFirst
    throw (.fault .dictionary)
  Block.blocks
  let expected ← highFirst
  require (expected == pairSum (← get).output) .sum

/-- Passes a text that ends with a zero and has at most so many bytes. -/
def passText : Nat → Unpacker Unit
  | 0 => throw .ended
  | limit + 1 => do
    if (← number 8) != 0 then passText limit

/-- Unpacks blocks in a long frame, which is all of `bytes`. -/
def longFrame (bytes : List Nat) : Unpacker Unit := do
  require ((← number 16) == 0x8B1F) .header
  let method ← number 8
  let flags ← number 8
  require (method == 8) .method
  require (flags < 32) .headerFlags
  let _ ← number 48
  if flags.testBit 2 then
    let length ← number 16
    repeated (discard (number 8)) length
  if flags.testBit 3 then passText bytes.length
  if flags.testBit 4 then passText bytes.length
  if flags.testBit 1 then
    let header := bytes.take (bytes.length - (← get).bits.length / 8)
    require ((← number 16) == remainderSum header % 65536) .headerSum
  Block.blocks
  let output := (← get).output
  require ((← number 32) == remainderSum output.toList) .sum
  require ((← number 32) == output.size % 4294967296) .totalLength

end ResourceGraph.Packing
