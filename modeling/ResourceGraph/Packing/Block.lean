import ResourceGraph.Packing.Code

/-!
# Packed blocks

Packed bytes consist of blocks.  A block holds bytes as they are or symbols of two codes: a literal
stands for itself, a length and a distance stand for bytes that have been written before.  The codes
are known or stand in front of the block, packed themselves.
-/

namespace ResourceGraph.Packing

/-- The codes of a block. -/
structure BlockCodes where
  literals : Code
  distances : Code

namespace Block

open Unpacker

/-! ## Symbols -/

/-- The symbol that ends a block. -/
def endSymbol : Nat := 256

/-- The least length of each length symbol, with the number of bits that are added to it. -/
def lengths : List (Nat × Nat) := [
  (3, 0), (4, 0), (5, 0), (6, 0), (7, 0), (8, 0), (9, 0), (10, 0), (11, 1), (13, 1), (15, 1),
  (17, 1), (19, 2), (23, 2), (27, 2), (31, 2), (35, 3), (43, 3), (51, 3), (59, 3), (67, 4), (83, 4),
  (99, 4), (115, 4), (131, 5), (163, 5), (195, 5), (227, 5), (258, 0)]

/-- The least distance of each distance symbol, with the number of bits that are added to it. -/
def distances : List (Nat × Nat) := [
  (1, 0), (2, 0), (3, 0), (4, 0), (5, 1), (7, 1), (9, 2), (13, 2), (17, 3), (25, 3), (33, 4),
  (49, 4), (65, 5), (97, 5), (129, 6), (193, 6), (257, 7), (385, 7), (513, 8), (769, 8), (1025, 9),
  (1537, 9), (2049, 10), (3073, 10), (4097, 11), (6145, 11), (8193, 12), (12289, 12), (16385, 13),
  (24577, 13)]

/-- Takes the bits that are added to an entry of a table. -/
def numberOf (table : List (Nat × Nat)) (index : Nat) (fault : Fault) : Unpacker Nat := do
  match table[index]? with
  | some (least, bits) => return least + (← number bits)
  | none => throw (.fault fault)

/-- Takes the distance behind a length. -/
def distance (codes : BlockCodes) : Unpacker Nat := do
  match ← codes.distances.read with
  | some symbol => numberOf distances symbol .distance
  | none => throw (.fault .distance)

/-- Writes the byte that stands some distance back. -/
def writeAgain (distance : Nat) : Unpacker Unit := do
  let output := (← get).output
  write (output.getD (output.size - distance) 0)

/-- Takes symbols up to the one that ends the block; a block has at most `limit` symbols. -/
def symbols (codes : BlockCodes) : Nat → Unpacker Unit
  | 0 => throw .ended
  | limit + 1 => do
    match ← codes.literals.read with
    | none => throw (.fault .literal)
    | some symbol =>
      if symbol = endSymbol then return ()
      else if symbol < endSymbol then write symbol
      else
        let length ← numberOf lengths (symbol - endSymbol - 1) .literal
        let distance ← distance codes
        require (distance ≤ (← get).output.size) .farDistance
        repeated (writeAgain distance) length
      symbols codes limit

/-! ## Codes -/

/-- The codes that are known. -/
def knownCodes : BlockCodes where
  literals := .ofLengths <|
    List.replicate 144 8 ++ List.replicate 112 9 ++ List.replicate 24 7 ++ List.replicate 8 8
  distances := .ofLengths (List.replicate 32 5)

/-- The order in which the lengths for the code of lengths are given. -/
def lengthOrder : List Nat := [16, 17, 18, 0, 8, 7, 9, 6, 10, 5, 11, 4, 12, 3, 13, 2, 14, 1, 15]

/-- Takes the lengths for the code of lengths, of which so many are given. -/
def lengthLengths (count : Nat) : Unpacker (List Nat) := do
  let given ← (lengthOrder.take count).mapM fun symbol => return (symbol, ← number 3)
  return (List.range 19).map fun symbol => (given.lookup symbol).getD 0

/-- The code of lengths.  Without any symbol each bit writes the length zero. -/
def codeOfLengths (given : List Nat) : Code :=
  if given.all (· == 0) then .branch (.symbol 0) (.symbol 0) else .ofLengths given

/-- Takes the row of lengths that a symbol writes, `last` being the length before it. -/
def lengthRow (last : Option Nat) (symbol : Nat) : Unpacker (List Nat) := do
  if symbol < 16 then return [symbol]
  else if symbol = 16 then
    let count := 3 + (← number 2)
    match last with
    | some length => return List.replicate count length
    | none => throw (.fault .lengthRepeat)
  else if symbol = 17 then return List.replicate (3 + (← number 3)) 0
  else return List.replicate (11 + (← number 7)) 0

/-- Takes lengths, `known` being those before, the last one first, until there are `total`; at most
`limit` symbols write them. -/
def codeLengths (code : Code) (total : Nat) (known : List Nat) : Nat → Unpacker (List Nat)
  | 0 => return known.reverse
  | limit + 1 => do
    if total ≤ known.length then return known.reverse
    match ← code.read with
    | none => throw (.fault .lengthCode)
    | some symbol =>
      let row ← lengthRow known.head? symbol
      require (known.length + row.length ≤ total) .lengthRepeat
      codeLengths code total (row ++ known) limit

/-- Takes the codes in front of a block. -/
def givenCodes : Unpacker BlockCodes := do
  let literalCount := 257 + (← number 5)
  let distanceCount := 1 + (← number 5)
  let lengthCount := 4 + (← number 4)
  require (literalCount ≤ 286 && distanceCount ≤ 30) .symbolCount
  let given ← lengthLengths lengthCount
  require (Code.areLengths false given) .lengthCode
  let total := literalCount + distanceCount
  let lengths ← codeLengths (codeOfLengths given) total [] total
  let literals := lengths.take literalCount
  let distances := lengths.drop literalCount
  require (literals[endSymbol]? != some 0) .missingEnd
  require (Code.areLengths true literals) .literalCode
  require (Code.areLengths true distances) .distanceCode
  return { literals := .ofLengths literals, distances := .ofLengths distances }

/-! ## Blocks -/

/-- Takes bytes that are stored as they are. -/
def stored : Unpacker Unit := do
  align
  let length ← number 16
  let inverse ← number 16
  require (length + inverse == 0xFFFF) .storedLength
  repeated (do write (← number 8)) length

/-- Takes a block behind the bit that tells whether it is the last one. -/
def block : Unpacker Unit := do
  match ← number 2 with
  | 0 => stored
  | 1 => symbols knownCodes (← get).bits.length
  | 2 =>
    let codes ← givenCodes
    symbols codes (← get).bits.length
  | _ => throw (.fault .blockKind)

/-- Takes blocks up to the last one, of which there are at most `limit`. -/
def blocksWithin : Nat → Unpacker Unit
  | 0 => throw .ended
  | limit + 1 => do
    let isLast ← bit
    block
    if isLast then align else blocksWithin limit

/-- Takes blocks up to the last one and what is left of its last byte. -/
def blocks : Unpacker Unit := do blocksWithin ((← get).bits.length + 1)

end Block

end ResourceGraph.Packing
