import ResourceGraph.Packing.Unpacker

/-!
# Prefix codes

A code writes symbols by rows of bits of different lengths, none of which begins another one.  It is
a tree: a bit tells the branch, a symbol stands at the end.  A code is given by the lengths alone,
since shorter rows come before longer ones, and rows of one length follow the order of their
symbols.
-/

namespace ResourceGraph.Packing

/-- A prefix code. -/
inductive Code where
  /-- No symbol begins with the bits that lead here. -/
  | unused
  | symbol (value : Nat)
  | branch (zero one : Code)
deriving Repr

namespace Code

/-- The greatest length of the bits of a symbol. -/
def depthLimit : Nat := 15

/-- Takes the bits of a symbol, none if they are unused. -/
def read : Code → Unpacker (Option Nat)
  | unused => return none
  | symbol value => return some value
  | branch zero one => do
    if ← Unpacker.bit then one.read else zero.read

/-- The tree below some bits, of which there are `depth`, and the symbols that stand behind it; the
symbols are given with their lengths, in the order of the code. -/
def grow (depth : Nat) : Nat → List (Nat × Nat) → Code × List (Nat × Nat)
  | _, [] => (unused, [])
  | 0, symbols => (unused, symbols)
  | levels + 1, (length, value) :: rest =>
    if length ≤ depth then (symbol value, rest)
    else
      let (zero, behindZero) := grow (depth + 1) levels ((length, value) :: rest)
      let (one, behindOne) := grow (depth + 1) levels behindZero
      (branch zero one, behindOne)

/-- The symbols that have a length, with that length, in the order of the code. -/
def ordered (lengths : List Nat) : List (Nat × Nat) :=
  let used := lengths.zipIdx.filter fun entry => entry.1 != 0
  used.mergeSort fun first second => first.1 ≤ second.1

/-- How much of all rows of bits the rows of some lengths take, as a number of rows of the greatest
length. -/
def share (lengths : List Nat) : Nat :=
  let rows (length : Nat) : Nat := if length = 0 then 0 else 1 <<< (depthLimit - length)
  lengths.foldl (fun total length => total + rows length) 0

/-- Whether lengths are those of a code, all rows of bits being used.  There may be no symbol at
all, and, if `allowsSingle`, a single one with one bit. -/
def areLengths (allowsSingle : Bool) (lengths : List Nat) : Bool :=
  let used := lengths.filter (· != 0)
  used.isEmpty || (allowsSingle && used == [1]) || share lengths == 1 <<< depthLimit

/-- The code with some lengths. -/
def ofLengths (lengths : List Nat) : Code :=
  match ordered lengths with
  | [] => branch unused unused
  | symbols => (grow 0 (depthLimit + 1) symbols).1

end Code

end ResourceGraph.Packing
