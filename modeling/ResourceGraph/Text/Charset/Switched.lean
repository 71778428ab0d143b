import ResourceGraph.Text.Charset.Chinese
import ResourceGraph.Text.Charset.Japanese
import ResourceGraph.Text.Charset.Korean

/-!
# Switched charsets

A charset for channels that carry ASCII alone: sequences of bytes switch to sets of characters of
other countries and back.  In most of these charsets such a sequence begins with the escape byte and
tells the set by its last byte; shifts choose between two sets.
-/

namespace ResourceGraph.Text.Charset

/-! ## Sets -/

/-- A set of characters that can be switched to. -/
structure CodedSet where
  /-- The last byte of the sequence that switches to the set, 128 being added for sets with two
  bytes to a character. -/
  mark : Nat
  /-- The number of bytes to a character. -/
  width : Nat
  /-- What the bytes of a character write. -/
  read : List Nat → Option (List Char)

namespace CodedSet

/-- A set with one byte to a character. -/
def narrow (final : Char) (read : Nat → Option Char) : CodedSet where
  mark := final.toNat
  width := 1
  read bytes := (bytes.head?.bind read).map List.singleton

/-- A set with two bytes to a character. -/
def wide (final : Char) (read : Nat → Nat → Option (List Char)) : CodedSet where
  mark := final.toNat + 128
  width := 2
  read
    | [first, second] => read first second
    | _ => none

/-- A set whose characters stand in a grid. -/
def grid (final : Char) (cells : Array Char) : CodedSet :=
  wide final fun first second =>
    ((lowGridIndex? first second).bind (cell? cells)).map List.singleton

/-- The mark of ASCII. -/
def asciiMark : Nat := 'B'.toNat

/-- The mark of the western European letters. -/
def westernMark : Nat := 'A'.toNat

/-- The mark of the Greek letters. -/
def greekMark : Nat := 'F'.toNat

/-- The sets of the Japanese grid in both editions. -/
def japaneseGrids : List CodedSet := [grid 'B' japanese, grid '@' japanese]

/-- The supplementary Japanese grid. -/
def supplement : CodedSet :=
  wide 'D' fun first second =>
    let index := index? 94 (offset? 0x22 0x7E first) (offset? 0x21 0x7E second)
    (index.bind (cell? japaneseSupplement)).map List.singleton

/-- The first Japanese plane. -/
def firstPlane (final : Char) (isEarly : Bool) : CodedSet :=
  wide final fun first second => do
    let index ← lowGridIndex? first second
    if index = 111 then return ['~'] else firstPlane? isEarly index

/-- The second Japanese plane. -/
def secondPlane : CodedSet :=
  wide 'P' fun first second =>
    ((lowGridIndex? first second).bind (secondPlane? false)).map List.singleton

/-- The letters of narrow Japanese. -/
def roman : CodedSet := narrow 'J' romanLetter?

/-- The Japanese letters of narrow Japanese. -/
def kana : CodedSet := narrow 'I' fun byte => narrowLetter? (byte + 128)

/-- The Korean grid. -/
def koreanGrid : CodedSet := grid 'C' korean

/-- The grid of simplified characters. -/
def chineseGrid : CodedSet := grid 'A' chinese

/-- The sets with letters of other countries, whose characters are written in another way. -/
def letters : List CodedSet := [narrow 'A' fun _ => none, narrow 'F' fun _ => none]

end CodedSet

/-! ## Sequences -/

/-- Which sets a charset switches to, and how. -/
structure Switching where
  sets : List CodedSet
  /-- Whether bytes shift between the first set and the second one. -/
  hasShifts : Bool
  /-- Whether there is a third set, for single characters. -/
  hasThird : Bool

/-- Where the reading of a switched charset stands. -/
structure SwitchState where
  /-- The marks of the three sets that are switched to. -/
  first : Nat
  second : Nat
  third : Nat
  /-- Whether characters are taken from the second set. -/
  isShifted : Bool
  /-- Whether an unknown sequence has begun, whose bytes stand for themselves. -/
  isPassing : Bool

namespace SwitchState

/-- The state at the beginning. -/
def start : SwitchState :=
  ⟨CodedSet.asciiMark, CodedSet.asciiMark, CodedSet.asciiMark, false, false⟩

end SwitchState

/-- Where a sequence ends. -/
inductive SequenceEnd where
  /-- The bytes end first. -/
  | missing
  /-- The sequence is too long. -/
  | unbounded
  | at (length : Nat)

namespace Switching

/-- The byte that begins a sequence. -/
def escape : Nat := 0x1B

/-- The number of bytes at which a sequence is too long. -/
def sequenceLimit : Nat := 16

/-- How many bytes may wait for others at the end. -/
def waitingLimit : Nat := 8

/-- Whether a byte ends a sequence. -/
def isFinal (byte : Nat) : Bool := 0x40 ≤ byte && byte ≤ 0x5A

/-- Looks for the end of a sequence from a position on.  Where the Japanese sets are used, a
sequence about their revision may stand in front of another one. -/
def endFrom (switching : Switching) (bytes : List Nat) (position : Nat) : SequenceEnd :=
  if _short : position < sequenceLimit then
    match bytes[position]? with
    | none => .missing
    | some byte =>
      if isFinal byte then .at (position + 1)
      else if !switching.hasShifts && byte = 0x26 && bytes[position + 1]? = some 0x40 then
        switching.endFrom bytes (position + 3)
      else switching.endFrom bytes (position + 1)
  else .unbounded
termination_by sequenceLimit - position

/-- Whether a set can be switched to. -/
def knows (switching : Switching) (mark : Nat) : Bool :=
  mark == CodedSet.asciiMark || switching.sets.any fun set => set.mark == mark

/-- The state after a sequence, none if the sequence has no meaning. -/
def designate? (switching : Switching) (state : SwitchState) (sequence : List Nat) :
    Option SwitchState :=
  let toFirst (mark : Nat) :=
    if switching.knows mark then some { state with first := mark } else none
  let toSecond (mark : Nat) :=
    if switching.knows mark then some { state with second := mark } else none
  match sequence with
  | [_, 0x24, final] => toFirst (final + 128)
  | [_, 0x28, final] => toFirst final
  | [_, 0x29, final] => toSecond final
  | [_, 0x2E, final] =>
    if switching.hasThird && switching.knows final then some { state with third := final } else none
  | [_, 0x24, 0x28, final] => toFirst (final + 128)
  | [_, 0x24, 0x29, final] => toSecond (final + 128)
  | [_, _, _, 0x1B, 0x24, 0x42] => if switching.hasShifts then none else toFirst (0x42 + 128)
  | _ => none

/-- The reading of bytes that wait for others at the end. -/
def waiting (state : SwitchState) (bytes : List Nat) :
    Except CharsetFault (Reading × SwitchState) :=
  if bytes.length ≤ waitingLimit then .ok (.malformed bytes.length, state)
  else .error .unfinished

/-- Reads a sequence that switches to a set. -/
def readSequence (switching : Switching) : StateReader SwitchState := fun state bytes =>
  match switching.endFrom bytes 1 with
  | .missing => waiting state bytes
  | .unbounded => .ok (.malformed 1, state)
  | .at length =>
    match switching.designate? state (bytes.take length) with
    | some next => .ok (⟨[], length⟩, next)
    | none => .ok (.malformed length, state)

/-- A Greek letter; these bytes are the high ones. -/
def greekLetter? (byte : Nat) : Option Char :=
  if byte < 0xA0 then some (Char.ofNat byte)
  else if byte < 0xC0 && (0x288F3BC9 : Nat).testBit (byte - 0xA0) then some (Char.ofNat byte)
  else if 0xB4 ≤ byte && byte ≤ 0xFE &&
      (0xD4 ≤ byte || (0xBFFFFD77 : Nat).testBit (byte - 0xB4)) then
    some (Char.ofNat (0x2D0 + byte))
  else if byte = 0xA1 then some '‘'
  else if byte = 0xA2 then some '’'
  else if byte = 0xAF then some '―'
  else none

/-- What a byte writes as a character of the third set. -/
def thirdSetCharacter (mark byte : Nat) : Except CharsetFault (Option Char) :=
  if mark = CodedSet.westernMark then
    .ok (if byte < 128 then some (Char.ofNat (byte + 128)) else none)
  else if mark = CodedSet.greekMark then .ok (greekLetter? (byte ^^^ 0x80))
  else if mark = CodedSet.asciiMark then
    .ok (if byte < 128 then some (Char.ofNat byte) else none)
  else .error .unusable

/-- Reads what stands behind an escape byte and that byte. -/
def readEscape (switching : Switching) : StateReader SwitchState := fun state bytes =>
  match bytes with
  | _ :: second :: rest =>
    if [0x28, 0x29, 0x24, 0x2E, 0x26].contains second then switching.readSequence state bytes
    else if switching.hasThird && second = 0x4E then
      match rest with
      | third :: _ => do
        match ← thirdSetCharacter state.third third with
        | some c => return (.single c 3, state)
        | none => return (.malformed 3, state)
      | [] => waiting state bytes
    else .ok (.single (Char.ofNat escape) 1, { state with isPassing := true })
  | _ => waiting state bytes

/-- Reads a character of a set. -/
def readCharacter (switching : Switching) : StateReader SwitchState := fun state bytes =>
  let mark := if state.isShifted then state.second else state.first
  match switching.sets.find? fun set => set.mark == mark with
  | none => .ok (.single (Char.ofNat (bytes.headD 0)) 1, state)
  | some set =>
    if bytes.length < set.width then waiting state bytes
    else
      match set.read (bytes.take set.width) with
      | some characters => .ok (⟨characters, set.width⟩, state)
      | none => .ok (.malformed set.width, state)

/-- Reads the bytes of a switched charset.  The end of a line ends a shift. -/
def reader (switching : Switching) : StateReader SwitchState := fun state bytes =>
  let byte := bytes.headD 0
  if state.isPassing then
    .ok (.single (Char.ofNat byte) 1, { state with isPassing := !isFinal byte })
  else if byte = escape then switching.readEscape state bytes
  else if switching.hasShifts && (byte = 0x0E || byte = 0x0F) then
    .ok (⟨[], 1⟩, { state with isShifted := byte == 0x0E })
  else if byte = 0x0A then .ok (.single '\n' 1, { state with isShifted := false })
  else if byte < 0x20 then .ok (.single (Char.ofNat byte) 1, state)
  else if 0x80 ≤ byte then .ok (.malformed 1, state)
  else switching.readCharacter state bytes

end Switching

/-- The charset that switches to some sets by sequences. -/
def switched (sets : List CodedSet) : Charset :=
  ofStates (Switching.reader ⟨sets, false, false⟩) .start

/-- The charset that switches to many sets, a third one among them. -/
def widelySwitched : Charset :=
  let sets := CodedSet.japaneseGrids ++
    [.supplement, .koreanGrid, .chineseGrid, .roman] ++ CodedSet.letters
  ofStates (Switching.reader ⟨sets, false, true⟩) .start

/-- The charset that shifts between ASCII and Korean. -/
def shiftedKorean : Charset :=
  ofStates (Switching.reader ⟨[.koreanGrid], true, false⟩) .start

/-! ## Tildes -/

/-- Reads bytes in which a tilde with a brace switches to simplified characters and back, which
`inGrid` tells.  A tilde with a tilde behind it stands for itself, one before the end of a line for
nothing. -/
def tildeReader : StateReader Bool := fun inGrid bytes =>
  match bytes with
  | [] => .ok (.malformed 1, inGrid)
  | 0x7E :: rest =>
    match inGrid, rest.head? with
    | _, none => .ok (.malformed 1, inGrid)
    | false, some 0x7E => .ok (.single '~' 2, inGrid)
    | false, some 0x7B => .ok (⟨[], 2⟩, true)
    | false, some 0x0A => .ok (⟨[], 2⟩, inGrid)
    | true, some 0x7D => .ok (⟨[], 2⟩, false)
    | _, _ => .ok (.malformed 1, inGrid)
  | byte :: rest =>
    if 0x80 ≤ byte then .ok (.malformed 1, inGrid)
    else if !inGrid then .ok (.single (Char.ofNat byte) 1, inGrid)
    else
      match rest.head?.bind fun second => (lowGridIndex? byte second).bind (cell? chinese) with
      | some c => .ok (.single c 2, inGrid)
      | none => .ok (.malformed 1, inGrid)

/-- The charset that switches to simplified characters by tildes. -/
def tildeChinese : Charset := ofStates tildeReader false

end ResourceGraph.Text.Charset
