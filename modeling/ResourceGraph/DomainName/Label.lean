import ResourceGraph.DomainName.Characters
import ResourceGraph.Text.Composition

/-!
# Labels

A domain name consists of labels.  A label is written in composed form, of characters that are
admitted everywhere or, a few of them, next to certain others.  If characters of it are written from
right to left, the directions of all its characters have to fit together.
-/

namespace ResourceGraph

/-- Why a domain name is refused. -/
inductive DomainFault where
  /-- A label is empty, too long, not composed, with a hyphen out of place or with a mark in front,
  or it is written in ASCII in a malformed way. -/
  | malformed
  /-- A character is not admitted. -/
  | character
  /-- A character is not admitted where it stands. -/
  | context
  /-- The directions of the characters do not fit together. -/
  | direction
deriving DecidableEq, Repr

namespace DomainName

/-! ## Direction -/

/-- The direction of a character. -/
inductive Direction where
  | leftToRight
  | rightToLeft
  | arabicNumber
  | europeanNumber
  | attached
  | neutral
deriving DecidableEq, Repr

namespace Direction

/-- The direction of a character, none if it is unknown. -/
def of? (c : Char) : Option Direction :=
  if Text.belongs undirectedCharacters c then none
  else if Text.belongs rightToLeftCharacters c then some rightToLeft
  else if Text.belongs arabicNumbers c then some arabicNumber
  else if Text.belongs europeanNumbers c then some europeanNumber
  else if Text.belongs attachedCharacters c then some attached
  else if Text.belongs neutralCharacters c then some neutral
  else some leftToRight

/-- Whether a character of a direction puts its label under the rule of directions. -/
def isMarked (direction : Direction) : Bool :=
  direction == rightToLeft || direction == arabicNumber

/-- Whether directions end in one of `ends`, apart from attached marks. -/
def endIn (directions ends : List Direction) : Bool :=
  match (directions.reverse.dropWhile (· == attached)).head? with
  | some last => ends.contains last
  | none => false

/-- Whether the directions of a label that has marked ones fit together. -/
def fit (directions : List Direction) : Bool :=
  match directions.head? with
  | some rightToLeft =>
    !directions.contains leftToRight &&
      !(directions.contains arabicNumber && directions.contains europeanNumber) &&
      endIn directions [rightToLeft, arabicNumber, europeanNumber]
  | some leftToRight =>
    !directions.any isMarked && endIn directions [leftToRight, europeanNumber]
  | _ => false

end Direction

/-- Whether the directions of some characters are known and fit together. -/
def haveDirections (label : List Char) : Bool :=
  match label.mapM Direction.of? with
  | none => false
  | some directions => !directions.any Direction.isMarked || Direction.fit directions

/-! ## Context -/

/-- The class of the marks that make a letter lose its vowel. -/
def silencingClass : Nat := 9

/-- Whether letters join across a character, `before` being what stands in front of it, last
character first, and `after` what stands behind it. -/
def joinAcross (before after : List Char) : Bool :=
  let reaches (joiners : List (List Nat)) (side : List Char) : Bool :=
    match (side.dropWhile (Text.belongs transparentCharacters)).head? with
    | some c => joiners.any fun boundaries => Text.belongs boundaries c
    | none => false
  reaches [leftJoiners, dualJoiners] before && reaches [rightJoiners, dualJoiners] after

/-- Boundaries of the Tangut characters, which are only numbered. -/
def numberedCharacters : List Nat := [0x17000, 0x187F8, 0x18D00, 0x18D09]

/-- Whether a character has a name: it is known, and it is not only numbered. -/
def isNamed (c : Char) : Bool :=
  !Text.belongs undirectedCharacters c && !Text.belongs numberedCharacters c

/-- Checks a joiner or non-joiner, `before` being what stands in front of it, last character first,
and `after` what stands behind it. -/
def checkJoiner (before after : List Char) (joins : Bool) : Except DomainFault Unit :=
  match before.head? with
  | some c =>
    if Text.markClass c == silencingClass then .ok ()
    else if Text.markClass c == 0 && !isNamed c then .error .malformed
    else if !joins && joinAcross before after then .ok ()
    else .error .context
  | none => .error .context

/-- Whether a character may stand where it does, `before` being what stands in front of it, last
character first, and `after` what stands behind it; none if it may not stand anywhere. -/
def contextAllows? (before : List Char) (c : Char) (after : List Char) : Option Bool :=
  let isAmong (first last : Nat) (other : Char) : Bool := first ≤ other.toNat && other.toNat ≤ last
  let others := before ++ after
  if c = '\u00B7' then some (before.head? == some 'l' && after.head? == some 'l')
  else if c = '\u0375' then some (after.head?.any (Text.belongs greekCharacters))
  else if c = '\u05F3' || c = '\u05F4' then some (before.head?.any (Text.belongs hebrewCharacters))
  else if c = '\u30FB' then some (others.any (Text.belongs japaneseCharacters))
  else if isAmong 0x660 0x669 c then some (!others.any (isAmong 0x6F0 0x6F9))
  else if isAmong 0x6F0 0x6F9 c then some (!others.any (isAmong 0x660 0x669))
  else none

/-- Checks the characters of a label, `before` being those already checked, last character first. -/
def checkCharacters (before : List Char) : List Char → Except DomainFault Unit
  | [] => .ok ()
  | c :: after => do
    if Text.belongs validCharacters c then pure ()
    else if c = '\u200C' || c = '\u200D' then checkJoiner before after (c == '\u200D')
    else
      match contextAllows? before c after with
      | some true => pure ()
      | some false => throw .context
      | none => throw .character
    checkCharacters (c :: before) after

/-! ## The whole label -/

/-- The number of characters that a domain name may have, a point at its end included. -/
def lengthLimit : Nat := 254

/-- The number of characters that a label may have. -/
def labelLengthLimit : Nat := 63

/-- Whether the hyphens of a label are where they may be. -/
def hyphensFit (label : List Char) : Bool :=
  (label.drop 2).take 2 != ['-', '-'] && label.head? != some '-' && label.getLast? != some '-'

/-- Checks a label. -/
def checkLabel (label : List Char) : Except DomainFault Unit := do
  let isMalformed := label.isEmpty || lengthLimit < label.length || !Text.isComposed label ||
    !hyphensFit label || label.head?.any (Text.belongs combiningMarks)
  if isMalformed then throw .malformed
  checkCharacters [] label
  if !haveDirections label then throw .direction

end DomainName

end ResourceGraph
