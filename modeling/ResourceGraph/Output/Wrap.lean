import ResourceGraph.Output.Pattern
import ResourceGraph.Text.Blank
import ResourceGraph.Text.Cluster

/-!
# Wrapping

A message for a terminal is broken into lines of a limited number of columns.  A line ends before
the first word that does not fit; a word wider than a whole line is cut between clusters.  Blank
characters at the end of a line are dropped as far as they exceed the limit by their number, and
whatever still exceeds it by its columns is cut off.

Parts of a message have a colour.  Where one begins or ends the line has a seam, and the segments
between the seams are shown one by one: what a joiner before a seam joined stands on its own after
it.  So the segments may take more columns than their line, and then the last ones are cut off.
-/

namespace ResourceGraph.Wrap

/-- The columns from one tab stop to the next. -/
def tabWidth : Nat := 8

/-- The columns of a line unless another number is asked for. -/
def standardWidth : Nat := 80

/-- The control characters that are not shown. -/
def isHidden (c : Char) : Bool :=
  c.toNat == 7 || c.toNat == 8 || c.toNat == 11 || c.toNat == 12 || c.toNat == 13

/-- The characters that are shown. -/
def visible (characters : List Char) : List Char := characters.filter fun c => !isHidden c

/-- Parts between tabs, put together with each tab replaced by a space and further ones up to the
next stop; `column` columns have passed. -/
def joinParts (column : Nat) : List (List Char) → List Char
  | [] => []
  | [last] => last
  | part :: rest =>
    let spaced := part ++ [' ']
    let reached := column + Text.columns spaced
    let missing := (tabWidth - reached % tabWidth) % tabWidth
    spaced ++ List.replicate missing ' ' ++ joinParts (reached + missing) rest

/-- Characters with their tabs replaced by spaces. -/
def expandTabs (characters : List Char) : List Char := joinParts 0 (characters.splitOn '\t')

/-- A word with the blank characters around it. -/
structure Word where
  text : List Char
  /-- The number of its characters up to the blank ones after it. -/
  solid : Nat
deriving DecidableEq, Repr

/-- The columns that a word needs at the end of a line. -/
def Word.needed (word : Word) : Nat := Text.columns (word.text.take word.solid)

/-- The words of some characters, at most `bound` of them: blank characters stand at the end of a
word, and before the first one. -/
def wordsWithin : Nat → List Char → List Word
  | 0, _ => []
  | bound + 1, characters =>
    let leading := characters.takeWhile Text.isBlank
    let afterLeading := characters.dropWhile Text.isBlank
    let solid := afterLeading.takeWhile fun c => !Text.isBlank c
    let afterSolid := afterLeading.dropWhile fun c => !Text.isBlank c
    let trailing := afterSolid.takeWhile Text.isBlank
    if solid.isEmpty then []
    else
      ⟨leading ++ solid ++ trailing, leading.length + solid.length⟩ ::
        wordsWithin bound (afterSolid.dropWhile Text.isBlank)

/-- The words of some characters. -/
def words (characters : List Char) : List Word := wordsWithin characters.length characters

/-- The pieces of some clusters that fit a width each; `piece`, which takes `used` columns, has
begun. -/
def piecesAfter (width : Nat) (piece : List Char) (used : Nat) :
    List Text.Cluster → List (List Char)
  | [] => if used = 0 then [] else [piece]
  | cluster :: rest =>
    if used + cluster.columns ≤ width then
      piecesAfter width (piece ++ cluster.characters) (used + cluster.columns) rest
    else piece :: piecesAfter width cluster.characters cluster.columns rest

/-- The pieces that a word is cut into. -/
def piecesOf (width : Nat) (word : Word) : List (List Char) :=
  piecesAfter width [] 0 (Text.clusters word.text)

/-- The positions where pieces begin, the first one at `position`. -/
def startsOf (position : Nat) : List (List Char) → List Nat
  | [] => []
  | piece :: rest => position :: startsOf (position + piece.length) rest

/-- Where lines of a width begin: positions of line starts, given the position of the next word and
the columns used before it. -/
def breaks (width position used : Nat) : List Word → List Nat
  | [] => []
  | word :: rest =>
    let next := position + word.text.length
    if used + word.needed ≤ width then
      breaks width next (used + Text.columns word.text) rest
    else if width < word.needed then
      let pieces := piecesOf width word
      (startsOf position pieces).filter (0 < ·) ++
        breaks width next ((pieces.getLast?.map Text.columns).getD used) rest
    else position :: breaks width next (Text.columns word.text) rest

/-- The pieces of characters between the given positions, `start` being that of the first one. -/
def cutAt (start : Nat) : List Nat → List Char → List (List Char)
  | [], characters => [characters]
  | position :: rest, characters =>
    characters.take (position - start) :: cutAt position rest (characters.drop (position - start))

/-- A line without the blank characters at its end by which its length exceeds a width. -/
def dropExcess (width : Nat) (line : List Char) : List Char :=
  let blanks := (line.reverse.takeWhile Text.isBlank).length
  line.take (line.length - min blanks (line.length - width))

/-- The clusters that fit a width, `used` columns being taken; a space stands for the half of a wide
one that would fit. -/
def fitting (width used : Nat) : List Text.Cluster → List Char
  | [] => []
  | cluster :: rest =>
    if used + cluster.columns ≤ width then
      cluster.characters ++ fitting width (used + cluster.columns) rest
    else if used < width then [' ']
    else []

/-- A line without what exceeds a width. -/
def truncate (width : Nat) (line : List Char) : List Char :=
  if Text.columns line ≤ width then line else fitting width 0 (Text.clusters line)

/-- The segments of a line that fit a width, `used` columns being taken. -/
def fittingSegments (width used : Nat) : List (List Char) → List Char
  | [] => []
  | segment :: rest =>
    if used + Text.columns segment < width then
      segment ++ fittingSegments width (used + Text.columns segment) rest
    else truncate (width - used) segment

/-- A line as its segments show it. -/
def showSegments (width : Nat) (segments : List (List Char)) : List Char :=
  if segments.foldl (fun used segment => used + Text.columns segment) 0 ≤ width then
    segments.flatten
  else fittingSegments width 0 segments

/-- Whether a text has a seam at a position: a coloured part begins or ends there, or it holds a tab
that ends there. -/
def isSeam (parts : List Span) (text : List Char) (position : Nat) : Bool :=
  parts.any fun part =>
    part.start == position || part.stop == position ||
      (part.start < position && position < part.stop && text[position - 1]? == some '\t')

/-- The seams of a text, as positions in it. -/
def seams (parts : List Span) (text : List Char) : List Nat :=
  (List.range text.length).filter (isSeam parts text)

/-- The positions that lie inside a stretch, counted from its start. -/
def inside (start length : Nat) (positions : List Nat) : List Nat :=
  (positions.filter fun position => start < position && position < start + length).map (· - start)

/-- The lines that one line with some seams is broken into. -/
def wrapLine (width : Nat) (line : List Char) (seams : List Nat) : List (List Char) :=
  let expanded := expandTabs line
  let moved := seams.map fun position => (expandTabs (line.take position)).length
  let pieces := cutAt 0 (breaks width 0 0 (words expanded)) expanded
  (pieces.zip (startsOf 0 pieces)).map fun (piece, start) =>
    let shown := truncate width (dropExcess width piece)
    showSegments width (cutAt 0 (inside start shown.length moved) shown)

/-- The lines that several lines with some seams are broken into, the first one at `start`. -/
def wrapLines (width : Nat) (seams : List Nat) (start : Nat) :
    List (List Char) → List (List Char)
  | [] => []
  | line :: rest =>
    wrapLine width line (inside start line.length seams) ++
      wrapLines width seams (start + line.length + 1) rest

/-- A text with some coloured parts, broken into lines of a width, with a line feed after each one;
a terminal without columns shows nothing. -/
def wrap (width : Nat) (parts : List Span) (text : List Char) : List Char :=
  if width = 0 then []
  else
    (wrapLines width (seams parts text) 0 (text.splitOn '\n')).flatMap fun line => line ++ ['\n']

end ResourceGraph.Wrap
