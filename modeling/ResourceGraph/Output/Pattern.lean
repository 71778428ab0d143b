/-!
# Patterns of characters

A pattern describes stretches of a text.  Where it fits in several ways, one of them is preferred:
a choice prefers its first pattern, and a repetition says whether it prefers more or fewer rounds.
The ways are tried in that order, each one together with all that has to follow it, and what a
pattern finds is the first way that is possible to the end.
-/

namespace ResourceGraph

/-- A stretch of a text, from a position up to another one. -/
structure Span where
  start : Nat
  stop : Nat
deriving DecidableEq, Repr

/-- A place in a text, and what has been marked on the way to it. -/
structure Place where
  position : Nat
  /-- The character before the place. -/
  previous : Option Char
  /-- The characters after it. -/
  rest : List Char
  marks : List Span := []
deriving DecidableEq, Repr

/-- What a stretch of a text may look like. -/
inductive Pattern where
  /-- A single character. -/
  | one (allowed : Char → Bool)
  /-- Nothing, between characters that allow it. -/
  | between (allowed : Option Char → Option Char → Bool)
  /-- One pattern after another. -/
  | chain (first second : Pattern)
  /-- One of two patterns, rather the first. -/
  | choice (first second : Pattern)
  /-- As many rounds as possible, up to a number. -/
  | upTo (most : Nat) (round : Pattern)
  /-- As many rounds as possible. -/
  | many (round : Pattern)
  /-- As few rounds as possible. -/
  | few (round : Pattern)
  /-- A pattern whose stretch is marked. -/
  | marked (inside : Pattern)

/-- What may come of a place: the place where everything has been found, if that is possible. -/
abbrev Continuation := Place → Option Place

namespace Place

/-- Goes past the next character, if that is an allowed one. -/
def step (allowed : Char → Bool) (follow : Continuation) (place : Place) : Option Place :=
  match place.rest with
  | [] => none
  | c :: rest =>
    if allowed c then
      follow { place with position := place.position + 1, previous := some c, rest }
    else none

/-- A place with the stretch from a position up to it marked, unless that is empty. -/
def mark (start : Nat) (place : Place) : Place :=
  if start < place.position then { place with marks := ⟨start, place.position⟩ :: place.marks }
  else place

/-- Goes up to some rounds, trying more of them first. -/
def goMany (round : Continuation → Continuation) (follow : Continuation) : Nat → Continuation
  | 0, place => follow place
  | bound + 1, place =>
    (round (goMany round follow bound) place).or (follow place)

/-- Goes up to some rounds, trying fewer of them first. -/
def goFew (round : Continuation → Continuation) (follow : Continuation) : Nat → Continuation
  | 0, place => follow place
  | bound + 1, place => (follow place).or (round (goFew round follow bound) place)

end Place

namespace Pattern

/-- Goes past a stretch of a pattern, trying preferred ones first, until what follows is possible
too.  A round takes a character at least, so that there are no more rounds than characters. -/
def go : Pattern → Continuation → Continuation
  | one allowed, follow, place => place.step allowed follow
  | between allowed, follow, place =>
    if allowed place.previous place.rest.head? then follow place else none
  | chain first second, follow, place => first.go (second.go follow) place
  | choice first second, follow, place => (first.go follow place).or (second.go follow place)
  | upTo most round, follow, place => Place.goMany round.go follow most place
  | many round, follow, place => Place.goMany round.go follow place.rest.length place
  | few round, follow, place => Place.goFew round.go follow place.rest.length place
  | marked inside, follow, place => inside.go (fun stop => follow (stop.mark place.position)) place

/-- The end of the preferred stretch of a pattern from a place on. -/
def end? (pattern : Pattern) (place : Place) : Option Place := pattern.go some place

/-- What is always there. -/
def nothing : Pattern := between fun _ _ => true

/-- Several patterns after one another. -/
def row : List Pattern → Pattern
  | [] => nothing
  | [last] => last
  | first :: rest => chain first (row rest)

/-- One of several patterns, rather an earlier one. -/
def anyOf : List Pattern → Pattern
  | [] => between fun _ _ => false
  | [last] => last
  | first :: rest => choice first (anyOf rest)

/-- A certain character. -/
def only (c : Char) : Pattern := one (· == c)

/-- Certain characters in a row. -/
def literal (text : String) : Pattern := row (text.toList.map only)

/-- A pattern that may be missing. -/
def optional (inside : Pattern) : Pattern := upTo 1 inside

/-- A number of rounds. -/
def rounds (number : Nat) (round : Pattern) : Pattern := row (List.replicate number round)

/-- At least one round and up to a number, rather more of them. -/
def oneUpTo (most : Nat) (round : Pattern) : Pattern := chain round (upTo (most - 1) round)

/-- At least one round, rather more of them. -/
def atLeastOne (round : Pattern) : Pattern := chain round (many round)

/-- The marks in a text from a position on, after its first `skipped` characters: stretches of the
pattern are looked for one behind another. -/
def marksAfter (pattern : Pattern) (position : Nat) (previous : Option Char) :
    Nat → List Char → List Span
  | _, [] => []
  | skipped + 1, c :: rest => marksAfter pattern (position + 1) (some c) skipped rest
  | 0, c :: rest =>
    match pattern.end? { position, previous, rest := c :: rest } with
    | none => marksAfter pattern (position + 1) (some c) 0 rest
    | some place =>
      place.marks ++
        marksAfter pattern (position + 1) (some c) (place.position - position - 1) rest

/-- The marks in a text. -/
def marks (pattern : Pattern) (text : List Char) : List Span := marksAfter pattern 0 none 0 text

end Pattern

end ResourceGraph
