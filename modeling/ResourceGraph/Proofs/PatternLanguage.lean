import Mathlib
import ResourceGraph.Output.Pattern

/-!
# What patterns fit

`Pattern.go` tries the ways in which a pattern fits, preferred ones first, each of them together
with what has to follow it.  `Pattern.Takes` says where a pattern may lead in one of these ways,
whichever it is.  The two belong together (`realizes_go`): what is found is behind a place that
the pattern leads to, and something is found if what follows is possible at any of these places.

A repetition tries no more rounds than there are characters left.  Nothing is lost by this,
because a round that does not leave its place can be left out (`Takes.eq_or_length_lt`).

Most patterns mark nothing and do not look at what stands around them.  They are known from the
texts that they lead past (`Spells`), and these form a language: a chain joins the texts of its
parts, a choice has the texts of both, a repetition those of all its rounds.
-/

namespace ResourceGraph

open scoped Computability

/-! ## Places and rounds -/

namespace Place

/-- The place at the beginning of a text. -/
def start (text : List Char) : Place := { position := 0, previous := none, rest := text }

/-- The place that is reached by going past some characters. -/
def past (place : Place) (taken : List Char) : Place :=
  { place with
    position := place.position + taken.length
    previous := taken.getLast?.or place.previous
    rest := place.rest.drop taken.length }

/-- At most some rounds lead from one place to another one. -/
def UpTo (leads : Place → Place → Prop) : ℕ → Place → Place → Prop
  | 0, place, stop => stop = place
  | bound + 1, place, stop =>
    (∃ middle, leads place middle ∧ UpTo leads bound middle stop) ∨ stop = place

/-- A way to go on that is possible exactly if some place, to which one is led, allows what
follows. -/
structure Realizes (go : Continuation → Continuation) (leads : Place → Place → Prop) : Prop where
  sound : ∀ {follow place found}, go follow place = some found →
    ∃ stop, leads place stop ∧ follow stop = some found
  complete : ∀ {follow : Continuation} {place stop}, leads place stop → (follow stop).isSome →
    (go follow place).isSome

variable {place stop middle : Place} {front back : List Char} {leads : Place → Place → Prop}
  {go : Continuation → Continuation} {bound : ℕ}

theorem past_append : place.past (front ++ back) = (place.past front).past back := by
  unfold past
  rw [List.length_append, List.getLast?_append, Option.or_assoc, List.drop_drop, Nat.add_assoc]

theorem rest_past {rest : List Char} (h : place.rest = front ++ rest) :
    (place.past front).rest = rest := by
  show place.rest.drop front.length = rest
  rw [h, List.drop_left]

theorem mark_eq_self (hle : stop.position ≤ place.position) :
    stop.mark place.position = stop := if_neg (Nat.not_lt.mpr hle)

theorem rest_mark (position : ℕ) : (stop.mark position).rest = stop.rest := by
  unfold mark
  split <;> rfl

theorem position_mark (position : ℕ) : (stop.mark position).position = stop.position := by
  unfold mark
  split <;> rfl

theorem marks_mark {position : ℕ} (hlt : position < stop.position) :
    (stop.mark position).marks = ⟨position, stop.position⟩ :: stop.marks := by
  rw [mark, if_pos hlt]

theorem upTo_refl (leads : Place → Place → Prop) (bound : ℕ) (place : Place) :
    UpTo leads bound place place := by
  cases bound with
  | zero => rfl
  | succ bound => exact Or.inr rfl

theorem UpTo.reflTransGen (h : UpTo leads bound place stop) :
    Relation.ReflTransGen leads place stop := by
  induction bound generalizing place with
  | zero =>
      cases h
      exact .refl
  | succ bound ih =>
      rcases h with ⟨middle, hround, hrest⟩ | rfl
      · exact .head hround (ih hrest)
      · exact .refl

/-- Rounds that take a character each are as many as there are characters at most; the others can be
left out. -/
theorem upTo_of_reflTransGen
    (hprogress : ∀ {place stop}, leads place stop →
      stop = place ∨ stop.rest.length < place.rest.length)
    (h : Relation.ReflTransGen leads place stop) (hbound : place.rest.length ≤ bound) :
    UpTo leads bound place stop := by
  induction h using Relation.ReflTransGen.head_induction_on generalizing bound with
  | refl => exact upTo_refl leads bound stop
  | head hround hrest ih =>
      rcases hprogress hround with rfl | hlt
      · exact ih hbound
      · obtain ⟨smaller, rfl⟩ : ∃ smaller, bound = smaller + 1 :=
          Nat.exists_eq_succ_of_ne_zero (by omega)
        exact Or.inl ⟨_, hround, ih (by omega)⟩

/-! ## Ways to go on -/

section Realizes

variable {other : Continuation → Continuation} {further : Place → Place → Prop}

theorem Realizes.here : Realizes (fun follow => follow) fun place stop => stop = place := by
  refine ⟨fun hfound => ⟨_, rfl, hfound⟩, fun hstop hsome => ?_⟩
  cases hstop
  exact hsome

/-- One way after another leads where the second one leads from a place of the first one. -/
theorem Realizes.after (h : Realizes go leads) (hother : Realizes other further) :
    Realizes (fun follow => go (other follow)) fun place stop =>
      ∃ middle, leads place middle ∧ further middle stop := by
  refine ⟨fun hfound => ?_, fun hstop hsome => ?_⟩
  · obtain ⟨middle, hmiddle, hrest⟩ := h.sound hfound
    obtain ⟨stop, hstop, hfollow⟩ := hother.sound hrest
    exact ⟨stop, ⟨middle, hmiddle, hstop⟩, hfollow⟩
  · obtain ⟨middle, hmiddle, hrest⟩ := hstop
    exact h.complete hmiddle (hother.complete hrest hsome)

/-- Two ways lead where one of them leads, whichever is tried first. -/
theorem Realizes.either (h : Realizes go leads) (hother : Realizes other further) :
    Realizes (fun follow place => (go follow place).or (other follow place)) fun place stop =>
      leads place stop ∨ further place stop := by
  refine ⟨fun hfound => ?_, fun hstop hsome => ?_⟩
  · rcases Option.or_eq_some_iff.mp hfound with hfound | ⟨-, hfound⟩
    · obtain ⟨stop, hstop, hfollow⟩ := h.sound hfound
      exact ⟨stop, Or.inl hstop, hfollow⟩
    · obtain ⟨stop, hstop, hfollow⟩ := hother.sound hfound
      exact ⟨stop, Or.inr hstop, hfollow⟩
  · rw [Option.isSome_or, Bool.or_eq_true]
    exact hstop.imp (h.complete · hsome) (hother.complete · hsome)

theorem Realizes.congr (h : Realizes go leads)
    (hleads : ∀ place stop, leads place stop ↔ further place stop) : Realizes go further := by
  have heq : leads = further := funext₂ fun place stop => propext (hleads place stop)
  exact heq ▸ h

theorem Realizes.goMany (h : Realizes go leads) (bound : ℕ) :
    Realizes (fun follow => goMany go follow bound) (UpTo leads bound) := by
  induction bound with
  | zero => exact .here
  | succ bound ih => exact (h.after ih).either .here

theorem Realizes.goFew (h : Realizes go leads) (bound : ℕ) :
    Realizes (fun follow => goFew go follow bound) (UpTo leads bound) := by
  induction bound with
  | zero => exact .here
  | succ bound ih => exact (Realizes.here.either (h.after ih)).congr fun _ _ => Or.comm

/-- As many rounds as there are characters left lead where any number of rounds leads. -/
theorem Realizes.rounds {goUpTo : ℕ → Continuation → Continuation}
    (hprogress : ∀ {place stop}, leads place stop →
      stop = place ∨ stop.rest.length < place.rest.length)
    (h : ∀ bound, Realizes (goUpTo bound) (UpTo leads bound)) :
    Realizes (fun follow place => goUpTo place.rest.length follow place)
      (Relation.ReflTransGen leads) := by
  refine ⟨fun {follow place found} hfound => ?_, fun {follow place stop} hstop hsome => ?_⟩
  · obtain ⟨stop, hstop, hfollow⟩ := (h place.rest.length).sound hfound
    exact ⟨stop, hstop.reflTransGen, hfollow⟩
  · have hrounds : UpTo leads place.rest.length place stop :=
      upTo_of_reflTransGen hprogress hstop (Nat.le_refl _)
    exact (h place.rest.length).complete hrounds hsome

end Realizes

end Place

namespace Span

/-- The characters of a stretch of a text. -/
def textIn (text : List Char) (span : Span) : List Char :=
  (text.drop span.start).take (span.stop - span.start)

theorem textIn_append (front middle back : List Char) :
    textIn (front ++ (middle ++ back)) ⟨front.length, front.length + middle.length⟩ = middle := by
  rw [textIn, List.drop_left, Nat.add_sub_cancel_left, List.take_left]

end Span

namespace Pattern

/-! ## Where a pattern leads -/

/-- Where a pattern may lead from a place. -/
def Takes : Pattern → Place → Place → Prop
  | one allowed, place, stop =>
    ∃ c, allowed c = true ∧ place.rest = c :: stop.rest ∧ stop = place.past [c]
  | between allowed, place, stop =>
    allowed place.previous place.rest.head? = true ∧ stop = place
  | chain first second, place, stop =>
    ∃ middle, first.Takes place middle ∧ second.Takes middle stop
  | choice first second, place, stop => first.Takes place stop ∨ second.Takes place stop
  | upTo most round, place, stop => Place.UpTo round.Takes most place stop
  | many round, place, stop => Relation.ReflTransGen round.Takes place stop
  | few round, place, stop => Relation.ReflTransGen round.Takes place stop
  | marked inside, place, stop =>
    ∃ middle, inside.Takes place middle ∧ stop = middle.mark place.position

variable {pattern first second : Pattern} {place stop : Place}

/-- A pattern leads to where it started or takes characters. -/
theorem Takes.eq_or_length_lt (h : pattern.Takes place stop) :
    stop = place ∨ stop.rest.length < place.rest.length := by
  have hrounds {leads : Place → Place → Prop}
      (hround : ∀ {place stop}, leads place stop →
        stop = place ∨ stop.rest.length < place.rest.length)
      {place stop : Place} (h : Relation.ReflTransGen leads place stop) :
      stop = place ∨ stop.rest.length < place.rest.length := by
    induction h with
    | refl => exact Or.inl rfl
    | tail _ hlast ih =>
        rcases hround hlast with rfl | hlt
        · exact ih
        · rcases ih with rfl | hbefore
          · exact Or.inr hlt
          · exact Or.inr (hlt.trans hbefore)
  induction pattern generalizing place stop with
  | one allowed =>
      obtain ⟨c, -, hrest, -⟩ := h
      right
      simp [hrest]
  | between allowed => exact Or.inl h.2
  | chain first second ihfirst ihsecond =>
      obtain ⟨middle, hfirst, hsecond⟩ := h
      rcases ihsecond hsecond with rfl | hlt
      · exact ihfirst hfirst
      · rcases ihfirst hfirst with rfl | hbefore
        · exact Or.inr hlt
        · exact Or.inr (hlt.trans hbefore)
  | choice first second ihfirst ihsecond => exact h.elim ihfirst ihsecond
  | upTo most round ih => exact hrounds ih (Place.UpTo.reflTransGen h)
  | many round ih => exact hrounds ih h
  | few round ih => exact hrounds ih h
  | marked inside ih =>
      obtain ⟨middle, hinside, rfl⟩ := h
      rcases ih hinside with rfl | hlt
      · exact Or.inl (Place.mark_eq_self (Nat.le_refl _))
      · rw [Place.rest_mark]
        exact Or.inr hlt

/-- **A pattern finds where it leads.**  What is found lies behind a place that the pattern leads
to, and something is found if one of these places allows what follows. -/
theorem realizes_go (pattern : Pattern) : Place.Realizes pattern.go pattern.Takes := by
  induction pattern with
  | one allowed =>
      refine ⟨fun {follow place found} hfound => ?_, fun {follow place stop} hstop hsome => ?_⟩
      · rw [go, Place.step] at hfound
        split at hfound
        · cases hfound
        · next c rest hrest =>
            split at hfound
            · next hallowed =>
                refine ⟨place.past [c], ⟨c, hallowed, ?_, rfl⟩, ?_⟩
                · rw [Place.rest_past hrest, hrest]
                · rw [← hfound, Place.past, hrest]
                  rfl
            · cases hfound
      · obtain ⟨c, hallowed, hrest, hpast⟩ := hstop
        rw [go, Place.step, hrest]
        simp only [hallowed, if_true]
        rw [hpast, Place.past, hrest] at hsome
        exact hsome
  | between allowed =>
      refine ⟨fun {follow place found} hfound => ?_, fun {follow place stop} hstop hsome => ?_⟩
      · rw [go] at hfound
        split at hfound
        · next hallowed => exact ⟨place, ⟨hallowed, rfl⟩, hfound⟩
        · cases hfound
      · obtain ⟨hallowed, rfl⟩ := hstop
        rwa [go, if_pos hallowed]
  | chain first second ihfirst ihsecond => exact ihfirst.after ihsecond
  | choice first second ihfirst ihsecond => exact ihfirst.either ihsecond
  | upTo most round ih => exact ih.goMany most
  | many round ih => exact .rounds Takes.eq_or_length_lt ih.goMany
  | few round ih => exact .rounds Takes.eq_or_length_lt ih.goFew
  | marked inside ih =>
      refine ⟨fun hfound => ?_, fun hstop hsome => ?_⟩
      · obtain ⟨middle, hmiddle, hfollow⟩ := ih.sound hfound
        exact ⟨_, ⟨middle, hmiddle, rfl⟩, hfollow⟩
      · obtain ⟨middle, hmiddle, rfl⟩ := hstop
        exact ih.complete hmiddle hsome

/-- Where a pattern finds an end, it leads to it. -/
theorem takes_of_end?_eq_some (h : pattern.end? place = some stop) : pattern.Takes place stop := by
  obtain ⟨found, htakes, hfound⟩ := (realizes_go pattern).sound h
  cases hfound
  exact htakes

/-- A pattern finds an end exactly where it leads somewhere. -/
theorem isSome_end?_iff : (pattern.end? place).isSome ↔ ∃ stop, pattern.Takes place stop := by
  constructor
  · intro h
    obtain ⟨stop, hstop⟩ := Option.isSome_iff_exists.mp h
    exact ⟨stop, takes_of_end?_eq_some hstop⟩
  · rintro ⟨stop, hstop⟩
    exact (realizes_go pattern).complete hstop rfl

/-! ## The texts that a pattern spells -/

/-- A pattern leads past the texts of a language, whatever stands around them, and marks nothing. -/
def Spells (pattern : Pattern) (language : Language Char) : Prop :=
  ∀ place stop, pattern.Takes place stop ↔
    ∃ taken ∈ language, place.rest = taken ++ stop.rest ∧ stop = place.past taken

/-- The texts of a single character. -/
def singles (allowed : Char → Bool) : Language Char := {text | ∃ c, allowed c = true ∧ text = [c]}

variable {language other : Language Char}

theorem spells_one (allowed : Char → Bool) : (one allowed).Spells (singles allowed) := by
  intro place stop
  constructor
  · rintro ⟨c, hallowed, hrest, hstop⟩
    exact ⟨[c], ⟨c, hallowed, rfl⟩, hrest, hstop⟩
  · rintro ⟨_, ⟨c, hallowed, rfl⟩, hrest, hstop⟩
    exact ⟨c, hallowed, hrest, hstop⟩

theorem spells_only (c : Char) : (only c).Spells {[c]} := by
  intro place stop
  rw [only, spells_one]
  constructor
  · rintro ⟨_, ⟨found, hfound, rfl⟩, hrest, hstop⟩
    obtain rfl : found = c := by simpa using hfound
    exact ⟨[found], rfl, hrest, hstop⟩
  · rintro ⟨_, rfl, hrest, hstop⟩
    exact ⟨[c], ⟨c, by simp, rfl⟩, hrest, hstop⟩

theorem Spells.chain (hfirst : first.Spells language) (hsecond : second.Spells other) :
    (chain first second).Spells (language * other) := by
  intro place stop
  constructor
  · rintro ⟨middle, htakes, hrest⟩
    obtain ⟨front, hfront, hplace, rfl⟩ := (hfirst place middle).mp htakes
    obtain ⟨back, hback, hmiddle, rfl⟩ := (hsecond _ stop).mp hrest
    refine ⟨front ++ back, Language.append_mem_mul hfront hback, ?_, Place.past_append.symm⟩
    rw [List.append_assoc, ← hmiddle, ← hplace]
  · rintro ⟨taken, htaken, hrest, rfl⟩
    obtain ⟨front, hfront, back, hback, rfl⟩ := Language.mem_mul.mp htaken
    rw [List.append_assoc] at hrest
    have hmiddle := Place.rest_past hrest
    refine ⟨place.past front, (hfirst _ _).mpr ⟨front, hfront, ?_, rfl⟩,
      (hsecond _ _).mpr ⟨back, hback, hmiddle, Place.past_append⟩⟩
    rw [hmiddle]
    exact hrest

theorem Spells.choice (hfirst : first.Spells language) (hsecond : second.Spells other) :
    (choice first second).Spells (language + other) := by
  intro place stop
  rw [Takes, hfirst, hsecond]
  simp only [Language.mem_add]
  constructor
  · rintro (⟨taken, htaken, hrest⟩ | ⟨taken, htaken, hrest⟩)
    · exact ⟨taken, Or.inl htaken, hrest⟩
    · exact ⟨taken, Or.inr htaken, hrest⟩
  · rintro ⟨taken, htaken | htaken, hrest⟩
    · exact Or.inl ⟨taken, htaken, hrest⟩
    · exact Or.inr ⟨taken, htaken, hrest⟩

theorem Spells.optional (h : pattern.Spells language) :
    (optional pattern).Spells (language + 1) := by
  intro place stop
  have hround : pattern.optional.Takes place stop ↔ pattern.Takes place stop ∨ stop = place := by
    show (∃ middle, pattern.Takes place middle ∧ stop = middle) ∨ stop = place ↔ _
    simp
  rw [hround, h]
  simp only [Language.mem_add, Language.mem_one]
  constructor
  · rintro (⟨taken, htaken, hrest⟩ | rfl)
    · exact ⟨taken, Or.inl htaken, hrest⟩
    · exact ⟨[], Or.inr rfl, rfl, rfl⟩
  · rintro ⟨taken, htaken | rfl, hrest, hstop⟩
    · exact Or.inl ⟨taken, htaken, hrest, hstop⟩
    · exact Or.inr hstop

/-- Rounds in a row lead past their texts. -/
theorem Spells.takes_many (h : pattern.Spells language) {rounds : List (List Char)}
    (hrounds : ∀ round ∈ rounds, round ∈ language) {rest : List Char}
    (hrest : place.rest = rounds.flatten ++ rest) :
    (many pattern).Takes place (place.past rounds.flatten) := by
  induction rounds generalizing place with
  | nil => exact .refl
  | cons round rounds ih =>
      rw [List.flatten_cons, List.append_assoc] at hrest
      have hmiddle := Place.rest_past hrest
      have hround : pattern.Takes place (place.past round) :=
        (h _ _).mpr ⟨round, hrounds round List.mem_cons_self, by rw [hmiddle, hrest], rfl⟩
      rw [List.flatten_cons, Place.past_append]
      exact .head hround
        (ih (fun other hother => hrounds other (List.mem_cons_of_mem _ hother)) hmiddle)

theorem Spells.many (h : pattern.Spells language) : (many pattern).Spells language∗ := by
  intro place stop
  constructor
  · intro htakes
    induction htakes using Relation.ReflTransGen.head_induction_on with
    | refl => exact ⟨[], Language.nil_mem_kstar _, rfl, rfl⟩
    | @head place middle hround _ ih =>
        obtain ⟨front, hfront, hplace, rfl⟩ := (h place middle).mp hround
        obtain ⟨back, hback, hmiddle, hstop⟩ := ih
        refine ⟨front ++ back, ?_, ?_, ?_⟩
        · exact Set.mem_of_mem_of_subset (Language.append_mem_mul hfront hback)
            (mul_kstar_le_kstar (a := language))
        · rw [List.append_assoc, ← hmiddle, ← hplace]
        · rw [hstop, Place.past_append]
  · rintro ⟨taken, htaken, hrest, rfl⟩
    obtain ⟨rounds, rfl, hrounds⟩ := Language.mem_kstar.mp htaken
    exact h.takes_many hrounds hrest

theorem Spells.atLeastOne (h : pattern.Spells language) :
    (atLeastOne pattern).Spells (language * language∗) := h.chain h.many

theorem mem_singles_kstar {allowed : Char → Bool} {text : List Char} :
    text ∈ (singles allowed)∗ ↔ ∀ c ∈ text, allowed c = true := by
  rw [Language.mem_kstar]
  constructor
  · rintro ⟨rounds, rfl, hrounds⟩ c hc
    obtain ⟨round, hround, hc⟩ := List.mem_flatten.mp hc
    obtain ⟨d, hd, rfl⟩ := hrounds round hround
    rwa [List.mem_singleton.mp hc]
  · intro hall
    refine ⟨text.map fun c => [c], ?_, fun round hround => ?_⟩
    · rw [← List.flatMap_def, List.flatMap_singleton']
    · obtain ⟨c, hc, rfl⟩ := List.mem_map.mp hround
      exact ⟨c, hall c hc, rfl⟩

theorem mem_singles_mul_kstar {allowed : Char → Bool} {text : List Char} :
    text ∈ singles allowed * (singles allowed)∗ ↔ text ≠ [] ∧ ∀ c ∈ text, allowed c = true := by
  rw [Language.mem_mul]
  simp only [mem_singles_kstar]
  constructor
  · rintro ⟨_, ⟨c, hc, rfl⟩, back, hback, rfl⟩
    refine ⟨by simp, fun d hd => ?_⟩
    rcases List.mem_cons.mp hd with rfl | hd
    · exact hc
    · exact hback d hd
  · rintro ⟨hne, hall⟩
    obtain ⟨c, rest, rfl⟩ := List.exists_cons_of_ne_nil hne
    exact ⟨[c], ⟨c, hall c List.mem_cons_self, rfl⟩, rest,
      fun d hd => hall d (List.mem_cons_of_mem _ hd), rfl⟩

/-! ## Whole texts -/

/-- The end of a text; a line feed at the very end is passed over. -/
def textEnd : Pattern := .chain (.optional (only '\n')) (between fun _ next => next.isNone)

/-- Whether a pattern fits a text from its beginning on. -/
def fits (pattern : Pattern) (text : List Char) : Bool := (pattern.end? (Place.start text)).isSome

theorem takes_textEnd_iff : textEnd.Takes place stop ↔
    (place.rest = [] ∨ place.rest = ['\n']) ∧ stop = place.past place.rest := by
  have hend : textEnd.Takes place stop ↔
      ∃ middle, (optional (only '\n')).Takes place middle ∧ middle.rest = [] ∧ stop = middle := by
    show (∃ middle, _ ∧ middle.rest.head?.isNone = true ∧ stop = middle) ↔ _
    simp only [Option.isNone_iff_eq_none, List.head?_eq_none_iff]
  rw [hend]
  constructor
  · rintro ⟨middle, htakes, hempty, rfl⟩
    obtain ⟨taken, htaken, hrest, hstop⟩ := ((spells_only '\n').optional place stop).mp htakes
    rw [hempty, List.append_nil] at hrest
    subst hrest
    exact ⟨htaken.symm.imp id id, hstop⟩
  · rintro ⟨hrest, rfl⟩
    have hempty : (place.past place.rest).rest = [] := Place.rest_past (List.append_nil _).symm
    refine ⟨_, ((spells_only '\n').optional place _).mpr ⟨place.rest, hrest.symm, ?_, rfl⟩,
      hempty, rfl⟩
    rw [hempty, List.append_nil]

/-- A pattern up to the end of the text fits what it spells, with or without a line feed behind
it. -/
theorem Spells.fits_textEnd_iff (h : pattern.Spells language) {text : List Char} :
    (Pattern.chain pattern textEnd).fits text = true ↔
      text ∈ language ∨ ∃ taken ∈ language, text = taken ++ ['\n'] := by
  rw [fits, isSome_end?_iff]
  constructor
  · rintro ⟨stop, middle, htakes, hend⟩
    obtain ⟨taken, htaken, hrest, -⟩ := (h _ middle).mp htakes
    obtain ⟨hempty | hfeed, -⟩ := takes_textEnd_iff.mp hend
    · have htext : text = taken := by rwa [hempty, List.append_nil] at hrest
      exact Or.inl (htext ▸ htaken)
    · exact Or.inr ⟨taken, htaken, hfeed ▸ hrest⟩
  · intro hfits
    obtain ⟨taken, htaken, back, hback, htext⟩ : ∃ taken ∈ language, ∃ back,
        (back = [] ∨ back = ['\n']) ∧ text = taken ++ back := by
      rcases hfits with htext | ⟨taken, htaken, htext⟩
      · exact ⟨text, htext, [], Or.inl rfl, (List.append_nil _).symm⟩
      · exact ⟨taken, htaken, _, Or.inr rfl, htext⟩
    have hmiddle : ((Place.start text).past taken).rest = back := Place.rest_past htext
    refine ⟨_, _, (h _ _).mpr ⟨taken, htaken, ?_, rfl⟩, takes_textEnd_iff.mpr ⟨?_, rfl⟩⟩
    · rw [hmiddle]
      exact htext
    · rwa [hmiddle]

/-! ## Looking for stretches -/

variable {position : ℕ} {previous : Option Char} {front rest : List Char}

/-- Characters that belong to a stretch that has been found are passed over. -/
theorem marksAfter_skip : marksAfter pattern position previous front.length (front ++ rest) =
    marksAfter pattern (position + front.length) (front.getLast?.or previous) 0 rest := by
  induction front generalizing position previous with
  | nil => rfl
  | cons c front ih =>
      rw [List.length_cons, List.cons_append, marksAfter, ih, List.getLast?_cons, Option.or_some,
        Nat.add_assoc, Nat.add_comm 1]
      cases front.getLast? <;> rfl

/-- The marks of a stretch that is found come first, then those in what is left. -/
theorem marksAfter_of_end? (hne : front ≠ [])
    (hend : pattern.end? { position, previous, rest := front ++ rest } = some stop)
    (hstop : stop.position = position + front.length) :
    marksAfter pattern position previous 0 (front ++ rest) = stop.marks ++
      marksAfter pattern (position + front.length) (front.getLast?.or previous) 0 rest := by
  obtain ⟨c, back, rfl⟩ := List.exists_cons_of_ne_nil hne
  have hskipped : stop.position - position - 1 = back.length := by
    rw [hstop, List.length_cons]
    omega
  rw [← marksAfter_skip]
  rw [List.cons_append] at hend ⊢
  simp only [List.length_cons, marksAfter, hend, hskipped]

end Pattern

end ResourceGraph
