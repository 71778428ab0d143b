import ResourceGraph.Proofs.PatternLanguage
import ResourceGraph.Resource.Build

/-!
# The grammar of durations

A duration is a row of parts, each of them digits, perhaps a point with more digits, and a unit.
`Writes` says so without reading anything.  There are three ways to read a duration, and this
module shows that they agree on it.

* **Splitting.**  `parts?` splits off one part after another.  A part that is written in front of
  others is the one that is split off (`splitPart?_eq_some_iff`): the digits of its number end
  before a point or a unit, and an `m` in front of an `s` is never a unit of its own.  Therefore,
  the parts of a text are the only ones (`parts?_eq_some_iff`).
* **Accepting.**  `durationPattern` fits a whole text.  Whether it does so depends only on the
  language of its parts, not on the order in which units are tried (`fits_durationPattern_iff`).
* **Searching.**  `partPattern` is looked for again and again, each time behind the stretch that
  was found before.  Here the order of the units matters: the number may end in several places,
  but only one of them is followed by a unit (`of_takes_numberPattern`), and of two units the
  longer one is tried first (`go_unitPattern`).  Since parts leave nothing between them, every
  search begins where a part begins (`map_textIn_marksAfter`).
-/

namespace ResourceGraph

namespace Duration

/-! ## What parts write -/

/-- A part has a digit before its point, and nothing but digits before and after it. -/
structure Part.Proper (part : Part) : Prop where
  whole_ne_nil : part.whole ≠ []
  whole_digits : ∀ c ∈ part.whole, Text.isDecimalDigit c = true
  fraction_digits : ∀ c ∈ part.fraction, Text.isDecimalDigit c = true

/-- The characters of a fraction, with its point; no digits need none. -/
def pointed (fraction : List Char) : List Char := if fraction.isEmpty then [] else '.' :: fraction

/-- The characters of a part in front of its unit. -/
def Part.number (part : Part) : List Char :=
  part.whole ++ pointed part.fraction

/-- Some characters are those of proper parts in a row, at least one. -/
structure Writes (parts : List Part) (characters : List Char) : Prop where
  ne_nil : parts ≠ []
  proper : ∀ part ∈ parts, part.Proper
  text_eq : characters = parts.flatMap Part.text

/-- What may follow a unit: an `s` makes a minute a millisecond. -/
def TimeUnit.EndsBefore (unit : TimeUnit) (rest : List Char) : Prop :=
  unit = .minute → rest.head? ≠ some 's'

variable {characters rest fraction : List Char} {unit : TimeUnit} {part : Part} {parts : List Part}

theorem Part.text_eq (part : Part) : part.text = part.number ++ part.unit.text := rfl

theorem Part.Proper.exists_digit (h : part.Proper) :
    ∃ c rest, part.text = c :: rest ∧ Text.isDecimalDigit c = true := by
  obtain ⟨c, digits, hwhole⟩ := List.exists_cons_of_ne_nil h.whole_ne_nil
  have hdigit : Text.isDecimalDigit c = true :=
    h.whole_digits c (by rw [hwhole]; exact List.mem_cons_self)
  unfold Part.text
  rw [hwhole]
  exact ⟨c, _, rfl, hdigit⟩

theorem Part.Proper.text_ne_nil (h : part.Proper) : part.text ≠ [] := by
  obtain ⟨c, rest, htext, -⟩ := h.exists_digit
  rw [htext]
  exact List.cons_ne_nil _ _

/-- A part is followed by nothing or by the digit of another one. -/
theorem endsBefore_flatMap (unit : TimeUnit) (hproper : ∀ part ∈ parts, part.Proper) :
    unit.EndsBefore (parts.flatMap Part.text) := by
  rintro -
  cases parts with
  | nil => exact nofun
  | cons part parts =>
      obtain ⟨c, rest, htext, hdigit⟩ := (hproper part List.mem_cons_self).exists_digit
      rw [List.flatMap_cons, htext]
      rintro hs
      cases hs
      exact absurd hdigit (by decide)

/-! ## How parts are split off -/

theorem splitUnit?_eq_some_iff : splitUnit? characters = some (unit, rest) ↔
    characters = unit.text ++ rest ∧ unit.EndsBefore rest := by
  constructor
  · intro h
    unfold splitUnit? at h
    split at h
    · cases h
      exact ⟨rfl, nofun⟩
    · next hlonger =>
        cases h
        refine ⟨rfl, fun _ hs => ?_⟩
        obtain ⟨others, rfl⟩ := List.head?_eq_some_iff.mp hs
        exact hlonger others rfl
    · cases h
      exact ⟨rfl, nofun⟩
    · cases h
      exact ⟨rfl, nofun⟩
    · cases h
  · rintro ⟨rfl, hends⟩
    cases unit with
    | millisecond => rfl
    | second => rfl
    | hour => rfl
    | minute =>
        have hnot := hends rfl
        cases rest with
        | nil => rfl
        | cons c others =>
            have hc : c ≠ 's' := fun hs => hnot (congrArg some hs)
            show splitUnit? ('m' :: c :: others) = some (.minute, c :: others)
            simp [splitUnit?, hc]

/-- A unit begins neither with a digit nor with a point. -/
theorem head?_unitText {c : Char} (h : (unit.text ++ rest).head? = some c) :
    Text.isDecimalDigit c = false ∧ c ≠ '.' := by
  cases unit <;> cases h <;> decide

/-- Digits in front of something else are told apart from it. -/
theorem takeWhile_digits {digits : List Char} (hdigits : ∀ c ∈ digits, Text.isDecimalDigit c = true)
    (hrest : ∀ c, rest.head? = some c → Text.isDecimalDigit c = false) :
    (digits ++ rest).takeWhile Text.isDecimalDigit = digits ∧
      (digits ++ rest).dropWhile Text.isDecimalDigit = rest := by
  rw [List.takeWhile_append_of_pos hdigits, List.dropWhile_append_of_pos hdigits]
  cases rest with
  | nil => exact ⟨List.append_nil _, rfl⟩
  | cons c others =>
      have hc : ¬ Text.isDecimalDigit c = true := by
        rw [hrest c rfl]
        exact Bool.false_ne_true
      rw [List.takeWhile_cons_of_neg hc, List.dropWhile_cons_of_neg hc, List.append_nil]
      exact ⟨rfl, rfl⟩

theorem splitFraction?_append (hdigits : ∀ c ∈ fraction, Text.isDecimalDigit c = true)
    (hrest : ∀ c, rest.head? = some c → Text.isDecimalDigit c = false ∧ c ≠ '.') :
    splitFraction? (pointed fraction ++ rest) = some (fraction, rest) := by
  cases fraction with
  | nil =>
      show splitFraction? rest = some ([], rest)
      unfold splitFraction?
      split
      · exact absurd rfl (hrest '.' rfl).2
      · rfl
  | cons digit others =>
      obtain ⟨htaken, hdropped⟩ := takeWhile_digits hdigits fun c hc => (hrest c hc).1
      show splitFraction? ('.' :: (digit :: others ++ rest)) = some (digit :: others, rest)
      simp only [splitFraction?, htaken, hdropped]
      rfl

theorem of_splitFraction?_eq_some (h : splitFraction? characters = some (fraction, rest)) :
    (∀ c ∈ fraction, Text.isDecimalDigit c = true) ∧ characters = pointed fraction ++ rest := by
  unfold splitFraction? at h
  split at h
  · next behind =>
      simp only at h
      split at h
      · cases h
      · next hsome =>
          obtain ⟨rfl, rfl⟩ := Prod.mk.inj (Option.some.inj h)
          refine ⟨fun c hc => Text.condition_of_mem_takeWhile hc, ?_⟩
          rw [pointed, if_neg hsome, List.cons_append, List.takeWhile_append_dropWhile]
  · cases h
    exact ⟨nofun, rfl⟩

theorem splitPart?_eq_some_iff : splitPart? characters = some (part, rest) ↔
    part.Proper ∧ part.unit.EndsBefore rest ∧ characters = part.text ++ rest := by
  constructor
  · intro h
    simp only [splitPart?] at h
    split at h
    · cases h
    · next hwhole =>
        obtain ⟨⟨fraction, afterFraction⟩, hfraction, h⟩ := Option.bind_eq_some_iff.mp h
        obtain ⟨⟨unit, afterUnit⟩, hunit, h⟩ := Option.bind_eq_some_iff.mp h
        cases h
        obtain ⟨hdigits, hpointed⟩ := of_splitFraction?_eq_some hfraction
        obtain ⟨htext, hends⟩ := splitUnit?_eq_some_iff.mp hunit
        have hbehind : afterFraction = unit.text ++ afterUnit := htext
        refine ⟨⟨by simpa using hwhole, fun c hc => Text.condition_of_mem_takeWhile hc, hdigits⟩,
          hends, ?_⟩
        calc characters
            = characters.takeWhile Text.isDecimalDigit ++
                characters.dropWhile Text.isDecimalDigit := List.takeWhile_append_dropWhile.symm
          _ = Part.text ⟨characters.takeWhile Text.isDecimalDigit, fraction, unit⟩ ++
              afterUnit := by
            rw [hpointed, hbehind, Part.text_eq, Part.number]
            simp only [List.append_assoc]
  · rintro ⟨hproper, hends, rfl⟩
    have htext : part.text ++ rest =
        part.whole ++ (pointed part.fraction ++ (part.unit.text ++ rest)) := by
      rw [Part.text_eq, Part.number, List.append_assoc, List.append_assoc]
    have hunit : ∀ c, (part.unit.text ++ rest).head? = some c →
        Text.isDecimalDigit c = false ∧ c ≠ '.' := fun c hc => head?_unitText hc
    have hbehind : ∀ c, (pointed part.fraction ++ (part.unit.text ++ rest)).head? = some c →
        Text.isDecimalDigit c = false := by
      intro c hc
      unfold pointed at hc
      split at hc
      · exact (hunit c hc).1
      · cases hc
        decide
    obtain ⟨hwhole, hdropped⟩ := takeWhile_digits hproper.whole_digits hbehind
    have hne : part.whole.isEmpty = false := List.isEmpty_eq_false_iff.mpr hproper.whole_ne_nil
    have hsplitUnit := splitUnit?_eq_some_iff.mpr ⟨rfl, hends⟩
    simp only [splitPart?, htext, hwhole, hdropped, hne, Bool.false_eq_true, if_false,
      splitFraction?_append hproper.fraction_digits hunit, Option.bind_eq_bind, Option.bind_some,
      hsplitUnit]
    rfl

theorem of_partsWithin?_eq_some {bound : ℕ} (h : partsWithin? bound characters = some parts) :
    (∀ part ∈ parts, part.Proper) ∧ characters = parts.flatMap Part.text := by
  induction bound generalizing characters parts with
  | zero =>
      cases characters with
      | nil =>
          cases h
          exact ⟨nofun, rfl⟩
      | cons c rest => cases h
  | succ bound ih =>
      cases characters with
      | nil =>
          cases h
          exact ⟨nofun, rfl⟩
      | cons c rest =>
          rw [partsWithin?] at h
          · obtain ⟨⟨part, behind⟩, hpart, h⟩ := Option.bind_eq_some_iff.mp h
            obtain ⟨others, hothers, h⟩ := Option.bind_eq_some_iff.mp h
            cases h
            obtain ⟨hproper, -, htext⟩ := splitPart?_eq_some_iff.mp hpart
            obtain ⟨hall, hbehind⟩ := ih hothers
            refine ⟨List.forall_mem_cons.mpr ⟨hproper, hall⟩, ?_⟩
            rw [htext, List.flatMap_cons, hbehind]
          · exact nofun

theorem partsWithin?_flatMap {bound : ℕ} (hproper : ∀ part ∈ parts, part.Proper)
    (hbound : parts.length ≤ bound) :
    partsWithin? bound (parts.flatMap Part.text) = some parts := by
  induction parts generalizing bound with
  | nil => cases bound <;> rfl
  | cons part parts ih =>
      obtain ⟨bound, rfl⟩ : ∃ fewer, bound = fewer + 1 :=
        Nat.exists_eq_succ_of_ne_zero (by rw [List.length_cons] at hbound; omega)
      obtain ⟨hpart, hparts⟩ := List.forall_mem_cons.mp hproper
      have hsplit : splitPart? (part.text ++ parts.flatMap Part.text) =
          some (part, parts.flatMap Part.text) :=
        splitPart?_eq_some_iff.mpr ⟨hpart, endsBefore_flatMap _ hparts, rfl⟩
      have hrest : partsWithin? bound (parts.flatMap Part.text) = some parts :=
        ih hparts (Nat.le_of_succ_le_succ hbound)
      rw [List.flatMap_cons, partsWithin?, hsplit]
      · simp only [Option.bind_eq_bind, Option.bind_some, hrest]
        rfl
      · intro hnil
        exact hpart.text_ne_nil (List.append_eq_nil_iff.mp hnil).1

theorem length_le_length_flatMap (hproper : ∀ part ∈ parts, part.Proper) :
    parts.length ≤ (parts.flatMap Part.text).length := by
  induction parts with
  | nil => exact Nat.le_refl _
  | cons part parts ih =>
      obtain ⟨hpart, hparts⟩ := List.forall_mem_cons.mp hproper
      have hpositive : 0 < part.text.length := List.length_pos_iff.mpr hpart.text_ne_nil
      have hfewer := ih hparts
      rw [List.flatMap_cons, List.length_append, List.length_cons]
      omega

/-- **The parts that are read are those that are written.** -/
theorem parts?_eq_some_iff : parts? characters = some parts ↔ Writes parts characters := by
  unfold parts?
  constructor
  · intro h
    split at h
    · cases h
    · next hne =>
        obtain ⟨hproper, htext⟩ := of_partsWithin?_eq_some h
        refine ⟨?_, hproper, htext⟩
        rintro rfl
        exact hne (by rw [htext]; rfl)
  · rintro ⟨hne, hproper, rfl⟩
    obtain ⟨part, others, rfl⟩ := List.exists_cons_of_ne_nil hne
    have htext : ((part :: others).flatMap Part.text).isEmpty = false := by
      rw [List.isEmpty_eq_false_iff, List.flatMap_cons]
      exact List.append_ne_nil_of_left_ne_nil (hproper part List.mem_cons_self).text_ne_nil _
    rw [htext, if_neg Bool.false_ne_true]
    exact partsWithin?_flatMap hproper (length_le_length_flatMap hproper)

theorem Writes.unique {other : List Part} (h : Writes parts characters)
    (hother : Writes other characters) : parts = other := by
  have hparts := parts?_eq_some_iff.mpr h
  rw [parts?_eq_some_iff.mpr hother] at hparts
  exact (Option.some.inj hparts).symm

/-! ## The two patterns -/

open Pattern

/-- Digits in a row. -/
def digitsPattern : Pattern := atLeastOne (one Text.isDecimalDigit)

/-- Digits, and perhaps a point with more digits. -/
def numberPattern : Pattern := row [digitsPattern, optional (row [only '.', digitsPattern])]

/-- A unit, rather a millisecond than a minute. -/
def unitPattern : Pattern := anyOf [row [only 'm', only 's'], only 's', only 'm', only 'h']

/-- The pattern of durations. -/
def durationPattern : Pattern := row [atLeastOne (row [numberPattern, unitPattern]), textEnd]

/-- The pattern of a part, whose number and unit are marked. -/
def partPattern : Pattern := row [marked numberPattern, marked unitPattern]

open scoped Computability in
theorem spells_digitsPattern :
    digitsPattern.Spells {text | text ≠ [] ∧ ∀ c ∈ text, Text.isDecimalDigit c = true} := by
  have hlanguage : {text | text ≠ [] ∧ ∀ c ∈ text, Text.isDecimalDigit c = true} =
      singles Text.isDecimalDigit * (singles Text.isDecimalDigit)∗ :=
    Set.ext fun text => mem_singles_mul_kstar.symm
  rw [hlanguage]
  exact (spells_one _).atLeastOne

theorem spells_numberPattern :
    numberPattern.Spells {text | ∃ part : Part, part.Proper ∧ text = part.number} := by
  have hspells := spells_digitsPattern.chain
    (((spells_only '.').chain spells_digitsPattern).optional)
  refine (congrArg _ (Set.ext fun text => ?_)).mp hspells
  constructor
  · intro htext
    obtain ⟨whole, ⟨hne, hwhole⟩, behind, hbehind, rfl⟩ := Language.mem_mul.mp htext
    rcases hbehind with hbehind | rfl
    · obtain ⟨_, rfl, fraction, ⟨hfraction, hdigits⟩, rfl⟩ := Language.mem_mul.mp hbehind
      refine ⟨⟨whole, fraction, .second⟩, ⟨hne, hwhole, hdigits⟩, ?_⟩
      rw [Part.number, pointed, if_neg (by simpa using hfraction)]
      rfl
    · exact ⟨⟨whole, [], .second⟩, ⟨hne, hwhole, nofun⟩, rfl⟩
  · rintro ⟨part, hproper, rfl⟩
    refine Language.append_mem_mul ⟨hproper.whole_ne_nil, hproper.whole_digits⟩ ?_
    unfold pointed
    split
    · exact Or.inr rfl
    · next hfraction =>
        exact Or.inl (Language.append_mem_mul (a := ['.']) rfl
          ⟨by simpa using hfraction, hproper.fraction_digits⟩)

theorem spells_unitPattern :
    unitPattern.Spells {text | ∃ unit : TimeUnit, text = unit.text} := by
  have hspells := ((spells_only 'm').chain (spells_only 's')).choice
    ((spells_only 's').choice ((spells_only 'm').choice (spells_only 'h')))
  refine (congrArg _ (Set.ext fun text => ?_)).mp hspells
  constructor
  · rintro (hlonger | rfl | rfl | rfl)
    · obtain ⟨_, rfl, _, rfl, rfl⟩ := Language.mem_mul.mp hlonger
      exact ⟨.millisecond, rfl⟩
    · exact ⟨.second, rfl⟩
    · exact ⟨.minute, rfl⟩
    · exact ⟨.hour, rfl⟩
  · rintro ⟨unit, rfl⟩
    cases unit with
    | millisecond => exact Or.inl (Language.append_mem_mul (a := ['m']) (b := ['s']) rfl rfl)
    | second => exact Or.inr (Or.inl rfl)
    | minute => exact Or.inr (Or.inr (Or.inl rfl))
    | hour => exact Or.inr (Or.inr (Or.inr rfl))

/-- The texts of proper parts. -/
def partTexts : Language Char := {text | ∃ part : Part, part.Proper ∧ text = part.text}

theorem spells_part : (row [numberPattern, unitPattern]).Spells partTexts := by
  refine (congrArg _ (Set.ext fun text => ?_)).mp (spells_numberPattern.chain spells_unitPattern)
  constructor
  · intro htext
    obtain ⟨_, ⟨part, hproper, rfl⟩, _, ⟨unit, rfl⟩, rfl⟩ := Language.mem_mul.mp htext
    exact ⟨{ part with unit },
      ⟨hproper.whole_ne_nil, hproper.whole_digits, hproper.fraction_digits⟩, rfl⟩
  · rintro ⟨part, hproper, rfl⟩
    exact Language.append_mem_mul ⟨part, hproper, rfl⟩ ⟨part.unit, rfl⟩

open scoped Computability in
theorem mem_partTexts_kstar : characters ∈ partTexts∗ ↔
    ∃ parts : List Part, (∀ part ∈ parts, part.Proper) ∧ characters = parts.flatMap Part.text := by
  rw [Language.mem_kstar]
  constructor
  · rintro ⟨rounds, rfl, hrounds⟩
    induction rounds with
    | nil => exact ⟨[], nofun, rfl⟩
    | cons round rounds ih =>
        obtain ⟨⟨part, hproper, rfl⟩, hothers⟩ := List.forall_mem_cons.mp hrounds
        obtain ⟨parts, hparts, htext⟩ := ih hothers
        refine ⟨part :: parts, List.forall_mem_cons.mpr ⟨hproper, hparts⟩, ?_⟩
        rw [List.flatten_cons, List.flatMap_cons, htext]
  · rintro ⟨parts, hproper, rfl⟩
    refine ⟨parts.map Part.text, List.flatMap_def, List.forall_mem_map.mpr fun part hpart => ?_⟩
    exact ⟨part, hproper part hpart, rfl⟩

/-- The pattern of durations leads past what parts write. -/
theorem spells_parts : (atLeastOne (row [numberPattern, unitPattern])).Spells
    {text | ∃ parts, Writes parts text} := by
  refine (congrArg _ (Set.ext fun text => ?_)).mp spells_part.atLeastOne
  constructor
  · intro htext
    obtain ⟨_, ⟨part, hproper, rfl⟩, _, hothers, rfl⟩ := Language.mem_mul.mp htext
    obtain ⟨parts, hparts, rfl⟩ := mem_partTexts_kstar.mp hothers
    exact ⟨part :: parts, List.cons_ne_nil _ _, List.forall_mem_cons.mpr ⟨hproper, hparts⟩, rfl⟩
  · rintro ⟨parts, hne, hproper, rfl⟩
    obtain ⟨part, others, rfl⟩ := List.exists_cons_of_ne_nil hne
    obtain ⟨hpart, hothers⟩ := List.forall_mem_cons.mp hproper
    exact Language.append_mem_mul ⟨part, hpart, rfl⟩
      (mem_partTexts_kstar.mpr ⟨others, hothers, rfl⟩)

/-- Without a line feed at its end, a text fits the pattern of durations exactly if parts write
it. -/
theorem fits_durationPattern_iff (hfeed : characters.getLast? ≠ some '\n') :
    durationPattern.fits characters = true ↔ ∃ parts, Writes parts characters := by
  refine spells_parts.fits_textEnd_iff.trans ⟨?_, Or.inl⟩
  rintro (hwrites | ⟨taken, -, rfl⟩)
  · exact hwrites
  · rw [List.getLast?_append, List.getLast?_singleton] at hfeed
    exact absurd rfl hfeed

/-! ## The parts that are found -/

/-- A unit is found the way it is split off. -/
theorem go_unitPattern (follow : Place → Place) (place : Place) :
    unitPattern.go (fun stop => some (follow stop)) place =
      (splitUnit? place.rest).map fun found => follow (place.past found.1.text) := by
  obtain ⟨position, previous, rest, marks⟩ := place
  simp only
  unfold splitUnit?
  split
  · rfl
  · next behind hlonger =>
      have hfirst : ∀ c others, behind = c :: others → c ≠ 's' := by
        rintro c others rfl rfl
        exact hlonger others rfl
      cases behind with
      | nil => rfl
      | cons c others =>
          have hc := hfirst c others rfl
          simp [unitPattern, anyOf, row, only, go, Place.step, hc, Place.past, TimeUnit.text]
  · rfl
  · rfl
  · next hlonger hminute hsecond hhour =>
      cases rest with
      | nil => rfl
      | cons c others =>
          have hm : c ≠ 'm' := fun hc => hminute others (by rw [hc])
          have hs : c ≠ 's' := fun hc => hsecond others (by rw [hc])
          have hh : c ≠ 'h' := fun hc => hhour others (by rw [hc])
          simp [unitPattern, anyOf, row, only, go, Place.step, hm, hs, hh]

theorem Part.Proper.number_ne_nil (h : part.Proper) : part.number ≠ [] := by
  unfold Part.number
  exact List.append_ne_nil_of_left_ne_nil h.whole_ne_nil _

theorem TimeUnit.text_ne_nil (unit : TimeUnit) : unit.text ≠ [] := by
  cases unit <;> exact List.cons_ne_nil _ _

/-- A number that the pattern leads past and a unit behind it are the part that is split off. -/
theorem of_takes_numberPattern {place middle : Place} {part : Part} {rest others : List Char}
    {unit : TimeUnit} (hsplit : splitPart? place.rest = some (part, rest))
    (hnumber : numberPattern.Takes place middle)
    (hunit : splitUnit? middle.rest = some (unit, others)) :
    middle = place.past part.number ∧ unit = part.unit := by
  obtain ⟨_, ⟨other, hproper, rfl⟩, hrest, hmiddle⟩ := (spells_numberPattern _ _).mp hnumber
  obtain ⟨htext, hends⟩ := splitUnit?_eq_some_iff.mp hunit
  have hother : splitPart? place.rest = some ({ other with unit }, others) := by
    refine splitPart?_eq_some_iff.mpr ⟨⟨hproper.whole_ne_nil, hproper.whole_digits,
      hproper.fraction_digits⟩, hends, ?_⟩
    rw [hrest, htext, ← List.append_assoc]
    rfl
  rw [hsplit] at hother
  obtain ⟨rfl, -⟩ := Prod.mk.inj (Option.some.inj hother)
  exact ⟨hmiddle, rfl⟩

/-- The place behind a part, with the stretches of its number and its unit marked. -/
def Part.behind (part : Part) (place : Place) : Place :=
  let numbered := (place.past part.number).mark place.position
  (numbered.past part.unit.text).mark numbered.position

theorem Part.length_text (part : Part) :
    part.text.length = part.number.length + part.unit.text.length := by
  rw [Part.text_eq, List.length_append]

theorem Part.position_behind (part : Part) (place : Place) :
    (part.behind place).position = place.position + part.text.length := by
  have hnumbered : ((place.past part.number).mark place.position).position =
      place.position + part.number.length := Place.position_mark _
  rw [Part.behind, Place.position_mark, Part.length_text, ← Nat.add_assoc, ← hnumbered]
  rfl

theorem Part.Proper.marks_behind (h : part.Proper) (place : Place) :
    (part.behind place).marks =
      ⟨place.position + part.number.length, place.position + part.text.length⟩ ::
        ⟨place.position, place.position + part.number.length⟩ :: place.marks := by
  have hnumberLength := List.length_pos_iff.mpr h.number_ne_nil
  have hunitLength := List.length_pos_iff.mpr part.unit.text_ne_nil
  have hlength := part.length_text
  rw [Part.behind]
  generalize hnumbered : (place.past part.number).mark place.position = numbered
  have hposition : numbered.position = place.position + part.number.length := by
    rw [← hnumbered]
    exact Place.position_mark _
  have hmarks : numbered.marks =
      ⟨place.position, place.position + part.number.length⟩ :: place.marks := by
    rw [← hnumbered, Place.marks_mark]
    · rfl
    · show place.position < place.position + part.number.length
      omega
  have hstop : (numbered.past part.unit.text).position = place.position + part.text.length := by
    show numbered.position + part.unit.text.length = _
    omega
  have hlt : numbered.position < (numbered.past part.unit.text).position := by omega
  rw [Place.marks_mark hlt, hstop, hposition, ← hmarks]
  rfl

/-- **The pattern of a part finds the part that is split off.** -/
theorem end?_partPattern {place : Place} (h : splitPart? place.rest = some (part, rest)) :
    partPattern.end? place = some (part.behind place) := by
  obtain ⟨hproper, hends, htext⟩ := splitPart?_eq_some_iff.mp h
  rw [Part.text_eq, List.append_assoc] at htext
  have hbehind := Place.rest_past htext
  -- what follows the number is the unit, whose stretch is marked after that of the number
  have hfollow (stop : Place) : (marked unitPattern).go some (stop.mark place.position) =
      (splitUnit? stop.rest).map fun found =>
        ((stop.mark place.position).past found.1.text).mark
          (stop.mark place.position).position := by
    rw [go, go_unitPattern, Place.rest_mark]
  have hnumber : numberPattern.Takes place (place.past part.number) := by
    refine (spells_numberPattern _ _).mpr ⟨_, ⟨part, hproper, rfl⟩, ?_, rfl⟩
    rw [hbehind]
    exact htext
  have hsome : (partPattern.end? place).isSome := by
    refine (realizes_go numberPattern).complete hnumber ?_
    show ((marked unitPattern).go some ((place.past part.number).mark place.position)).isSome
    rw [hfollow, hbehind, splitUnit?_eq_some_iff.mpr ⟨rfl, hends⟩]
    rfl
  obtain ⟨stop, hstop⟩ := Option.isSome_iff_exists.mp hsome
  obtain ⟨middle, htakes, hunit⟩ := (realizes_go numberPattern).sound hstop
  obtain ⟨⟨unit, others⟩, hsplit, hmarked⟩ :=
    Option.map_eq_some_iff.mp ((hfollow middle).symm.trans hunit)
  obtain ⟨rfl, rfl⟩ := of_takes_numberPattern h htakes hsplit
  rw [hstop, ← hmarked]
  rfl

/-! ## The whole text -/

/-- Looking for parts finds the ones that a text consists of, in their order; of each the later mark
comes first. -/
theorem map_textIn_marksAfter (front : List Char) (previous : Option Char)
    (hproper : ∀ part ∈ parts, part.Proper) :
    (marksAfter partPattern front.length previous 0 (parts.flatMap Part.text)).map
        (Span.textIn (front ++ parts.flatMap Part.text)) =
      parts.flatMap fun part => [part.unit.text, part.number] := by
  induction parts generalizing front previous with
  | nil => rfl
  | cons part parts ih =>
      obtain ⟨hpart, hparts⟩ := List.forall_mem_cons.mp hproper
      have hsplit : splitPart? (part.text ++ parts.flatMap Part.text) =
          some (part, parts.flatMap Part.text) :=
        splitPart?_eq_some_iff.mpr ⟨hpart, endsBefore_flatMap _ hparts, rfl⟩
      let place : Place :=
        { position := front.length, previous, rest := part.text ++ parts.flatMap Part.text }
      have hstop : partPattern.end? place = some (part.behind place) := end?_partPattern hsplit
      have hnumber : front ++ (part.text ++ parts.flatMap Part.text) =
          front ++ (part.number ++ (part.unit.text ++ parts.flatMap Part.text)) := by
        rw [Part.text_eq, List.append_assoc]
      have hunit : front ++ (part.text ++ parts.flatMap Part.text) =
          front ++ part.number ++ (part.unit.text ++ parts.flatMap Part.text) := by
        rw [hnumber, List.append_assoc]
      have hlater := ih (front ++ part.text) (part.text.getLast?.or previous) hparts
      rw [List.length_append, List.append_assoc] at hlater
      rw [List.flatMap_cons, List.flatMap_cons,
        marksAfter_of_end? hpart.text_ne_nil hstop (part.position_behind place),
        hpart.marks_behind, List.map_append, hlater]
      congr 1
      show [Span.textIn _ ⟨front.length + part.number.length, front.length + part.text.length⟩,
        Span.textIn _ ⟨front.length, front.length + part.number.length⟩] = _
      congr 1
      · rw [hunit, Part.text_eq, List.length_append, ← Nat.add_assoc, ← List.length_append]
        exact Span.textIn_append ..
      · rw [hnumber, Span.textIn_append]

/-- **The whole text of a duration is read.**  A text between blank characters is a duration
exactly if proper parts write it.

* The parts are the only ones, and the pattern of durations fits the same texts.
* Looking for parts, one behind another, finds these parts in their order, the number and the unit
  of each.
* The duration is the sum of the parts from left to right, each its amount times its unit.
* Every other text is malformed. -/
theorem reads_whole_text {text : String} {characters : List Char}
    (h : Text.Surrounds Text.isBlank text.toList characters) :
    ((parse? text).isSome = true ↔ ∃ parts, Writes parts characters) ∧
    durationPattern.fits characters = (parse? text).isSome ∧
    (∀ parts other, Writes parts characters → Writes other characters → parts = other) ∧
    (∀ parts, Writes parts characters →
      (partPattern.marks characters).map (Span.textIn characters) =
        (parts.flatMap fun part => [part.unit.text, part.number]) ∧
      parse? text = some (parts.foldl
        (fun sum part => sum.add (part.amount.mul part.unit.seconds)) Binary64.zero)) ∧
    ((¬ ∃ parts, Writes parts characters) →
      parse? text = none ∧ Duration.ofValue (.text text) = .error (.malformed text)) := by
  have hparse : parse? text = (parts? characters).map total := by
    rw [parse?, Text.trim, String.toList_ofList, Text.stripWhile_eq_iff.mpr h]
  have hread : (parse? text).isSome = true ↔ ∃ parts, Writes parts characters := by
    rw [hparse, Option.isSome_map, Option.isSome_iff_exists]
    exact exists_congr fun parts => parts?_eq_some_iff
  have hfeed : characters.getLast? ≠ some '\n' := fun hlast => by
    have hblank := h.last _ hlast
    revert hblank
    decide
  refine ⟨hread, ?_, fun parts other hparts hother => hparts.unique hother,
    fun parts hparts => ⟨?_, ?_⟩, fun hnone => ?_⟩
  · rw [Bool.eq_iff_iff, hread]
    exact fits_durationPattern_iff hfeed
  · rw [hparts.text_eq]
    exact map_textIn_marksAfter [] none hparts.proper
  · rw [hparse, parts?_eq_some_iff.mpr hparts]
    rfl
  · have hfailed : parse? text = none := by
      rw [← Option.not_isSome_iff_eq_none, hread]
      exact hnone
    refine ⟨hfailed, ?_⟩
    have hwritable : (Value.text text).isWritable = true := rfl
    have hshown : (Value.text text).shown = text := rfl
    rw [Duration.ofValue, hwritable, hshown, hfailed]
    rfl

end Duration

/-! ## Some durations -/

namespace Sample

open Duration

/-- An hour and five milliseconds, with blank characters around them, and five milliseconds that are
torn apart. -/
theorem hourAndMilliseconds_read :
    parse? " 1h5.0ms\n" = some ((Binary64.zero.add
      ((Binary64.ofDecimal 1 0).mul TimeUnit.hour.seconds)).add
      ((Binary64.ofDecimal 50 (-1)).mul TimeUnit.millisecond.seconds)) ∧
    (∀ parts, Writes parts "1h5.0ms".toList →
      parts = [⟨['1'], [], .hour⟩, ⟨['5'], ['0'], .millisecond⟩]) ∧
    Duration.ofValue (.text "5.0m s") = .error (.malformed "5.0m s") := by
  have hblank : Text.Surrounds Text.isBlank " 1h5.0ms\n".toList "1h5.0ms".toList :=
    Text.trim_eq_iff.mp (by decide +kernel)
  have hwritten : Writes [⟨['1'], [], .hour⟩, ⟨['5'], ['0'], .millisecond⟩] "1h5.0ms".toList :=
    parts?_eq_some_iff.mp (by decide +kernel)
  obtain ⟨-, -, hunique, hread, -⟩ := reads_whole_text hblank
  have htorn : Text.Surrounds Text.isBlank "5.0m s".toList "5.0m s".toList :=
    Text.trim_eq_iff.mp (by decide +kernel)
  obtain ⟨-, -, -, -, hmalformed⟩ := reads_whole_text htorn
  refine ⟨(hread _ hwritten).2, fun parts hparts => hunique _ _ hparts hwritten, ?_⟩
  refine (hmalformed ?_).2
  rintro ⟨parts, hparts⟩
  have hnone : parts? "5.0m s".toList = none := by decide +kernel
  rw [parts?_eq_some_iff.mpr hparts] at hnone
  cases hnone

end Sample

end ResourceGraph
