import Mathlib
import ResourceGraph.Number.Integer

/-!
# The grammar of decimal integers

A decimal integer is written in more ways than one.  Its digits may come from any script and in
groups with single underscores between them, zeros may lead, a sign may stand in front, and blank
characters around it all (`WritesInteger`).  The reader takes exactly what is so written
(`readInteger_eq_ok_iff`).

The reader goes through the characters one by one and knows only whether a digit must come next.
What it has before it is then the end of a group and further groups; if a digit must come next,
this end is not empty.  The induction is on the characters with this left open
(`splitDigits?_eq_some_iff`).
-/

namespace ResourceGraph.Number

/-- The sign in front of an integer, if there is one. -/
inductive Sign where
  | none
  | plus
  | minus
deriving DecidableEq, Repr

/-- The characters of a sign. -/
def Sign.text : Sign → List Char
  | none => []
  | plus => ['+']
  | minus => ['-']

/-- A magnitude with a sign. -/
def Sign.apply : Sign → ℕ → ℤ
  | minus, magnitude => -magnitude
  | _, magnitude => magnitude

/-- Groups of digits, each with at least one. -/
def AreGroups (groups : List (List Char)) : Prop :=
  ∀ group ∈ groups, group ≠ [] ∧ ∀ c ∈ group, Text.isDecimalDigit c = true

/-- A decimal integer as it is written. -/
structure Literal where
  sign : Sign
  groups : List (List Char)
deriving DecidableEq, Repr

namespace Literal

/-- The characters of a written integer. -/
def text (literal : Literal) : List Char := literal.sign.text ++ ['_'].intercalate literal.groups

/-- The digits of a written integer. -/
def digits (literal : Literal) : List Char := literal.groups.flatten

/-- The integer that is written. -/
def value (literal : Literal) : ℤ := literal.sign.apply (Text.decimalValue literal.digits)

/-- A written integer has digits, in groups, and not too many of them. -/
structure Proper (literal : Literal) : Prop where
  groups_ne_nil : literal.groups ≠ []
  areGroups : AreGroups literal.groups
  short : literal.digits.length ≤ integerDigitLimit

end Literal

/-- A text writes an integer, perhaps with blank characters around it. -/
def WritesInteger (text : String) (value : ℤ) : Prop :=
  ∃ literal : Literal, literal.Proper ∧ literal.value = value ∧
    Text.Surrounds Text.surroundsNumber text.toList literal.text

variable {text : String} {value : ℤ} {characters group : List Char} {c : Char}
  {groups : List (List Char)} {values : List ℕ}

/-! ## Digits -/

theorem lt_ten_of_digitValue? {digit : ℕ} (h : Text.digitValue? c = some digit) : digit < 10 := by
  obtain ⟨start, hstart, rfl⟩ := Option.map_eq_some_iff.mp h
  have hrange := List.find?_some hstart
  rw [Bool.and_eq_true, decide_eq_true_eq, decide_eq_true_eq] at hrange
  omega

/-- In base ten no letter is a digit. -/
theorem digitIn?_ten (c : Char) : digitIn? 10 c = Text.digitValue? c := by
  rw [digitIn?]
  cases hdigit : Text.digitValue? c with
  | some digit =>
      have hless : decide (digit < 10) = true := decide_eq_true (lt_ten_of_digitValue? hdigit)
      rw [Option.some_or, Option.filter_some, if_pos hless]
  | none =>
      rw [Option.none_or, Option.filter_eq_none_iff]
      intro digit hletter hless
      have hless : digit < 10 := of_decide_eq_true hless
      unfold hexadecimalDigit? at hletter
      split at hletter
      · next hplain =>
          rw [Text.digitValue?_of_isDigit hplain] at hdigit
          cases hdigit
      · split at hletter
        · cases hletter
          omega
        · split at hletter
          · cases hletter
            omega
          · cases hletter

theorem isDecimalDigit_eq_false_iff :
    Text.isDecimalDigit c = false ↔ Text.digitValue? c = none := by
  rw [Text.isDecimalDigit, Option.isSome_eq_false_iff, Option.isNone_iff_eq_none]

theorem not_isDecimalDigit_underscore : Text.isDecimalDigit '_' = false := by decide

/-- The values of digits. -/
def digitValues (digits : List Char) : List ℕ := digits.map fun c => (Text.digitValue? c).getD 0

theorem positional_digitValues (digits : List Char) :
    positional 10 (digitValues digits) = Text.decimalValue digits := by
  rw [positional, digitValues, List.foldl_map]
  rfl

/-! ## Groups of digits -/

/-- Some characters are the rest of a group and further groups behind it, with the values of all
their digits; a pending rest has a digit. -/
def Continues (pending : Bool) (characters : List Char) (values : List ℕ) : Prop :=
  ∃ head groups, (pending = true → head ≠ []) ∧
    (∀ c ∈ head, Text.isDecimalDigit c = true) ∧ AreGroups groups ∧
    characters = ['_'].intercalate (head :: groups) ∧
    values = digitValues (head ++ groups.flatten)

theorem intercalate_head_cons (c : Char) (head : List Char) (groups : List (List Char)) :
    ['_'].intercalate ((c :: head) :: groups) = c :: ['_'].intercalate (head :: groups) := by
  cases groups <;> simp [List.intercalate]

theorem intercalate_head_nil (group : List Char) (groups : List (List Char)) :
    ['_'].intercalate ([] :: group :: groups) = '_' :: ['_'].intercalate (group :: groups) := by
  simp [List.intercalate]

theorem continues_nil {pending : Bool} :
    Continues pending [] values ↔ pending = false ∧ values = [] := by
  constructor
  · rintro ⟨head, groups, hpending, -, -, htext, rfl⟩
    cases head with
    | cons c head =>
        rw [intercalate_head_cons] at htext
        cases htext
    | nil =>
        cases groups with
        | cons group groups =>
            rw [intercalate_head_nil] at htext
            cases htext
        | nil =>
            refine ⟨?_, rfl⟩
            cases pending with
            | false => rfl
            | true => exact absurd rfl (hpending rfl)
  · rintro ⟨rfl, rfl⟩
    exact ⟨[], [], nofun, nofun, nofun, rfl, rfl⟩

theorem continues_digit {pending : Bool} {digit : ℕ} (hdigit : Text.digitValue? c = some digit) :
    Continues pending (c :: characters) values ↔
      ∃ others, Continues false characters others ∧ values = digit :: others := by
  have hc : Text.isDecimalDigit c = true := Option.isSome_iff_exists.mpr ⟨digit, hdigit⟩
  constructor
  · rintro ⟨head, groups, -, hhead, hgroups, htext, rfl⟩
    cases head with
    | cons first head =>
        rw [intercalate_head_cons] at htext
        cases htext
        refine ⟨_, ⟨head, groups, nofun, fun d hd => hhead d (List.mem_cons_of_mem _ hd), hgroups,
          rfl, rfl⟩, ?_⟩
        simp [digitValues, hdigit]
    | nil =>
        -- without a digit in front an underscore comes first
        cases groups with
        | cons group groups =>
            rw [intercalate_head_nil] at htext
            cases htext
            rw [not_isDecimalDigit_underscore] at hc
            cases hc
        | nil => cases htext
  · rintro ⟨others, ⟨head, groups, -, hhead, hgroups, rfl, rfl⟩, rfl⟩
    refine ⟨c :: head, groups, fun _ => List.cons_ne_nil _ _,
      List.forall_mem_cons.mpr ⟨hc, hhead⟩, hgroups, (intercalate_head_cons ..).symm, ?_⟩
    simp [digitValues, hdigit]

theorem continues_underscore {pending : Bool} :
    Continues pending ('_' :: characters) values ↔
      pending = false ∧ Continues true characters values := by
  constructor
  · rintro ⟨head, groups, hpending, hhead, hgroups, htext, rfl⟩
    cases head with
    | cons first head =>
        rw [intercalate_head_cons] at htext
        cases htext
        have hunderscore := hhead '_' List.mem_cons_self
        rw [not_isDecimalDigit_underscore] at hunderscore
        cases hunderscore
    | nil =>
        cases groups with
        | nil => cases htext
        | cons group groups =>
            rw [intercalate_head_nil] at htext
            cases htext
            obtain ⟨⟨hne, hgroup⟩, hothers⟩ := List.forall_mem_cons.mp hgroups
            refine ⟨?_, group, groups, fun _ => hne, hgroup, hothers, rfl, rfl⟩
            cases pending with
            | false => rfl
            | true => exact absurd rfl (hpending rfl)
  · rintro ⟨rfl, group, groups, hne, hgroup, hothers, rfl, rfl⟩
    exact ⟨[], group :: groups, nofun, nofun, List.forall_mem_cons.mpr ⟨⟨hne rfl, hgroup⟩, hothers⟩,
      (intercalate_head_nil ..).symm, rfl⟩

theorem not_continues_other {pending : Bool} (hdigit : Text.digitValue? c = none) (hc : c ≠ '_') :
    ¬ Continues pending (c :: characters) values := by
  rintro ⟨head, groups, -, hhead, -, htext, -⟩
  cases head with
  | cons first head =>
      rw [intercalate_head_cons] at htext
      cases htext
      have hfirst := hhead c List.mem_cons_self
      rw [isDecimalDigit_eq_false_iff.mpr hdigit] at hfirst
      cases hfirst
  | nil =>
      cases groups with
      | nil => cases htext
      | cons group groups =>
          rw [intercalate_head_nil] at htext
          cases htext
          exact hc rfl

/-- **Digits are read to the end exactly if they come in groups.** -/
theorem splitDigits?_eq_some_iff {pending : Bool} :
    splitDigits? 10 pending characters = some (values, []) ↔
      Continues pending characters values := by
  induction characters generalizing pending values with
  | nil =>
      rw [continues_nil, splitDigits?]
      cases pending <;> simp [eq_comm]
  | cons c rest ih =>
      rw [splitDigits?, digitIn?_ten]
      cases hdigit : Text.digitValue? c with
      | some digit =>
          rw [continues_digit hdigit]
          simp only [← ih, Option.map_eq_some_iff, Prod.exists, Prod.mk.injEq]
          constructor
          · rintro ⟨others, after, hothers, rfl, rfl⟩
            exact ⟨others, hothers, rfl⟩
          · rintro ⟨others, hothers, rfl⟩
            exact ⟨others, [], hothers, rfl, rfl⟩
      | none =>
          by_cases hc : c = '_'
          · subst hc
            rw [continues_underscore, ← ih]
            cases pending <;> simp
          · cases pending <;> simp [hc, not_continues_other hdigit hc]

theorem continues_true_iff : Continues true characters values ↔
    ∃ groups, groups ≠ [] ∧ AreGroups groups ∧ characters = ['_'].intercalate groups ∧
      values = digitValues groups.flatten := by
  constructor
  · rintro ⟨head, groups, hne, hhead, hgroups, htext, hvalues⟩
    exact ⟨head :: groups, List.cons_ne_nil _ _,
      List.forall_mem_cons.mpr ⟨⟨hne rfl, hhead⟩, hgroups⟩, htext, hvalues⟩
  · rintro ⟨groups, hne, hgroups, htext, hvalues⟩
    obtain ⟨head, others, rfl⟩ := List.exists_cons_of_ne_nil hne
    obtain ⟨⟨hheadNe, hhead⟩, hothers⟩ := List.forall_mem_cons.mp hgroups
    exact ⟨head, others, fun _ => hheadNe, hhead, hothers, htext, hvalues⟩

/-! ## Signs -/

theorem exists_sign (characters : List Char) : ∃ sign : Sign,
    characters = sign.text ++ afterSign characters ∧
      ∀ magnitude, withSign characters magnitude = sign.apply magnitude := by
  unfold afterSign
  split
  · exact ⟨.plus, rfl, fun magnitude => rfl⟩
  · exact ⟨.minus, rfl, fun magnitude => rfl⟩
  · next hminus =>
      refine ⟨.none, rfl, fun magnitude => ?_⟩
      have hhead : characters.head? ≠ some '-' := by
        intro hhead
        obtain ⟨rest, rfl⟩ := List.head?_eq_some_iff.mp hhead
        exact hminus rest rfl
      rw [withSign, if_neg hhead]
      rfl

/-- A sign in front of a digit is told apart from it. -/
theorem afterSign_append (sign : Sign) (hhead : ∀ c, characters.head? = some c →
    Text.isDecimalDigit c = true) :
    afterSign (sign.text ++ characters) = characters ∧
      ∀ magnitude, withSign (sign.text ++ characters) magnitude = sign.apply magnitude := by
  cases sign with
  | plus => exact ⟨rfl, fun magnitude => rfl⟩
  | minus => exact ⟨rfl, fun magnitude => rfl⟩
  | none =>
      have hplus : characters.head? ≠ some '+' := by
        intro hplus
        exact absurd (hhead '+' hplus) (by decide)
      have hminus : characters.head? ≠ some '-' := by
        intro hminus
        exact absurd (hhead '-' hminus) (by decide)
      refine ⟨?_, fun magnitude => ?_⟩
      · show afterSign characters = characters
        unfold afterSign
        split
        · exact absurd rfl hplus
        · exact absurd rfl hminus
        · rfl
      · show withSign characters magnitude = magnitude
        rw [withSign, if_neg hminus]

/-! ## Integers -/

theorem readInteger_eq_ok_iff_splitDigits? : readInteger text = .ok value ↔
    ∃ values, splitDigits? 10 true (afterSign (Text.stripWhile Text.surroundsNumber text.toList)) =
        some (values, []) ∧ values.length ≤ integerDigitLimit ∧
      withSign (Text.stripWhile Text.surroundsNumber text.toList) (positional 10 values) =
        value := by
  rw [readInteger, readIntegerIn]
  simp only [afterBaseMark_ten]
  generalize Text.stripWhile Text.surroundsNumber text.toList = trimmed
  cases hsplit : splitDigits? 10 true (afterSign trimmed) with
  | none => simp
  | some split =>
      obtain ⟨values, after⟩ := split
      by_cases hlong : integerDigitLimit < values.length
      · simp only [hlong, and_self, if_true, reduceCtorEq, Option.some.injEq, Prod.mk.injEq,
          false_iff, not_exists, not_and]
        rintro found ⟨rfl, -⟩ hshort
        omega
      · simp only [hlong, and_false, if_false, Option.some.injEq, Prod.mk.injEq]
        constructor
        · intro h
          split at h
          · next hafter =>
              exact ⟨values, ⟨rfl, List.isEmpty_iff.mp hafter⟩, Nat.not_lt.mp hlong,
                Except.ok.inj h⟩
          · cases h
        · rintro ⟨found, ⟨rfl, rfl⟩, -, rfl⟩
          rfl

/-- **The integers that are read are those that are written.** -/
theorem readInteger_eq_ok_iff : readInteger text = .ok value ↔ WritesInteger text value := by
  rw [readInteger_eq_ok_iff_splitDigits?]
  simp only [splitDigits?_eq_some_iff, continues_true_iff]
  constructor
  · rintro ⟨_, ⟨groups, hne, hgroups, htext, rfl⟩, hshort, hvalue⟩
    obtain ⟨sign, hsigned, hsign⟩ := exists_sign (Text.stripWhile Text.surroundsNumber text.toList)
    rw [hsign, positional_digitValues] at hvalue
    rw [digitValues, List.length_map] at hshort
    refine ⟨⟨sign, groups⟩, ⟨hne, hgroups, hshort⟩, hvalue, Text.stripWhile_eq_iff.mp ?_⟩
    rw [hsigned, htext]
    rfl
  · rintro ⟨literal, hproper, rfl, hsurrounds⟩
    have hhead : ∀ c, (['_'].intercalate literal.groups).head? = some c →
        Text.isDecimalDigit c = true := by
      intro c hc
      obtain ⟨group, others, hgroups⟩ := List.exists_cons_of_ne_nil hproper.groups_ne_nil
      obtain ⟨hne, hdigits⟩ := hproper.areGroups group (by rw [hgroups]; exact List.mem_cons_self)
      obtain ⟨first, rest, rfl⟩ := List.exists_cons_of_ne_nil hne
      rw [hgroups, intercalate_head_cons, List.head?_cons] at hc
      exact Option.some.inj hc ▸ hdigits first List.mem_cons_self
    obtain ⟨hafter, hsign⟩ := afterSign_append literal.sign hhead
    rw [Text.stripWhile_eq_iff.mpr hsurrounds, Literal.text, hafter]
    refine ⟨_, ⟨literal.groups, hproper.groups_ne_nil, hproper.areGroups, rfl, rfl⟩, ?_, ?_⟩
    · rw [digitValues, List.length_map]
      exact hproper.short
    · rw [hsign, positional_digitValues]
      rfl

end ResourceGraph.Number
