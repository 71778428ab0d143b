import ResourceGraph.Number.Limit
import ResourceGraph.Text.Blank
import ResourceGraph.Text.Digit
import ResourceGraph.Text.Quoted

/-!
# Reading integers

An integer is written by digits of any script, with single underscores between them.  A sign may
stand in front, blank characters around the whole, and a base other than ten may be marked by a zero
and a letter.  A decimal integer with too many digits is refused before anything behind its digits
is looked at.
-/

namespace ResourceGraph.Number

/-- Why a text cannot be read as an integer. -/
inductive IntegerFault where
  /-- The text does not write an integer in the base. -/
  | noInteger (text : String) (base : Nat)
  | tooLong (digits : Nat)
deriving DecidableEq, Repr

namespace IntegerFault

/-- How many characters of a text are shown. -/
def shownLength : Nat := 200

/-- The words that explain a fault. -/
def message : IntegerFault → String
  | noInteger text base =>
    "invalid literal for int() with base " ++ toString base ++ ": " ++
      String.ofList ((Text.quoted text).toList.take shownLength)
  | tooLong digits => longIntegerText (some digits)

end IntegerFault

/-- The value of a hexadecimal digit. -/
def hexadecimalDigit? (c : Char) : Option Nat :=
  if c.isDigit then some (c.toNat - '0'.toNat)
  else if 'a' ≤ c && c ≤ 'f' then some (c.toNat - 'a'.toNat + 10)
  else if 'A' ≤ c && c ≤ 'F' then some (c.toNat - 'A'.toNat + 10)
  else none

/-- The value of a character as a digit of a base. -/
def digitIn? (base : Nat) (c : Char) : Option Nat :=
  ((Text.digitValue? c).or (hexadecimalDigit? c)).filter (· < base)

/-- The digits in front of some characters and the characters behind them; `pending` tells whether a
digit must come next.  None where an underscore has no digit on each side, or where there is no
digit. -/
def splitDigits? (base : Nat) (pending : Bool) : List Char → Option (List Nat × List Char)
  | [] => if pending then none else some ([], [])
  | c :: rest =>
    match digitIn? base c with
    | some digit =>
      (splitDigits? base false rest).map fun (digits, after) => (digit :: digits, after)
    | none =>
      if pending then none
      else if c = '_' then splitDigits? base true rest
      else some ([], c :: rest)

/-- The number that digits write in a base, the first one weighing most. -/
def positional (base : Nat) (digits : List Nat) : Nat :=
  digits.foldl (fun value digit => value * base + digit) 0

/-- The letter that marks a base after a zero. -/
def baseMark? : Nat → Option Char
  | 2 => some 'b'
  | 8 => some 'o'
  | 16 => some 'x'
  | _ => none

/-- The characters after the zero and the letter that mark a base, and after an underscore behind
them. -/
def afterBaseMark (base : Nat) : List Char → List Char
  | '0' :: mark :: rest =>
    if baseMark? base != some mark.toLower then '0' :: mark :: rest
    else
      match rest with
      | '_' :: digits => digits
      | digits => digits
  | rest => rest

/-- The characters after a sign. -/
def afterSign : List Char → List Char
  | '+' :: rest => rest
  | '-' :: rest => rest
  | rest => rest

/-- A magnitude with the sign in front of some characters. -/
def withSign (characters : List Char) (magnitude : Nat) : Int :=
  if characters.head? = some '-' then -(magnitude : Int) else magnitude

/-- The integer that a text writes in a base. -/
def readIntegerIn (base : Nat) (text : String) : Except IntegerFault Int :=
  let trimmed := Text.stripWhile Text.surroundsNumber text.toList
  match splitDigits? base true (afterBaseMark base (afterSign trimmed)) with
  | none => .error (.noInteger text base)
  | some (digits, after) =>
    if base = 10 ∧ integerDigitLimit < digits.length then .error (.tooLong digits.length)
    else if after.isEmpty then .ok (withSign trimmed (positional base digits))
    else .error (.noInteger text base)

/-- The decimal integer that a text writes. -/
def readInteger (text : String) : Except IntegerFault Int := readIntegerIn 10 text

/-! ## Laws -/

theorem splitDigits?_of_isDigit {digits : List Char} (hdigits : ∀ c ∈ digits, c.isDigit = true)
    {pending : Bool} (hpending : pending = true → digits ≠ []) :
    splitDigits? 10 pending digits = some (digits.map fun c => c.toNat - '0'.toNat, []) := by
  induction digits generalizing pending with
  | nil =>
      cases pending with
      | true => exact absurd rfl (hpending rfl)
      | false => rfl
  | cons c rest ih =>
      obtain ⟨hc, hrest⟩ := List.forall_mem_cons.mp hdigits
      obtain ⟨hleast, hgreatest⟩ := Text.toNat_of_isDigit hc
      have hsmall : c.toNat - '0'.toNat < 10 := by
        show c.toNat - 48 < 10
        omega
      have hdigit : digitIn? 10 c = some (c.toNat - '0'.toNat) := by
        rw [digitIn?, Text.digitValue?_of_isDigit hc, Option.some_or, Option.filter_some,
          if_pos (decide_eq_true hsmall)]
      have hlater : splitDigits? 10 false rest = some (rest.map fun c => c.toNat - '0'.toNat, []) :=
        ih hrest (fun hfalse => by cases hfalse)
      rw [splitDigits?, hdigit]
      simp only [hlater]
      rfl

theorem afterBaseMark_ten (characters : List Char) : afterBaseMark 10 characters = characters := by
  unfold afterBaseMark
  split <;> rfl

theorem positional_toDigits (number : Nat) :
    positional 10 ((Nat.toDigits 10 number).map fun c => c.toNat - '0'.toNat) = number := by
  have hvalue : Nat.ofDigitChars 10 (Nat.toDigits 10 number) 0 = number :=
    Nat.ofDigitChars_ten_toDigits
  rw [Nat.ofDigitChars_eq_foldl] at hvalue
  rw [positional, List.foldl_map]
  simpa only [Nat.mul_comm] using hvalue

theorem surroundsNumber_of_isDigit {c : Char} (hdigit : c.isDigit = true) :
    Text.surroundsNumber c = false := by
  obtain ⟨hleast, hgreatest⟩ := Text.toNat_of_isDigit hdigit
  have hscattered : c.toNat ∉ Text.scatteredBlanks := by
    simp only [Text.scatteredBlanks, List.mem_cons, List.not_mem_nil, or_false]
    omega
  have hnone : Text.scatteredBlanks.contains c.toNat = false := by
    rw [← Bool.not_eq_true, List.contains_iff_mem]
    exact hscattered
  have hblank : Text.isBlank c = false := by
    simp only [Text.isBlank, hnone, Bool.or_false, Bool.or_eq_false_iff, Bool.and_eq_false_iff,
      decide_eq_false_iff_not]
    omega
  rw [Text.surroundsNumber, hblank, Bool.false_and]

/-- Plain digits are read as they are, unless there are too many. -/
theorem readInteger_ofList {digits : List Char} (hdigits : ∀ c ∈ digits, c.isDigit = true)
    (hne : digits ≠ []) : readInteger (String.ofList digits) =
      if integerDigitLimit < digits.length then .error (.tooLong digits.length)
      else .ok (positional 10 (digits.map fun c => c.toNat - '0'.toNat)) := by
  have hplain : ∀ c ∈ digits, Text.surroundsNumber c = false :=
    fun c hc => surroundsNumber_of_isDigit (hdigits c hc)
  have htrimmed : Text.stripWhile Text.surroundsNumber digits = digits := by
    refine Text.stripWhile_eq_iff.mpr ⟨⟨[], [], (List.append_nil _).symm, nofun, nofun⟩, ?_, ?_⟩
    · exact fun c hc => hplain c (List.mem_of_mem_head? hc)
    · exact fun c hc => hplain c (List.mem_of_getLast? hc)
  have hsign : afterSign digits = digits ∧ digits.head? ≠ some '-' := by
    obtain ⟨c, rest, rfl⟩ := List.exists_cons_of_ne_nil hne
    have hc := hdigits c List.mem_cons_self
    refine ⟨?_, ?_⟩
    · unfold afterSign
      split
      · next heq => cases heq; exact absurd hc (by decide)
      · next heq => cases heq; exact absurd hc (by decide)
      · rfl
    · rintro hminus
      cases hminus
      exact absurd hc (by decide)
  have hsplit : splitDigits? 10 true digits = some (digits.map fun c => c.toNat - '0'.toNat, []) :=
    splitDigits?_of_isDigit hdigits fun _ => hne
  rw [readInteger, readIntegerIn]
  simp only [String.toList_ofList, htrimmed, hsign.1, afterBaseMark_ten, hsplit, List.length_map,
    true_and, withSign, hsign.2, if_false, List.isEmpty_nil, if_true]

theorem readInteger_digits (number : Nat) : readInteger (toString number) =
    if number < leastLong then .ok number
    else .error (.tooLong (Nat.toDigits 10 number).length) := by
  have hdigits : ∀ c ∈ Nat.toDigits 10 number, c.isDigit = true :=
    fun c hc => Nat.isDigit_of_mem_toDigits (by decide) (by decide) hc
  have hlength : integerDigitLimit < (Nat.toDigits 10 number).length ↔ ¬ number < leastLong := by
    have hlimit : 0 < integerDigitLimit := by decide
    unfold leastLong
    generalize integerDigitLimit = limit at hlimit ⊢
    rw [← Nat.not_le]
    exact not_congr (Nat.length_toDigits_le_iff (by decide) hlimit)
  rw [Nat.toString_eq_ofList_toDigits, readInteger_ofList hdigits Nat.toDigits_ne_nil,
    positional_toDigits]
  by_cases hshort : number < leastLong
  · rw [if_pos hshort, if_neg (fun hlong => hlength.mp hlong hshort)]
  · rw [if_neg hshort, if_pos (hlength.mpr hshort)]

/-- **An integer reads back from its decimal digits**, unless there are too many. -/
theorem readInteger_toString {number : Nat} (hshort : number < leastLong) :
    readInteger (toString number) = .ok number := by
  rw [readInteger_digits, if_pos hshort]

end ResourceGraph.Number
