import Mathlib
import ResourceGraph.Number.Binary64

/-!
# Numbers that are the same key

The encoding of a number is determined by its absolute value and its sign (`fields_eq`,
`eq_of_fields_eq`), because a normal significand has its leading bit in a fixed place and the others
share the least exponent.  So two numbers that are the same integer have the same encoding, unless
they are zeros of different signs, which count as the same key.
-/

namespace ResourceGraph

namespace Binary64

variable {number left right : Binary64} {value : ℤ}

/-! ## Encodings -/

theorem isNegative_iff : number.isNegative = true ↔ number.bits.toNat / 2 ^ 63 = 1 := by
  rw [isNegative, beq_iff_eq, ← UInt64.toNat_inj, UInt64.toNat_shiftRight]
  simp [Nat.shiftRight_eq_div_pow]

theorem exponentField_eq : number.exponentField = number.bits.toNat / 2 ^ 52 % 2 ^ 11 := by
  simp [exponentField, UInt64.toNat_shiftRight, Nat.shiftRight_eq_div_pow]

theorem eq_of_fields_eq (hsign : left.isNegative = right.isNegative)
    (hexponent : left.exponentField = right.exponentField)
    (hfraction : left.fractionField = right.fractionField) : left = right := by
  have hsigns : left.bits.toNat / 2 ^ 63 = 1 ↔ right.bits.toNat / 2 ^ 63 = 1 := by
    rw [← isNegative_iff, ← isNegative_iff, hsign]
  have hleft := left.bits.toNat_lt
  have hright := right.bits.toNat_lt
  rw [exponentField_eq, exponentField_eq] at hexponent
  unfold fractionField at hfraction
  have hbits : left.bits.toNat = right.bits.toNat := by omega
  calc left = ⟨left.bits⟩ := rfl
    _ = ⟨right.bits⟩ := by rw [UInt64.toNat_inj.mp hbits]

theorem significand_lt (number : Binary64) : number.significand < 2 ^ 53 := by
  unfold significand fractionField
  split <;> omega

theorem le_significand (h : number.exponentField ≠ 0) : 2 ^ 52 ≤ number.significand := by
  unfold significand
  rw [if_neg h]
  omega

theorem significand_lt_of_eq_zero (h : number.exponentField = 0) : number.significand < 2 ^ 52 := by
  unfold significand fractionField
  rw [if_pos h]
  omega

/-! ## Absolute values -/

/-- The absolute value of a finite number. -/
def magnitude (number : Binary64) : ℚ := number.significand * 2 ^ number.exponent

/-- Of two numbers of the same absolute value none has a smaller exponent than a normal one. -/
theorem exponent_le (h : left.magnitude = right.magnitude) (hnormal : right.exponentField ≠ 0) :
    right.exponent ≤ left.exponent := by
  have hupper : left.magnitude < 2 ^ (53 + left.exponent) := by
    rw [magnitude, zpow_add₀ two_ne_zero]
    have hless : (left.significand : ℚ) < 2 ^ (53 : ℤ) := by exact_mod_cast left.significand_lt
    gcongr
  have hlower : 2 ^ (52 + right.exponent) ≤ right.magnitude := by
    rw [magnitude, zpow_add₀ two_ne_zero]
    have hle : (2 : ℚ) ^ (52 : ℤ) ≤ right.significand := by exact_mod_cast le_significand hnormal
    gcongr
  have hpower : (2 : ℚ) ^ (52 + right.exponent) < 2 ^ (53 + left.exponent) :=
    lt_of_le_of_lt (hlower.trans_eq h.symm) hupper
  have := (zpow_lt_zpow_iff_right₀ one_lt_two).mp hpower
  omega

theorem exponent_eq (h : left.magnitude = right.magnitude) : left.exponent = right.exponent := by
  have hminimal : ∀ number : Binary64, -1074 ≤ number.exponent := by
    intro number
    unfold exponent
    split <;> omega
  have hsubnormal : ∀ number : Binary64, number.exponentField = 0 → number.exponent = -1074 := by
    intro number hzero
    rw [exponent, if_pos hzero]
  by_cases hleft : left.exponentField = 0
  · by_cases hright : right.exponentField = 0
    · rw [hsubnormal left hleft, hsubnormal right hright]
    · have hle := exponent_le h hright
      have hleast := hminimal right
      rw [hsubnormal left hleft] at hle ⊢
      omega
  · have hle := exponent_le h.symm hleft
    by_cases hright : right.exponentField = 0
    · have hleast := hminimal left
      rw [hsubnormal right hright] at hle ⊢
      omega
    · exact le_antisymm hle (exponent_le h hright)

/-- The absolute value of a number determines its encoding up to the sign. -/
theorem fields_eq (h : left.magnitude = right.magnitude) :
    left.exponentField = right.exponentField ∧ left.fractionField = right.fractionField := by
  have hexponent := exponent_eq h
  have hsignificand : left.significand = right.significand := by
    rw [magnitude, magnitude, hexponent] at h
    exact_mod_cast mul_right_cancel₀ (zpow_ne_zero _ two_ne_zero) h
  have hzero : left.exponentField = 0 ↔ right.exponentField = 0 := by
    constructor
    · intro hleft
      by_contra hright
      have := significand_lt_of_eq_zero hleft
      have := le_significand hright
      omega
    · intro hright
      by_contra hleft
      have := significand_lt_of_eq_zero hright
      have := le_significand hleft
      omega
  unfold significand at hsignificand
  unfold exponent at hexponent
  by_cases hleft : left.exponentField = 0
  · have hright := hzero.mp hleft
    rw [if_pos hleft, if_pos hright] at hsignificand
    exact ⟨hleft.trans hright.symm, hsignificand⟩
  · have hright := fun hright => hleft (hzero.mpr hright)
    rw [if_neg hleft, if_neg hright] at hsignificand hexponent
    omega

/-! ## Integers -/

/-- A number that is an integer has the absolute value of the integer, and its sign unless it is
zero. -/
theorem equalsInt_iff : number.equalsInt value = true ↔
    number.isFinite = true ∧ number.magnitude = value.natAbs ∧
      (value = 0 ∨ (number.isNegative = true ↔ value < 0)) := by
  have hscaled : number.significand * 2 ^ number.exponent.toNat =
      value.natAbs * 2 ^ (-number.exponent).toNat ↔ number.magnitude = value.natAbs := by
    unfold magnitude
    rcases le_total 0 number.exponent with hexponent | hexponent
    · obtain ⟨power, hpower⟩ := Int.eq_ofNat_of_zero_le hexponent
      rw [hpower, Int.toNat_natCast, Int.toNat_neg_natCast, zpow_natCast, pow_zero, mul_one]
      exact_mod_cast Iff.rfl
    · obtain ⟨power, hpower⟩ := Int.exists_eq_neg_ofNat hexponent
      rw [hpower, neg_neg, Int.toNat_natCast, Int.toNat_neg_natCast, zpow_neg, zpow_natCast,
        pow_zero, mul_one, ← div_eq_mul_inv, div_eq_iff (by positivity)]
      exact_mod_cast Iff.rfl
  unfold equalsInt
  simp only [Bool.and_eq_true, beq_iff_eq, Bool.or_eq_true, Nat.pow_eq, hscaled, and_assoc]
  refine and_congr_right fun _ => and_congr_right fun hmagnitude => or_congr ?_ ?_
  · rw [hscaled.mpr hmagnitude]
    simp
  · rw [Bool.eq_iff_iff, decide_eq_true_eq]

/-- The integer that a number is. -/
def integer? (number : Binary64) : Option ℤ :=
  let magnitude : ℤ := ⌊number.magnitude⌋
  let value := if number.isNegative then -magnitude else magnitude
  if number.equalsInt value then some value else none

theorem integer?_eq_some_iff : number.integer? = some value ↔ number.equalsInt value = true := by
  simp only [integer?, Option.ite_none_right_eq_some, Option.some.injEq]
  constructor
  · rintro ⟨hequals, rfl⟩
    exact hequals
  · intro h
    obtain ⟨-, hmagnitude, hsign⟩ := equalsInt_iff.mp h
    have hvalue : (if number.isNegative then -⌊number.magnitude⌋ else ⌊number.magnitude⌋) =
        value := by
      rw [hmagnitude, Int.floor_natCast]
      rcases hsign with rfl | hsign
      · simp
      · split
        · next hnegative =>
            have := hsign.mp hnegative
            omega
        · next hpositive =>
            have := mt hsign.mpr hpositive
            omega
    rw [hvalue]
    exact ⟨h, rfl⟩

theorem isZero_iff : number.isZero = true ↔ number.equalsInt 0 = true := by
  rw [equalsInt_iff]
  unfold isZero isFinite magnitude
  simp only [Bool.and_eq_true, beq_iff_eq, Int.natAbs_zero, Nat.cast_zero, true_or, and_true,
    mul_eq_zero, Nat.cast_eq_zero]
  constructor
  · rintro ⟨hexponent, hfraction⟩
    simp [significand, hexponent, hfraction]
  · rintro ⟨-, hsignificand | hpower⟩
    · have hzero : number.exponentField = 0 := by
        by_contra hnormal
        have := le_significand hnormal
        omega
      rw [significand, if_pos hzero] at hsignificand
      exact ⟨hzero, hsignificand⟩
    · exact absurd hpower (zpow_ne_zero _ two_ne_zero)

/-- Two numbers that are the same integer are the same key. -/
theorem same_of_equalsInt (hleft : left.equalsInt value = true)
    (hright : right.equalsInt value = true) : left.same right = true := by
  by_cases hzero : value = 0
  · subst hzero
    simp [same, isZero_iff.mpr hleft, isZero_iff.mpr hright]
  · obtain ⟨-, hleft, hleftsign⟩ := equalsInt_iff.mp hleft
    obtain ⟨-, hright, hrightsign⟩ := equalsInt_iff.mp hright
    obtain ⟨hexponent, hfraction⟩ := fields_eq (hleft.trans hright.symm)
    have hsign : left.isNegative = right.isNegative := by
      rw [Bool.eq_iff_iff, hleftsign.resolve_left hzero, hrightsign.resolve_left hzero]
    simp [same, eq_of_fields_eq hsign hexponent hfraction]

end Binary64

end ResourceGraph
