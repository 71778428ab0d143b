import ResourceGraph.Proofs.Binary64
import ResourceGraph.Value.Basic

/-!
# Keys of mappings

`Scalar.same` compares scalars as keys, kind by kind.  `Scalar.key` says what a scalar is as a key,
and two scalars are the same key exactly if these are equal (`Scalar.same_iff`): being the same key
is an equivalence, also between integers, truth values and numbers with a point.

With this the mapping that a list of entries stands for is known from what it gives for each key.
`find?_overlay` says it of entries laid over others.
-/

namespace ResourceGraph

/-! ## What a scalar is as a key -/

/-- What a number is as a key: an integer, or itself if it has a fraction or no value. -/
def Binary64.key (number : Binary64) : ℤ ⊕ Binary64 :=
  number.integer?.elim (.inr number) .inl

theorem Binary64.key_eq_inl {number : Binary64} {value : ℤ} :
    number.key = .inl value ↔ number.equalsInt value = true := by
  rw [← integer?_eq_some_iff, key]
  cases number.integer? <;> simp

theorem Binary64.same_iff {left right : Binary64} :
    left.same right = true ↔ left.key = right.key := by
  constructor
  · intro h
    rw [same, Bool.or_eq_true, beq_iff_eq, Bool.and_eq_true] at h
    rcases h with rfl | ⟨hleft, hright⟩
    · rfl
    · rw [key_eq_inl.mpr (isZero_iff.mp hleft), key_eq_inl.mpr (isZero_iff.mp hright)]
  · intro h
    cases hinteger : left.integer? with
    | some value =>
        have hleft := integer?_eq_some_iff.mp hinteger
        exact same_of_equalsInt hleft (key_eq_inl.mp (h ▸ key_eq_inl.mpr hleft))
    | none =>
        rw [key, key, hinteger, Option.elim_none] at h
        cases hother : right.integer? with
        | some value => simp [hother] at h
        | none =>
            rw [hother, Option.elim_none] at h
            cases h
            simp [same]

/-- What a moment is as a key: its time, in universal time if its offset is known. -/
def Moment.key (moment : Moment) : Bool × ℤ :=
  match moment.offset with
  | none => (false, moment.localMicroseconds)
  | some offset => (true, moment.localMicroseconds - offset * 60000000)

theorem Moment.same_iff {left right : Moment} : left.same right = true ↔ left.key = right.key := by
  unfold same key
  cases left.offset <;> cases right.offset <;> simp

/-- What a scalar is as a key of a mapping. -/
inductive Key where
  | null
  | number (value : ℤ ⊕ Binary64)
  | text (value : String)
  | bytes (value : List UInt8)
  | date (value : CalendarDate)
  | moment (value : Bool × ℤ)

namespace Scalar

/-- The key that a scalar is. -/
def key : Scalar → Key
  | null => .null
  | bool value => .number (.inl value.toInt)
  | int value => .number (.inl value)
  | float value => .number value.key
  | text value => .text value
  | bytes value => .bytes value
  | date value => .date value
  | moment value => .moment value.key

/-- **Two scalars are the same key exactly if the keys that they are are equal.** -/
theorem same_iff {left right : Scalar} : left.same right = true ↔ left.key = right.key := by
  have hright : ∀ (number : Binary64) (value : ℤ),
      Sum.inl value = number.key ↔ number.equalsInt value = true :=
    fun number value => eq_comm.trans Binary64.key_eq_inl
  cases left <;> cases right <;>
    simp [same, key, Binary64.same_iff, Moment.same_iff, Binary64.key_eq_inl, hright]
  case bool left right => cases left <;> cases right <;> simp

theorem key_eq_text {scalar : Scalar} {name : String} :
    scalar.key = .text name ↔ scalar = .text name := by
  cases scalar <;> simp [key]

end Scalar

/-! ## Entries by key -/

namespace Entries

/-- The keys of some entries. -/
def keys {α : Type} (entries : List (Scalar × α)) : List Key :=
  entries.map fun entry => entry.1.key

variable {entries base upper : List (Scalar × Value)} {name : String} {key wanted : Scalar}

@[simp]
theorem get?_nil (name : String) : get? [] name = none := rfl

theorem get?_cons (entry : Scalar × Value) (rest : List (Scalar × Value)) (name : String) :
    get? (entry :: rest) name = if entry.1 = .text name then some entry.2 else get? rest name := by
  rw [get?, List.lookup_cons]
  by_cases hkey : entry.1 = .text name
  · simp [hkey]
  · rw [if_neg hkey, beq_false_of_ne (Ne.symm hkey), get?]

/-- The value of a key. -/
def find? (entries : List (Scalar × Value)) (key : Scalar) : Option Value :=
  (entries.find? fun entry => entry.1.same key).map Prod.snd

theorem find?_cons (entry : Scalar × Value) (rest : List (Scalar × Value)) (key : Scalar) :
    find? (entry :: rest) key = if entry.1.same key then some entry.2 else find? rest key := by
  rw [find?, List.find?_cons]
  split <;> simp_all [find?]

theorem find?_append (front back : List (Scalar × Value)) (key : Scalar) :
    find? (front ++ back) key = (find? front key).or (find? back key) := by
  rw [find?, List.find?_append, Option.map_or]
  rfl

/-- A text is the same key as itself alone. -/
theorem get?_eq_find? (entries : List (Scalar × Value)) (name : String) :
    get? entries name = find? entries (.text name) := by
  induction entries with
  | nil => rfl
  | cons entry rest ih =>
      have hsame : (Scalar.text name == entry.1) = entry.1.same (.text name) := by
        rw [Bool.eq_iff_iff, Scalar.same_iff, beq_iff_eq, eq_comm]
        exact Scalar.key_eq_text.symm
      rw [find?_cons, get?, List.lookup_cons, hsame, ← ih]
      cases entry.1.same (.text name) <;> rfl

/-- Setting a key changes its value and that of no other key. -/
theorem find?_put (key : Scalar) (value : Value) (entries : List (Scalar × Value))
    (wanted : Scalar) : find? (put key value entries) wanted =
      if key.same wanted then some value else find? entries wanted := by
  induction entries with
  | nil => rw [put, find?_cons]
  | cons entry rest ih =>
      by_cases hkey : entry.1.same key = true
      · have hsame : entry.1.same wanted = key.same wanted := by
          rw [Bool.eq_iff_iff, Scalar.same_iff, Scalar.same_iff, Scalar.same_iff.mp hkey]
        rw [put, if_pos hkey, find?_cons, find?_cons, hsame]
        split <;> rfl
      · rw [put, if_neg hkey, find?_cons, find?_cons, ih]
        by_cases hentry : entry.1.same wanted = true
        · have hother : ¬ key.same wanted = true := by
            intro hwanted
            rw [Scalar.same_iff] at hkey hwanted hentry
            exact hkey (hentry.trans hwanted.symm)
          rw [if_pos hentry, if_neg hother, if_pos hentry]
        · rw [if_neg hentry, if_neg hentry]

/-- **The upper entries win.**  A key has the value that the last of the upper entries with this key
gives it, and the value of the base if there is none. -/
theorem find?_overlay (base upper : List (Scalar × Value)) (key : Scalar) :
    find? (overlay base upper) key = (find? upper.reverse key).or (find? base key) := by
  induction upper generalizing base with
  | nil => rfl
  | cons entry rest ih =>
      have hrest := ih (put entry.1 entry.2 base)
      rw [overlay, List.foldl_cons, ← overlay, hrest, find?_put, List.reverse_cons, find?_append,
        find?_cons, Option.or_assoc]
      congr 1
      split <;> rfl

end Entries

end ResourceGraph
