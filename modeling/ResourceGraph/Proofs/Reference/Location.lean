import ResourceGraph.Proofs.Key
import ResourceGraph.Proofs.Lists
import ResourceGraph.Reference.Pointer

/-!
# References to every place of a document

A place in a document is reached by steps, each of them to an entry of a mapping or to an item of
a list (`Leads`).  The steps can be written as the segments of a reference, and whoever follows
the reference reaches the same place (`locate_reference`).  Three things are needed for this.

* **Separation.**  A written step has no slash.  So the segments of a reference are the steps that
  were joined, whatever their keys are (`segments?_reference`).
* **Keys.**  A written key is read back (`decodeSegment_encodeSegment`): in it every `~` has a
  digit behind it, which says what the two stand for.  Reading in one pass comes to the same as
  two replacements, first of `~1` and then of `~0` (`decodeSegment_eq_replaced`).  The other order
  would take the `~01` of the key `~1` for a slash.
* **Indexes.**  An index is read back from its decimal digits (`Number.readInteger_toString`).  An
  integer with too many digits is refused, but no list in memory is so long that one of its indexes
  has as many, so that the bound leaves none out.
-/

namespace ResourceGraph.Pointer

/-! ## Steps -/

/-- A step from a value to a part of it. -/
inductive Step where
  | key (name : String)
  | index (place : ℕ)
deriving DecidableEq, Repr

/-- Steps that lead from a value to another one inside it.  Of several entries with the same key the
first one counts, and the index of an item is the number of items before it. -/
inductive Leads : Value → List Step → Value → Prop
  | here (value : Value) : Leads value [] value
  | entry {before after : List (Scalar × Value)} {name : String} {next value : Value}
      {steps : List Step} (hfirst : ∀ entry ∈ before, entry.1 ≠ .text name)
      (hrest : Leads next steps value) :
      Leads (.map (before ++ (.text name, next) :: after)) (.key name :: steps) value
  | item {before after : List Value} {next value : Value} {steps : List Step}
      (hrest : Leads next steps value) :
      Leads (.list (before ++ next :: after)) (.index before.length :: steps) value

/-- Characters with `~` and a mark in place of every `plain`. -/
def escaped (plain mark : Char) (characters : List Char) : List Char :=
  characters.flatMap fun c => if c = plain then ['~', mark] else [c]

/-- Characters with `plain` in place of every `~` that has a mark behind it. -/
def replaced (mark plain : Char) : List Char → List Char
  | '~' :: c :: rest =>
    if c = mark then plain :: replaced mark plain rest else '~' :: replaced mark plain (c :: rest)
  | c :: rest => c :: replaced mark plain rest
  | [] => []

/-- A step as a segment: `~` is written `~0` and then `/` is written `~1`, and an index is written
in decimal. -/
def Step.text : Step → String
  | key name => String.ofList (escaped '/' '1' (escaped '~' '0' name.toList))
  | index place => toString place

/-- The key or the digits that the segment of a step stands for. -/
def Step.meaning : Step → String
  | key name => name
  | index place => toString place

/-- The reference that takes some steps. -/
def reference (steps : List Step) : String := "#/" ++ "/".intercalate (steps.map Step.text)

variable {root value next : Value} {steps : List Step} {characters : List Char} {c : Char}

/-! ## Keys -/

theorem encodeSegment_eq_escaped (characters : List Char) :
    encodeSegment characters = escaped '/' '1' (escaped '~' '0' characters) := by
  induction characters with
  | nil => rfl
  | cons c rest ih =>
      rw [encodeSegment, ih]
      by_cases htilde : c = '~'
      · subst htilde
        rfl
      · rw [if_neg htilde]
        by_cases hslash : c = '/'
        · subst hslash
          rfl
        · rw [if_neg hslash]
          simp [escaped, htilde, hslash]

theorem decodeSegment_cons (hc : c ≠ '~') :
    decodeSegment (c :: characters) = c :: decodeSegment characters := by
  conv_lhs => unfold decodeSegment
  split
  · next heq => exact absurd (List.cons.inj heq).1 hc
  · next heq => exact absurd (List.cons.inj heq).1 hc
  · next heq =>
      cases heq
      rfl
  · next heq => cases heq

/-- **A written key is read back.** -/
theorem decodeSegment_encodeSegment (characters : List Char) :
    decodeSegment (encodeSegment characters) = characters := by
  induction characters with
  | nil => rfl
  | cons c rest ih =>
      rw [encodeSegment]
      by_cases htilde : c = '~'
      · rw [if_pos htilde, decodeSegment, ih, htilde]
      · rw [if_neg htilde]
        by_cases hslash : c = '/'
        · rw [if_pos hslash, decodeSegment, ih, hslash]
        · rw [if_neg hslash, decodeSegment_cons htilde, ih]

theorem replaced_cons {mark plain : Char} (hc : c ≠ '~') :
    replaced mark plain (c :: characters) = c :: replaced mark plain characters := by
  conv_lhs => unfold replaced
  split
  · next heq => exact absurd (List.cons.inj heq).1 hc
  · next heq =>
      cases heq
      rfl
  · next heq => cases heq

theorem replaced_tilde {mark plain : Char} (h : characters.head? ≠ some mark) :
    replaced mark plain ('~' :: characters) = '~' :: replaced mark plain characters := by
  cases characters with
  | nil => rfl
  | cons c rest =>
      have hc : c ≠ mark := fun heq => h (congrArg some heq)
      rw [replaced, if_neg hc]

/-- A replacement of `~1` leaves no `0` in front that was not there. -/
theorem head?_replaced_ne (h : characters.head? ≠ some '0') :
    (replaced '1' '/' characters).head? ≠ some '0' := by
  unfold replaced
  split
  · split <;> exact nofun
  · exact h
  · exact nofun

/-- **Reading a segment is two replacements**, first of `~1` and then of `~0`. -/
theorem decodeSegment_eq_replaced (characters : List Char) :
    decodeSegment characters = replaced '0' '~' (replaced '1' '/' characters) := by
  induction characters using decodeSegment.induct with
  | case1 rest ih =>
      have hinner : replaced '1' '/' ('~' :: '1' :: rest) = '/' :: replaced '1' '/' rest := rfl
      rw [decodeSegment, hinner, replaced_cons (by decide), ih]
  | case2 rest ih =>
      have hinner : replaced '1' '/' ('~' :: '0' :: rest) =
          '~' :: '0' :: replaced '1' '/' rest := rfl
      rw [decodeSegment, hinner, ih]
      rfl
  | case3 c rest hone hzero ih =>
      by_cases hc : c = '~'
      · subst hc
        have hnotOne : rest.head? ≠ some '1' := by
          intro h
          obtain ⟨others, rfl⟩ := List.head?_eq_some_iff.mp h
          exact hone others rfl rfl
        have hnotZero : rest.head? ≠ some '0' := by
          intro h
          obtain ⟨others, rfl⟩ := List.head?_eq_some_iff.mp h
          exact hzero others rfl rfl
        rw [replaced_tilde hnotOne, replaced_tilde (head?_replaced_ne hnotZero), ← ih]
        exact decodeSegment.eq_3 _ _ hone hzero
      · rw [decodeSegment_cons hc, replaced_cons hc, replaced_cons hc, ih]
  | case4 => rfl

theorem decodeSegment_eq_self (h : '~' ∉ characters) : decodeSegment characters = characters := by
  induction characters with
  | nil => rfl
  | cons c rest ih =>
      rw [decodeSegment_cons (List.ne_of_not_mem_cons h).symm, ih (List.not_mem_of_not_mem_cons h)]

/-! ## Segments -/

theorem isDigit_of_mem_text {place : ℕ} (hc : c ∈ (Step.index place).text.toList) :
    c.isDigit = true := by
  rw [Step.text, Nat.toString_eq_ofList_toDigits, String.toList_ofList] at hc
  exact Nat.isDigit_of_mem_toDigits (by decide) (by decide) hc

theorem slash_not_mem_text (step : Step) : '/' ∉ step.text.toList := by
  cases step with
  | key name =>
      rw [Step.text, String.toList_ofList, escaped, List.mem_flatMap]
      rintro ⟨c, -, hmem⟩
      split at hmem
      · simp at hmem
      · next hc => exact hc (List.mem_singleton.mp hmem).symm
  | index place =>
      intro hslash
      exact absurd (isDigit_of_mem_text hslash) (by decide)

theorem decodeSegment_text (step : Step) :
    String.ofList (decodeSegment step.text.toList) = step.meaning := by
  cases step with
  | key name =>
      rw [Step.text, String.toList_ofList, ← encodeSegment_eq_escaped, decodeSegment_encodeSegment,
        String.ofList_toList]
      rfl
  | index place =>
      have htilde : '~' ∉ (Step.index place).text.toList := fun hmem =>
        absurd (isDigit_of_mem_text hmem) (by decide)
      rw [decodeSegment_eq_self htilde, String.ofList_toList]
      rfl

/-- **The segments of a reference are its steps**, each of them read back. -/
theorem segments?_reference (hsteps : steps ≠ []) :
    segments? (reference steps) = some (steps.map Step.meaning) := by
  have hslash : "/".toList = ['/'] := rfl
  have htext : (reference steps).toList =
      '#' :: '/' :: ['/'].intercalate (steps.map fun step => step.text.toList) := by
    rw [reference, String.toList_append, String.toList_intercalate, hslash, List.map_map]
    rfl
  have hsplit : (['/'].intercalate (steps.map fun step => step.text.toList)).splitOn '/' =
      steps.map fun step => step.text.toList := by
    refine List.splitOn_intercalate _ (List.forall_mem_map.mpr fun step _ => ?_) ?_
    · exact slash_not_mem_text step
    · rwa [ne_eq, List.map_eq_nil_iff]
  rw [segments?, htext]
  simp only [hsplit, List.map_map]
  exact congrArg some (List.map_congr_left fun step _ => decodeSegment_text step)

/-! ## Places -/

theorem get?_append_cons {before after : List (Scalar × Value)} {name : String}
    (hfirst : ∀ entry ∈ before, entry.1 ≠ .text name) :
    Entries.get? (before ++ (.text name, next) :: after) name = some next := by
  induction before with
  | nil => rw [List.nil_append, Entries.get?_cons, if_pos rfl]
  | cons entry others ih =>
      obtain ⟨hentry, hothers⟩ := List.forall_mem_cons.mp hfirst
      rw [List.cons_append, Entries.get?_cons, if_neg hentry, ih hothers]

theorem item?_append_cons {before after : List Value} :
    item? (before ++ next :: after) before.length = some next := by
  rw [item?, if_pos (Int.natCast_nonneg _), Int.toNat_natCast, List.getElem?_append_right
    (Nat.le_refl _), Nat.sub_self]
  rfl

/-- **Following the segments of some steps leads where the steps lead.** -/
theorem foldlM_step_of_leads (whole : String) (hleads : Leads root steps value)
    (hshort : ∀ place, Step.index place ∈ steps → place < Number.leastLong) :
    (steps.map Step.meaning).foldlM (step whole) root = .ok value := by
  induction hleads with
  | here value => rfl
  | @entry before after name next value steps hfirst _ ih =>
      have hstep : step whole (.map (before ++ (.text name, next) :: after)) name = .ok next := by
        rw [step, get?_append_cons hfirst]
      rw [List.map_cons, List.foldlM_cons]
      show (step whole _ name).bind _ = _
      rw [hstep]
      exact ih fun place hplace => hshort place (List.mem_cons_of_mem _ hplace)
  | @item before after next value steps _ ih =>
      have hread : Number.readInteger (toString before.length) = .ok before.length :=
        Number.readInteger_toString (hshort _ List.mem_cons_self)
      have hitem : (Number.readInteger (toString before.length)).toOption.bind
          (item? (before ++ next :: after)) = some next := by
        rw [hread]
        exact item?_append_cons
      have hstep : step whole (.list (before ++ next :: after)) (toString before.length) =
          .ok next := by
        rw [step, hitem]
      rw [List.map_cons, List.foldlM_cons]
      show (step whole _ (toString before.length)).bind _ = _
      rw [hstep]
      exact ih fun place hplace => hshort place (List.mem_cons_of_mem _ hplace)

/-- **References address every place of a document.**  Wherever some steps lead, at least one, the
reference that takes them points there, whatever characters the keys have.  An index has at most
as many digits as an integer that is read; lists with more items do not fit any memory. -/
theorem locate_reference (hleads : Leads root steps value) (hsteps : steps ≠ [])
    (hshort : ∀ place, Step.index place ∈ steps → place < Number.leastLong) :
    locate root (reference steps) = .ok value := by
  rw [locate, segments?_reference hsteps]
  exact foldlM_step_of_leads (reference steps) hleads hshort

end ResourceGraph.Pointer

/-! ## A cabinet with odd labels -/

namespace ResourceGraph.Sample

open Pointer

/-- What stands behind the labels of the second drawer. -/
def drawer : Value :=
  .map [(.text "~1", .map [(.text "~01", .map [(.text "0", .text "stamps")])])]

/-- A cabinet whose shelf has no name. -/
def cabinet : Value := .map [(.text "", .map [(.text "a/b", .list [.scalar .null, drawer])])]

/-- The steps to the stamps. -/
def stampSteps : List Step :=
  [.key "", .key "a/b", .index 1, .key "~1", .key "~01", .key "0"]

theorem leads_stampSteps : Leads cabinet stampSteps (.text "stamps") := by
  have hdrawer : Leads drawer [.key "~1", .key "~01", .key "0"] (.text "stamps") :=
    @Leads.entry [] _ _ _ _ _ nofun (@Leads.entry [] _ _ _ _ _ nofun
      (@Leads.entry [] _ _ _ _ _ nofun (.here _)))
  exact @Leads.entry [] _ _ _ _ _ nofun (@Leads.entry [] _ _ _ _ _ nofun
    (@Leads.item [.scalar .null] _ _ _ _ hdrawer))

/-- The stamps are found behind an empty label, one with a slash, two that look like marks and one
that looks like an index. -/
theorem stamps_located :
    reference stampSteps = "#//a~1b/1/~01/~001/0" ∧
      locate cabinet (reference stampSteps) = .ok (.text "stamps") := by
  refine ⟨by decide +kernel, locate_reference leads_stampSteps (List.cons_ne_nil _ _) ?_⟩
  intro place hplace
  obtain rfl : place = 1 := by simpa [stampSteps] using hplace
  decide +kernel

end ResourceGraph.Sample
