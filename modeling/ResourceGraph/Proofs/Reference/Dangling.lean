import ResourceGraph.Proofs.Except
import ResourceGraph.Proofs.IntegerText
import ResourceGraph.Proofs.Reference.Location

/-!
# References that address nothing

A pointer dangles if some segment on its way is missing where it stands: no key of the mapping, not
the decimal of an index of the list, or anything at all in a value that has no parts (`Dangles`).
Nothing lies at its end then (`dangles_iff`).

Following a pointer is more generous than this.  In a list, every text is taken for an item that
writes an integer by which the items can be counted, from the start or, if it is negative, from the
end (`TakenFor`).  So `-1`, `+1`, `01` or digits of another script lead to an item although they are
no index.  A dangling pointer is rejected exactly if it does not stray in this way
(`dangling_rejected_iff`), and then with the error of the first segment that is taken for nothing.

The proof needs that the decimal of an index is taken for this index alone
(`Number.writesInteger_toString_iff`).  All the rest is about steps: what a single segment leads to,
and which segments are refused (`step_eq_ok_iff`, `step_eq_error_iff`).
-/

namespace ResourceGraph

theorem Number.writesInteger_toString_iff {number : ℕ} {value : ℤ} :
    WritesInteger (toString number) value ↔ number < leastLong ∧ value = number := by
  rw [← readInteger_eq_ok_iff, readInteger_digits]
  by_cases hshort : number < leastLong
  · rw [if_pos hshort, Except.ok.injEq, eq_comm]
    exact (and_iff_right hshort).symm
  · rw [if_neg hshort]
    exact ⟨nofun, fun h => absurd h.1 hshort⟩

namespace Pointer

/-! ## Segments that lead on -/

/-- The segments of what stands behind the `#/` of a reference: the pieces between the slashes, with
`/` in place of `~1` and then `~` in place of `~0`. -/
def segmentsOf (path : String) : List String :=
  (path.toList.splitOn '/').map fun piece =>
    String.ofList (replaced '0' '~' (replaced '1' '/' piece))

/-- Segments are followed one after another, each to the part that it leads to. -/
inductive Follows (part : Value → String → Value → Prop) : Value → List String → Value → Prop
  | here (value : Value) : Follows part value [] value
  | step {value next result : Value} {segment : String} {rest : List String}
      (hpart : part value segment next) (hrest : Follows part next rest result) :
      Follows part value (segment :: rest) result

/-- A segment designates a part: it is the key or the decimal index of the step there. -/
def Designates (value : Value) (segment : String) (next : Value) : Prop :=
  ∃ step : Step, Leads value [step] next ∧ step.meaning = segment

/-- A segment designates nothing where it stands. -/
inductive Missing : Value → String → Prop
  | key {entries : List (Scalar × Value)} {segment : String}
      (habsent : ∀ entry ∈ entries, entry.1 ≠ .text segment) : Missing (.map entries) segment
  | index {items : List Value} {segment : String}
      (hnone : ∀ place < items.length, segment ≠ toString place) : Missing (.list items) segment
  | parts {value : Value} (segment : String) (hmap : ∀ entries, value ≠ .map entries)
      (hlist : ∀ items, value ≠ .list items) : Missing value segment

/-- A pointer gets to a segment that is missing. -/
def Dangles (root : Value) (segments : List String) : Prop :=
  ∃ front segment back value, segments = front ++ segment :: back ∧
    Follows Designates root front value ∧ Missing value segment

/-- The part that a segment is taken for: the value of a key, or the item that is counted by the
integer that the segment writes. -/
inductive TakenFor : Value → String → Value → Prop
  | entry {before after : List (Scalar × Value)} {segment : String} {next : Value}
      (hfirst : ∀ entry ∈ before, entry.1 ≠ .text segment) :
      TakenFor (.map (before ++ (.text segment, next) :: after)) segment next
  | item {items : List Value} {segment : String} {next : Value} {place : ℕ} {number : ℤ}
      (hwrites : Number.WritesInteger segment number)
      (hcounts : number = place ∨ number = place - items.length)
      (hitem : items[place]? = some next) : TakenFor (.list items) segment next

/-- A pointer gets to its end, but on its way a segment is taken for an item of a list without
being the decimal of an index. -/
def Strays (root : Value) (segments : List String) : Prop :=
  ∃ front segment back items next result, segments = front ++ segment :: back ∧
    Follows TakenFor root front (.list items) ∧ Missing (.list items) segment ∧
    TakenFor (.list items) segment next ∧ Follows TakenFor next back result

/-- A segment is taken for nothing, and the error that this makes. -/
inductive Refuses (whole : String) : Value → String → ReferenceError → Prop
  | key {entries : List (Scalar × Value)} {segment : String}
      (habsent : ∀ entry ∈ entries, entry.1 ≠ .text segment) :
      Refuses whole (.map entries) segment (.missingKey whole segment)
  | index {items : List Value} {segment : String}
      (hnone : ∀ next, ¬ TakenFor (.list items) segment next) :
      Refuses whole (.list items) segment (.invalidIndex whole segment)
  | parts {value : Value} (segment : String) (hmap : ∀ entries, value ≠ .map entries)
      (hlist : ∀ items, value ≠ .list items) :
      Refuses whole value segment (.noParts whole value.kindName)

variable {root value next result : Value} {entries : List (Scalar × Value)} {items : List Value}
  {segment whole path : String} {segments front back : List String} {error : ReferenceError}
  {part other : Value → String → Value → Prop}

/-! ## What a segment designates -/

theorem get?_eq_some_iff : Entries.get? entries segment = some value ↔
    ∃ before after, entries = before ++ (.text segment, value) :: after ∧
      ∀ entry ∈ before, entry.1 ≠ .text segment := by
  constructor
  · intro h
    rw [Entries.get?, List.lookup_eq_some_iff] at h
    obtain ⟨before, after, hentries, hbefore⟩ := h
    refine ⟨before, after, hentries, fun entry hentry hkey => ?_⟩
    have hskipped := hbefore entry hentry
    simp [hkey] at hskipped
  · rintro ⟨before, after, rfl, hbefore⟩
    exact get?_append_cons hbefore

theorem get?_eq_none_iff : Entries.get? entries segment = none ↔
    ∀ entry ∈ entries, entry.1 ≠ .text segment := by
  simp only [Entries.get?, List.lookup_eq_none_iff, bne_iff_ne, ne_comm]

theorem designates_map_iff :
    Designates (.map entries) segment value ↔ Entries.get? entries segment = some value := by
  rw [get?_eq_some_iff]
  constructor
  · rintro ⟨step, hleads, rfl⟩
    cases hleads with
    | entry hfirst hrest =>
        cases hrest
        exact ⟨_, _, rfl, hfirst⟩
  · rintro ⟨before, after, rfl, hbefore⟩
    exact ⟨.key segment, .entry hbefore (.here value), rfl⟩

theorem designates_list_iff : Designates (.list items) segment value ↔
    ∃ place : ℕ, segment = toString place ∧ items[place]? = some value := by
  constructor
  · rintro ⟨step, hleads, rfl⟩
    cases hleads with
    | @item before after _ _ _ hrest =>
        cases hrest
        refine ⟨before.length, rfl, ?_⟩
        rw [List.getElem?_append_right (Nat.le_refl _), Nat.sub_self]
        rfl
  · rintro ⟨place, rfl, hitem⟩
    obtain ⟨hplace, rfl⟩ := List.getElem?_eq_some_iff.mp hitem
    have hsplit : items = items.take place ++ items[place] :: items.drop (place + 1) := by
      rw [← List.drop_eq_getElem_cons hplace, List.take_append_drop]
    have hlength : (items.take place).length = place := by
      rw [List.length_take]
      omega
    refine ⟨.index place, ?_, rfl⟩
    have hleads := @Leads.item (items.take place) (items.drop (place + 1)) items[place] _ []
      (.here _)
    rwa [← hsplit, hlength] at hleads

/-- **A segment is missing exactly if it designates nothing.** -/
theorem missing_iff : Missing value segment ↔ ∀ next, ¬ Designates value segment next := by
  constructor
  · intro hmissing next hdesignates
    cases hmissing with
    | key habsent =>
        rw [designates_map_iff, get?_eq_none_iff.mpr habsent] at hdesignates
        cases hdesignates
    | index hnone =>
        obtain ⟨place, hsegment, hitem⟩ := designates_list_iff.mp hdesignates
        exact hnone place (List.getElem?_eq_some_iff.mp hitem).1 hsegment
    | parts segment hmap hlist =>
        obtain ⟨step, hleads, -⟩ := hdesignates
        cases hleads with
        | entry => exact hmap _ rfl
        | item => exact hlist _ rfl
  · intro hnone
    cases value with
    | map entries =>
        refine .key (get?_eq_none_iff.mp (Option.eq_none_iff_forall_ne_some.mpr ?_))
        exact fun next hget => hnone next (designates_map_iff.mpr hget)
    | list items =>
        refine .index fun place hplace hsegment => ?_
        exact hnone items[place]
          (designates_list_iff.mpr ⟨place, hsegment, List.getElem?_eq_getElem hplace⟩)
    | scalar | set | pair =>
        exact .parts segment (fun _ h => (by cases h)) (fun _ h => (by cases h))

/-! ## Following segments -/

theorem follows_append_iff : Follows part root (front ++ back) result ↔
    ∃ middle, Follows part root front middle ∧ Follows part middle back result := by
  induction front generalizing root with
  | nil =>
      constructor
      · exact fun h => ⟨root, .here root, h⟩
      · rintro ⟨middle, hfront, hback⟩
        cases hfront
        exact hback
  | cons segment front ih =>
      constructor
      · intro h
        cases h with
        | step hpart hrest =>
            obtain ⟨middle, hfront, hback⟩ := ih.mp hrest
            exact ⟨middle, .step hpart hfront, hback⟩
      · rintro ⟨middle, hfront, hback⟩
        cases hfront with
        | step hpart hrest => exact .step hpart (ih.mpr ⟨middle, hrest, hback⟩)

/-- Segments are followed to the end, or to one that leads nowhere. -/
theorem exists_follows_or_stops (part : Value → String → Value → Prop) (root : Value)
    (segments : List String) : (∃ result, Follows part root segments result) ∨
      ∃ front segment back value, segments = front ++ segment :: back ∧
        Follows part root front value ∧ ∀ next, ¬ part value segment next := by
  induction segments generalizing root with
  | nil => exact Or.inl ⟨root, .here root⟩
  | cons segment rest ih =>
      by_cases hpart : ∃ next, part root segment next
      · obtain ⟨next, hnext⟩ := hpart
        rcases ih next with ⟨result, hresult⟩ | ⟨front, stop, back, value, rfl, hfront, hstop⟩
        · exact Or.inl ⟨result, .step hnext hresult⟩
        · exact Or.inr ⟨segment :: front, stop, back, value, rfl, .step hnext hfront, hstop⟩
      · exact Or.inr ⟨[], segment, rest, root, rfl, .here root, not_exists.mp hpart⟩

theorem Designates.unique (h : Designates value segment next)
    (hother : Designates value segment result) : next = result := by
  cases value with
  | map entries =>
      rw [designates_map_iff] at h hother
      exact Option.some.inj (h.symm.trans hother)
  | list items =>
      obtain ⟨place, rfl, hitem⟩ := designates_list_iff.mp h
      obtain ⟨otherPlace, hsame, hotherItem⟩ := designates_list_iff.mp hother
      obtain rfl : place = otherPlace := Nat.repr_inj.mp hsame
      exact Option.some.inj (hitem.symm.trans hotherItem)
  | scalar scalar =>
      obtain ⟨step, hleads, -⟩ := h
      cases hleads
  | set members =>
      obtain ⟨step, hleads, -⟩ := h
      cases hleads
  | pair first second =>
      obtain ⟨step, hleads, -⟩ := h
      cases hleads

theorem Follows.unique
    (hunique : ∀ value segment next other, part value segment next → part value segment other →
      next = other)
    (h : Follows part root segments value) (hother : Follows part root segments result) :
    value = result := by
  induction h with
  | here value =>
      cases hother
      rfl
  | step hpart _ ih =>
      cases hother with
      | step hotherPart hotherRest =>
          cases hunique _ _ _ _ hpart hotherPart
          exact ih hotherRest

/-- **A pointer dangles exactly if nothing lies at its end.** -/
theorem dangles_iff :
    Dangles root segments ↔ ∀ value, ¬ Follows Designates root segments value := by
  constructor
  · rintro ⟨front, segment, back, value, rfl, hfront, hmissing⟩ result hfollows
    obtain ⟨middle, hmiddle, hback⟩ := follows_append_iff.mp hfollows
    obtain rfl : value = middle :=
      hfront.unique (fun _ _ _ _ h hother => h.unique hother) hmiddle
    cases hback with
    | step hpart _ => exact missing_iff.mp hmissing _ hpart
  · intro hnone
    rcases exists_follows_or_stops Designates root segments with
      ⟨result, hresult⟩ | ⟨front, segment, back, value, hsegments, hfront, hstop⟩
    · exact absurd hresult (hnone result)
    · exact ⟨front, segment, back, value, hsegments, hfront, missing_iff.mpr hstop⟩

/-! ## What a segment is taken for -/

theorem takenFor_map_iff :
    TakenFor (.map entries) segment value ↔ Entries.get? entries segment = some value := by
  rw [get?_eq_some_iff]
  constructor
  · intro h
    cases h with
    | entry hfirst => exact ⟨_, _, rfl, hfirst⟩
  · rintro ⟨before, after, rfl, hbefore⟩
    exact .entry hbefore

/-- The items that are counted by an integer. -/
theorem item?_eq_some_iff {number : ℤ} : item? items number = some value ↔
    ∃ place : ℕ, (number = place ∨ number = place - items.length) ∧ items[place]? = some value := by
  unfold item?
  constructor
  · intro h
    split at h
    · next hnonneg => exact ⟨number.toNat, Or.inl (Int.toNat_of_nonneg hnonneg).symm, h⟩
    · split at h
      · next hnegative hless =>
          refine ⟨items.length - number.natAbs, Or.inr ?_, h⟩
          omega
      · cases h
  · rintro ⟨place, hcounts, hitem⟩
    have hplace : place < items.length := (List.getElem?_eq_some_iff.mp hitem).1
    rcases hcounts with rfl | rfl
    · rw [if_pos (Int.natCast_nonneg _), Int.toNat_natCast]
      exact hitem
    · rw [if_neg (by omega), if_pos (by omega)]
      have hsame : items.length - ((place : ℤ) - items.length).natAbs = place := by omega
      rw [hsame]
      exact hitem

theorem takenFor_list_iff : TakenFor (.list items) segment value ↔
    (Number.readInteger segment).toOption.bind (item? items) = some value := by
  rw [Option.bind_eq_some_iff]
  constructor
  · intro h
    cases h with
    | item hwrites hcounts hitem =>
        refine ⟨_, ?_, item?_eq_some_iff.mpr ⟨_, hcounts, hitem⟩⟩
        rw [Number.readInteger_eq_ok_iff.mpr hwrites]
        rfl
  · rintro ⟨number, hnumber, hitem⟩
    obtain ⟨place, hcounts, hplace⟩ := item?_eq_some_iff.mp hitem
    refine .item (Number.readInteger_eq_ok_iff.mp ?_) hcounts hplace
    cases hread : Number.readInteger segment with
    | error fault =>
        rw [hread] at hnumber
        cases hnumber
    | ok found =>
        rw [hread] at hnumber
        cases hnumber
        rfl

theorem step_eq_ok_iff : step whole value segment = .ok next ↔ TakenFor value segment next := by
  cases value with
  | map entries =>
      rw [takenFor_map_iff, step]
      cases Entries.get? entries segment <;> simp
  | list items =>
      rw [takenFor_list_iff, step]
      cases (Number.readInteger segment).toOption.bind (item? items) <;> simp
  | scalar | set | pair => exact ⟨fun h => (by cases h), fun h => (by cases h)⟩

/-- **Which segments are refused**, and with which error. -/
theorem step_eq_error_iff :
    step whole value segment = .error error ↔ Refuses whole value segment error := by
  constructor
  · intro h
    have hnone : ∀ next, ¬ TakenFor value segment next := by
      intro next htaken
      rw [step_eq_ok_iff.mpr htaken] at h
      cases h
    cases value with
    | map entries =>
        rw [step] at h
        split at h
        · cases h
        · next hget =>
            cases h
            exact .key (get?_eq_none_iff.mp hget)
    | list items =>
        rw [step] at h
        split at h
        · cases h
        · cases h
          exact .index hnone
    | scalar | set | pair =>
        cases h
        exact .parts segment (fun _ h => (by cases h)) (fun _ h => (by cases h))
  · intro h
    cases h with
    | key habsent => rw [step, get?_eq_none_iff.mpr habsent]
    | index hnone =>
        rw [step]
        split
        · next found hfound => exact absurd (takenFor_list_iff.mpr hfound) (hnone found)
        · rfl
    | parts segment hmap hlist =>
        cases value with
        | map entries => exact absurd rfl (hmap entries)
        | list items => exact absurd rfl (hlist items)
        | scalar | set | pair => rfl

/-! ## References -/

theorem segments?_path (path : String) : segments? ("#/" ++ path) = some (segmentsOf path) := by
  have htext : ("#/" ++ path).toList = '#' :: '/' :: path.toList := by
    rw [String.toList_append]
    rfl
  simp only [segments?, htext, segmentsOf, decodeSegment_eq_replaced]

theorem foldlM_step_eq_ok_iff : segments.foldlM (step whole) root = .ok value ↔
    Follows TakenFor root segments value := by
  induction segments generalizing root with
  | nil =>
      constructor
      · intro h
        cases h
        exact .here _
      · intro h
        cases h
        rfl
  | cons segment rest ih =>
      rw [List.foldlM_cons, bind_eq_ok]
      simp only [step_eq_ok_iff, ih]
      constructor
      · rintro ⟨next, hpart, hrest⟩
        exact .step hpart hrest
      · intro h
        cases h with
        | step hpart hrest => exact ⟨_, hpart, hrest⟩

theorem foldlM_step_eq_error_iff : segments.foldlM (step whole) root = .error error ↔
    ∃ front segment back value, segments = front ++ segment :: back ∧
      Follows TakenFor root front value ∧ Refuses whole value segment error := by
  induction segments generalizing root with
  | nil =>
      constructor
      · nofun
      · rintro ⟨front, segment, back, value, hsegments, -⟩
        exact absurd hsegments.symm (List.append_ne_nil_of_right_ne_nil _ (List.cons_ne_nil _ _))
  | cons segment rest ih =>
      rw [List.foldlM_cons, bind_eq_error]
      simp only [step_eq_error_iff, step_eq_ok_iff, ih]
      constructor
      · rintro (hrefuses | ⟨next, hpart, front, stop, back, value, rfl, hfront, hrefuses⟩)
        · exact ⟨[], segment, rest, root, rfl, .here root, hrefuses⟩
        · exact ⟨segment :: front, stop, back, value, rfl, .step hpart hfront, hrefuses⟩
      · rintro ⟨front, stop, back, value, hsegments, hfront, hrefuses⟩
        cases hfront with
        | here value =>
            cases hsegments
            exact Or.inl hrefuses
        | step hpart hrest =>
            cases hsegments
            exact Or.inr ⟨_, hpart, _, stop, back, value, rfl, hrest, hrefuses⟩

theorem locate_eq_ok_iff : locate root ("#/" ++ path) = .ok value ↔
    Follows TakenFor root (segmentsOf path) value := by
  rw [locate, segments?_path]
  exact foldlM_step_eq_ok_iff

theorem locate_eq_error_iff : locate root ("#/" ++ path) = .error error ↔
    ∃ front segment back value, segmentsOf path = front ++ segment :: back ∧
      Follows TakenFor root front value ∧ Refuses ("#/" ++ path) value segment error := by
  rw [locate, segments?_path]
  exact foldlM_step_eq_error_iff

/-! ## Pointers that stray -/

/-- The decimal of an index is taken for this index alone. -/
theorem TakenFor.designates_of_toString {index : ℕ}
    (h : TakenFor (.list items) (toString index) next) :
    Designates (.list items) (toString index) next := by
  cases h with
  | @item _ _ _ place number hwrites hcounts hitem =>
      have hplace : place < items.length := (List.getElem?_eq_some_iff.mp hitem).1
      obtain ⟨-, hnumber⟩ := Number.writesInteger_toString_iff.mp hwrites
      have hsame : index = place := by omega
      exact designates_list_iff.mpr ⟨index, rfl, hsame ▸ hitem⟩

/-- What a segment that is not missing is taken for is what it designates. -/
theorem TakenFor.designates (h : TakenFor value segment next) (hpresent : ¬ Missing value segment) :
    Designates value segment next := by
  cases value with
  | map entries => exact designates_map_iff.mpr (takenFor_map_iff.mp h)
  | list items =>
      obtain ⟨index, -, rfl⟩ : ∃ index < items.length, segment = toString index := by
        by_contra hnone
        push Not at hnone
        exact hpresent (.index hnone)
      exact h.designates_of_toString
  | scalar scalar => cases h
  | set members => cases h
  | pair first second => cases h

/-- Only in a list is a segment that is missing taken for something. -/
theorem TakenFor.exists_items (h : TakenFor value segment next) (hmissing : Missing value segment) :
    ∃ items, value = .list items := by
  cases hmissing with
  | key habsent =>
      rw [takenFor_map_iff, get?_eq_none_iff.mpr habsent] at h
      cases h
  | index hnone => exact ⟨_, rfl⟩
  | parts segment hmap hlist =>
      cases h with
      | entry hfirst => exact absurd rfl (hmap _)
      | item hwrites hcounts hitem => exact absurd rfl (hlist _)

theorem Follows.designates_or_strays (h : Follows TakenFor root segments value) :
    Follows Designates root segments value ∨ Strays root segments := by
  induction h with
  | here value => exact Or.inl (.here value)
  | @step root next result segment rest hpart hrest ih =>
      by_cases hmissing : Missing root segment
      · obtain ⟨items, rfl⟩ := hpart.exists_items hmissing
        exact Or.inr ⟨[], segment, rest, items, next, result, rfl, .here _, hmissing, hpart, hrest⟩
      · rcases ih with hfollows | ⟨front, stop, back, items, middle, last, rfl, hfront, hstray⟩
        · exact Or.inl (.step (hpart.designates hmissing) hfollows)
        · exact Or.inr ⟨segment :: front, stop, back, items, middle, last, rfl,
            .step hpart hfront, hstray⟩

theorem Strays.exists_follows (h : Strays root segments) :
    ∃ value, Follows TakenFor root segments value := by
  obtain ⟨front, segment, back, items, next, result, rfl, hfront, -, hpart, hback⟩ := h
  exact ⟨result, follows_append_iff.mpr ⟨_, hfront, .step hpart hback⟩⟩

/-- **When a dangling pointer is rejected.**  A reference into a document whose pointer addresses
nothing is rejected exactly if the pointer does not stray: if on its way no segment is taken for an
item of a list without being the decimal of an index.  A value is returned exactly where segments
are followed as what they are taken for, and the error names the first one that is taken for
nothing.  In particular, the reference is rejected if none of its segments writes an integer in
another way than by its decimal digits. -/
theorem dangling_rejected_iff (hdangles : Dangles root (segmentsOf path)) :
    ((∃ error, locate root ("#/" ++ path) = .error error) ↔ ¬ Strays root (segmentsOf path)) ∧
    (∀ value, locate root ("#/" ++ path) = .ok value ↔
      Follows TakenFor root (segmentsOf path) value) ∧
    (∀ error, locate root ("#/" ++ path) = .error error ↔
      ∃ front segment back value, segmentsOf path = front ++ segment :: back ∧
        Follows TakenFor root front value ∧ Refuses ("#/" ++ path) value segment error) ∧
    ((∀ segment ∈ segmentsOf path, ∀ number, Number.WritesInteger segment number →
        ∃ index : ℕ, segment = toString index) →
      ∃ error, locate root ("#/" ++ path) = .error error) := by
  have hrejected : (∃ error, locate root ("#/" ++ path) = .error error) ↔
      ¬ Strays root (segmentsOf path) := by
    constructor
    · rintro ⟨error, herror⟩ hstrays
      obtain ⟨value, hvalue⟩ := hstrays.exists_follows
      rw [locate_eq_ok_iff.mpr hvalue] at herror
      cases herror
    · intro hstays
      cases hresult : locate root ("#/" ++ path) with
      | error error => exact ⟨error, rfl⟩
      | ok value =>
          rcases (locate_eq_ok_iff.mp hresult).designates_or_strays with hfollows | hstrays
          · exact absurd hfollows (dangles_iff.mp hdangles value)
          · exact absurd hstrays hstays
  refine ⟨hrejected, fun value => locate_eq_ok_iff, fun error => locate_eq_error_iff, ?_⟩
  intro hplain
  rw [hrejected]
  rintro ⟨front, segment, back, items, next, result, hsegments, -, hmissing, hpart, -⟩
  have hmem : segment ∈ segmentsOf path := by
    rw [hsegments]
    exact List.mem_append_right _ List.mem_cons_self
  obtain ⟨number, hwrites⟩ : ∃ number, Number.WritesInteger segment number := by
    cases hpart with
    | item hwrites _ _ => exact ⟨_, hwrites⟩
  obtain ⟨index, rfl⟩ := hplain segment hmem number hwrites
  exact missing_iff.mp hmissing next hpart.designates_of_toString

end Pointer

/-! ## A shelf with two books -/

namespace Sample

open Pointer

/-- A shelf with two books. -/
def twoBooks : Value := .map [(.text "shelf", .list [.text "atlas", .text "novel"])]

theorem dangles_twoBooks {segment : String}
    (hnone : ∀ place < 2, segment ≠ toString place) : Dangles twoBooks ["shelf", segment] := by
  refine ⟨["shelf"], segment, [], _, rfl, .step (designates_map_iff.mpr rfl) (.here _), ?_⟩
  exact .index hnone

theorem segmentsOf_lastBook : segmentsOf "shelf/-1" = ["shelf", "-1"] := by decide +kernel

theorem dangles_lastBook : Dangles twoBooks (segmentsOf "shelf/-1") := by
  rw [segmentsOf_lastBook]
  exact dangles_twoBooks (by decide +kernel)

theorem segmentsOf_thirdBook : segmentsOf "shelf/2" = ["shelf", "2"] := by decide +kernel

/-- There is no third book, and there is none before the first one either; but the latter is found,
as the last one. -/
theorem books_dangle :
    Dangles twoBooks (segmentsOf "shelf/2") ∧
      (∃ error, locate twoBooks ("#/" ++ "shelf/2") = .error error) ∧
      Dangles twoBooks (segmentsOf "shelf/-1") ∧
      ¬ ∃ error, locate twoBooks ("#/" ++ "shelf/-1") = .error error := by
  have hthird : Dangles twoBooks (segmentsOf "shelf/2") := by
    rw [segmentsOf_thirdBook]
    exact dangles_twoBooks (by decide +kernel)
  obtain ⟨-, -, -, hplain⟩ := dangling_rejected_iff hthird
  obtain ⟨hrejected, -⟩ := dangling_rejected_iff dangles_lastBook
  refine ⟨hthird, hplain fun segment hsegment number hwrites => ?_, dangles_lastBook, ?_⟩
  · rw [segmentsOf_thirdBook] at hsegment
    rcases List.mem_pair.mp hsegment with rfl | rfl
    · have hread : failure? (Number.readInteger "shelf") = some (.noInteger "shelf" 10) := by
        decide +kernel
      rw [Number.readInteger_eq_ok_iff.mpr hwrites] at hread
      cases hread
    · exact ⟨2, rfl⟩
  · rw [hrejected, not_not, segmentsOf_lastBook]
    have hread : Number.WritesInteger "-1" (-1) :=
      Number.readInteger_eq_ok_iff.mp (by rfl)
    exact ⟨["shelf"], "-1", [], _, _, _, rfl, .step (takenFor_map_iff.mpr rfl) (.here _),
      .index (by decide +kernel), @TakenFor.item _ _ _ 1 _ hread (Or.inr rfl) rfl, .here _⟩

/-- **A pointer that addresses nothing may be followed all the same**, to another item. -/
theorem exists_dangling_found : ¬ ∀ (root : Value) (path : String),
    Dangles root (segmentsOf path) → ∃ error, locate root ("#/" ++ path) = .error error := by
  intro hall
  obtain ⟨error, herror⟩ := hall twoBooks "shelf/-1" dangles_lastBook
  have hfound : (locate twoBooks ("#/" ++ "shelf/-1")).toOption.bind Value.asText? =
      some "novel" := by
    decide +kernel
  rw [herror] at hfound
  cases hfound

end Sample

end ResourceGraph
