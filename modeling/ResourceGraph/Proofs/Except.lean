import Mathlib

/-!
# Results with errors

How a result of a computation that may fail comes from the results of its steps.
-/

namespace ResourceGraph

variable {ε ε' α β : Type}

theorem bind_eq_ok {first : Except ε α} {next : α → Except ε β} {result : β} :
    first >>= next = .ok result ↔ ∃ value, first = .ok value ∧ next value = .ok result := by
  cases first with
  | error error => simp [bind, Except.bind]
  | ok value => simp [bind, Except.bind]

theorem bind_eq_error {first : Except ε α} {next : α → Except ε β} {error : ε} :
    first >>= next = .error error ↔
      first = .error error ∨ ∃ value, first = .ok value ∧ next value = .error error := by
  cases first with
  | error cause => simp [bind, Except.bind]
  | ok value => simp [bind, Except.bind]

/-- What is only passed on through a function fails if it fails itself. -/
theorem bind_pure_eq_error {first : Except ε α} {f : α → β} {error : ε} :
    (first >>= fun value => pure (f value)) = .error error ↔ first = .error error := by
  cases first with
  | error cause => simp [bind, Except.bind]
  | ok value => simp [bind, Except.bind, pure, Except.pure]

theorem map_eq_ok {first : Except ε α} {f : α → β} {result : β} :
    first.map f = .ok result ↔ ∃ value, first = .ok value ∧ f value = result := by
  cases first with
  | error error => simp [Except.map]
  | ok value => simp [Except.map]

theorem map_eq_error {first : Except ε α} {f : α → β} {error : ε} :
    first.map f = .error error ↔ first = .error error := by
  cases first with
  | error cause => simp [Except.map]
  | ok value => simp [Except.map]

theorem mapError_eq_ok {first : Except ε α} {f : ε → ε'} {result : α} :
    first.mapError f = .ok result ↔ first = .ok result := by
  cases first with
  | error error => simp [Except.mapError]
  | ok value => simp [Except.mapError]

theorem mapError_eq_error {first : Except ε α} {f : ε → ε'} {error : ε'} :
    first.mapError f = .error error ↔ ∃ cause, first = .error cause ∧ f cause = error := by
  cases first with
  | error cause => simp [Except.mapError]
  | ok value => simp [Except.mapError]

/-- A computation has a result exactly if it does not fail. -/
theorem exists_eq_ok_iff {first : Except ε α} :
    (∃ result, first = .ok result) ↔ ∀ error, first ≠ .error error := by
  cases first with
  | error cause => simp
  | ok value => simp

/-- The error of a computation that fails. -/
def failure? (first : Except ε α) : Option ε :=
  match first with
  | .error error => some error
  | .ok _ => none

theorem failure?_eq_some_iff {first : Except ε α} {error : ε} :
    failure? first = some error ↔ first = .error error := by
  cases first <;> simp [failure?]

/-- A computation whose result is known by what is computed from it. -/
theorem exists_of_toOption_map_eq_some {first : Except ε α} {f : α → β} {value : β}
    (h : first.toOption.map f = some value) : ∃ result, first = .ok result ∧ f result = value := by
  cases first with
  | error error => simp [Except.toOption] at h
  | ok result => exact ⟨result, rfl, by simpa [Except.toOption] using h⟩

/-! ## Lists -/

section List

variable {f g : α → Except ε β} {items : List α}

theorem exists_of_mapM_eq_ok {results : List β} (h : items.mapM f = .ok results) :
    ∀ item ∈ items, ∃ result, f item = .ok result := by
  induction items generalizing results with
  | nil => simp
  | cons first rest ih =>
      rw [List.mapM_cons] at h
      obtain ⟨result, hresult, hnext⟩ := bind_eq_ok.mp h
      obtain ⟨others, hothers, -⟩ := bind_eq_ok.mp hnext
      intro item hitem
      rcases List.mem_cons.mp hitem with rfl | hrest
      · exact ⟨result, hresult⟩
      · exact ih hothers item hrest

theorem mapM_eq_ok_iff {results : List β} :
    items.mapM f = .ok results ↔
      List.Forall₂ (fun item result => f item = .ok result) items results := by
  induction items generalizing results with
  | nil =>
      rw [List.mapM_nil, List.forall₂_nil_left_iff]
      exact ⟨fun h => (Except.ok.inj h).symm, fun h => h ▸ rfl⟩
  | cons first rest ih =>
      rw [List.mapM_cons, List.forall₂_cons_left_iff, bind_eq_ok]
      refine exists_congr fun result => ?_
      constructor
      · rintro ⟨hresult, hnext⟩
        obtain ⟨others, hothers, hall⟩ := bind_eq_ok.mp hnext
        exact ⟨others, hresult, ih.mp hothers, (Except.ok.inj hall).symm⟩
      · rintro ⟨others, hresult, hothers, rfl⟩
        exact ⟨hresult, bind_eq_ok.mpr ⟨others, ih.mpr hothers, rfl⟩⟩

/-- Going through the values of some entries keeps their keys. -/
theorem mapM_values_eq_ok_iff {κ : Type} (f : κ → α → Except ε β) {entries : List (κ × α)}
    {results : List (κ × β)} :
    (entries.mapM fun entry => do return (entry.1, ← f entry.1 entry.2)) = .ok results ↔
      List.Forall₂ (fun entry result => result.1 = entry.1 ∧ f entry.1 entry.2 = .ok result.2)
        entries results := by
  have hentry : (fun (entry : κ × α) (result : κ × β) =>
      (do return (entry.1, ← f entry.1 entry.2)) = Except.ok result) =
        fun entry result => result.1 = entry.1 ∧ f entry.1 entry.2 = .ok result.2 := by
    funext entry ⟨key, part⟩
    rw [eq_iff_iff, bind_eq_ok]
    constructor
    · rintro ⟨part, hpart, hresult⟩
      cases hresult
      exact ⟨rfl, hpart⟩
    · rintro ⟨rfl, hpart⟩
      exact ⟨part, hpart, rfl⟩
  rw [mapM_eq_ok_iff, hentry]

theorem mapM_congr (h : ∀ item ∈ items, f item = g item) : items.mapM f = items.mapM g := by
  induction items with
  | nil => rfl
  | cons first rest ih =>
      have hrest := ih fun item hitem => h item (List.mem_cons_of_mem _ hitem)
      rw [List.mapM_cons, List.mapM_cons, h first (List.mem_cons_self ..), hrest]

theorem mapM_eq_of_forall₂ {γ : Type} {related : α → γ → Prop} {others : List γ}
    {g : γ → Except ε β} (h : List.Forall₂ related items others)
    (heq : ∀ item other, related item other → f item = g other) : items.mapM f = others.mapM g := by
  induction h with
  | nil => rfl
  | cons hfirst _ ih => rw [List.mapM_cons, List.mapM_cons, heq _ _ hfirst, ih]

/-- What every step keeps holds in the end. -/
theorem of_foldlM_eq_ok {step : β → α → Except ε β} (holds : β → Prop)
    (hstep : ∀ state item next, holds state → step state item = .ok next → holds next)
    {start result : β} (hstart : holds start) (h : items.foldlM step start = .ok result) :
    holds result := by
  induction items generalizing start with
  | nil =>
      cases h
      exact hstart
  | cons item rest ih =>
      rw [List.foldlM_cons] at h
      obtain ⟨next, hnext, hrest⟩ := bind_eq_ok.mp h
      exact ih (hstep start item next hstart hnext) hrest

theorem exists_of_foldlM_eq_error {step : β → α → Except ε β} {start : β} {error : ε}
    (h : items.foldlM step start = .error error) :
    ∃ state, ∃ item ∈ items, step state item = .error error := by
  induction items generalizing start with
  | nil => cases h
  | cons item rest ih =>
      rw [List.foldlM_cons] at h
      rcases bind_eq_error.mp h with hitem | ⟨next, -, hrest⟩
      · exact ⟨start, item, List.mem_cons_self .., hitem⟩
      · obtain ⟨state, found, hfound, herror⟩ := ih hrest
        exact ⟨state, found, List.mem_cons_of_mem _ hfound, herror⟩

end List

/-! ## The first failure -/

/-- Some items are gone through in order, and the first one that fails does so with an error. -/
inductive FirstFailure (fails : α → ε → Prop) : List α → ε → Prop
  | here {item : α} {rest : List α} {error : ε} (hfails : fails item error) :
      FirstFailure fails (item :: rest) error
  | later {item : α} {rest : List α} {error : ε} (hsound : ∀ cause, ¬ fails item cause)
      (hrest : FirstFailure fails rest error) : FirstFailure fails (item :: rest) error

section FirstFailure

variable {fails : α → ε → Prop} {items : List α} {error : ε}

theorem firstFailure_cons {item : α} {rest : List α} :
    FirstFailure fails (item :: rest) error ↔
      fails item error ∨ (∀ cause, ¬ fails item cause) ∧ FirstFailure fails rest error := by
  constructor
  · intro h
    cases h with
    | here hfails => exact Or.inl hfails
    | later hsound hrest => exact Or.inr ⟨hsound, hrest⟩
  · rintro (hfails | ⟨hsound, hrest⟩)
    · exact .here hfails
    · exact .later hsound hrest

theorem FirstFailure.exists_mem (h : FirstFailure fails items error) :
    ∃ item ∈ items, fails item error := by
  induction h with
  | here hfails => exact ⟨_, List.mem_cons_self .., hfails⟩
  | later _ _ ih =>
      obtain ⟨item, hitem, hfails⟩ := ih
      exact ⟨item, List.mem_cons_of_mem _ hitem, hfails⟩

theorem forall_not_firstFailure_iff : (∀ error, ¬ FirstFailure fails items error) ↔
    ∀ item ∈ items, ∀ error, ¬ fails item error := by
  induction items with
  | nil => exact ⟨fun _ _ hitem => (by cases hitem), fun _ _ h => (by cases h)⟩
  | cons first rest ih =>
      simp only [firstFailure_cons, List.forall_mem_cons, ← ih]
      constructor
      · intro h
        have hfirst : ∀ cause, ¬ fails first cause := fun cause hcause => h cause (Or.inl hcause)
        exact ⟨hfirst, fun error hrest => h error (Or.inr ⟨hfirst, hrest⟩)⟩
      · rintro ⟨hfirst, hrest⟩ error (hfails | ⟨-, hlater⟩)
        · exact hfirst error hfails
        · exact hrest error hlater

/-- Among items with increasing keys the first failure is the one with the least key. -/
theorem firstFailure_iff_of_pairwise {κ : Type} [LinearOrder κ] (key : α → κ)
    (hitems : items.Pairwise fun item later => key item < key later) :
    FirstFailure fails items error ↔ ∃ item ∈ items, fails item error ∧
      ∀ other ∈ items, ∀ cause, fails other cause → key item ≤ key other := by
  induction items with
  | nil => simpa using fun h : FirstFailure fails [] error => by cases h
  | cons first rest ih =>
      obtain ⟨hfirst, hrest⟩ := List.pairwise_cons.mp hitems
      rw [firstFailure_cons, ih hrest]
      constructor
      · rintro (hfails | ⟨hsound, item, hitem, hfails, hleast⟩)
        · refine ⟨first, List.mem_cons_self .., hfails, fun other hother cause _ => ?_⟩
          rcases List.mem_cons.mp hother with rfl | hlater
          · exact le_refl _
          · exact (hfirst other hlater).le
        · refine ⟨item, List.mem_cons_of_mem _ hitem, hfails, fun other hother cause hcause => ?_⟩
          rcases List.mem_cons.mp hother with rfl | hlater
          · exact absurd hcause (hsound cause)
          · exact hleast other hlater cause hcause
      · rintro ⟨item, hitem, hfails, hleast⟩
        rcases List.mem_cons.mp hitem with rfl | hlater
        · exact Or.inl hfails
        · refine Or.inr ⟨fun cause hcause => ?_, item, hlater, hfails, fun other hother =>
            hleast other (List.mem_cons_of_mem _ hother)⟩
          exact absurd (hleast first (List.mem_cons_self ..) cause hcause)
            (not_le_of_gt (hfirst item hlater))

theorem mapM_eq_error_iff {f : α → Except ε β} : items.mapM f = .error error ↔
    FirstFailure (fun item cause => f item = .error cause) items error := by
  induction items with
  | nil => exact ⟨fun h => (by cases h), fun h => (by cases h)⟩
  | cons first rest ih =>
      rw [List.mapM_cons, bind_eq_error, firstFailure_cons, ← exists_eq_ok_iff, ← ih,
        ← exists_and_right]
      refine or_congr_right (exists_congr fun result => and_congr_right fun _ => ?_)
      rw [bind_eq_error]
      exact or_iff_left fun ⟨_, _, hnone⟩ => by cases hnone

theorem exists_of_mapM_eq_error {f : α → Except ε β} (h : items.mapM f = .error error) :
    ∃ item ∈ items, f item = .error error := (mapM_eq_error_iff.mp h).exists_mem

/-- A fold fails as its first failing item does if the steps before do not matter. -/
theorem foldlM_eq_error_iff {step : β → α → Except ε β} {start : β}
    (hstep : ∀ state item cause, step state item = .error cause ↔ fails item cause) :
    items.foldlM step start = .error error ↔ FirstFailure fails items error := by
  induction items generalizing start with
  | nil => exact ⟨fun h => (by cases h), fun h => (by cases h)⟩
  | cons first rest ih =>
      have hsound : (∃ state, step start first = .ok state) ↔ ∀ cause, ¬ fails first cause := by
        simp only [exists_eq_ok_iff, ne_eq, hstep]
      rw [List.foldlM_cons, bind_eq_error, firstFailure_cons, hstep, ← hsound, ← exists_and_right]
      simp only [ih]

end FirstFailure

end ResourceGraph
