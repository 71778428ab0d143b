import ResourceGraph.Proofs.Except
import ResourceGraph.Proofs.Lists

/-!
# Two runs side by side

How the results of two computations are compared that are run on inputs which differ in the order of
some lists.  `Matches` says that both succeed with related results or that both fail with related
errors.  `Shuffled` relates two lists whose members correspond up to a permutation, and where it is
known that the order is kept, in order.
-/

namespace ResourceGraph

variable {ε ε' α α' β β' : Type}

/-! ## Results -/

/-- Both computations succeed with related results, or both fail with related errors. -/
inductive Matches (errors : ε → ε' → Prop) (related : α → α' → Prop) :
    Except ε α → Except ε' α' → Prop
  | ok {result : α} {result' : α'} (h : related result result') :
      Matches errors related (.ok result) (.ok result')
  | error {error : ε} {error' : ε'} (h : errors error error') :
      Matches errors related (.error error) (.error error')

/-- Both computations succeed with related results, or both fail. -/
abbrev Agree (related : α → α' → Prop) (first : Except ε α) (second : Except ε' α') : Prop :=
  Matches (fun _ _ => True) related first second

namespace Matches

variable {errors : ε → ε' → Prop} {related other : α → α' → Prop} {next : β → β' → Prop}
  {first : Except ε α} {second : Except ε' α'}

theorem imp (h : Matches errors related first second)
    (himp : ∀ result result', related result result' → other result result') :
    Matches errors other first second := by
  cases h with
  | ok h => exact .ok (himp _ _ h)
  | error h => exact .error h

theorem imp_of_eq (h : Matches errors related first second)
    (himp : ∀ result result', first = .ok result → second = .ok result' →
      related result result' → other result result') : Matches errors other first second := by
  cases h with
  | ok h => exact .ok (himp _ _ rfl rfl h)
  | error h => exact .error h

theorem bind {f : α → Except ε β} {g : α' → Except ε' β'} (h : Matches errors related first second)
    (hnext : ∀ result result', related result result' →
      Matches errors next (f result) (g result')) :
    Matches errors next (first >>= f) (second >>= g) := by
  cases h with
  | ok h => exact hnext _ _ h
  | error h => exact .error h

theorem bind_of_eq {f : α → Except ε β} {g : α' → Except ε' β'}
    (h : Matches errors related first second)
    (hnext : ∀ result result', first = .ok result → second = .ok result' →
      related result result' → Matches errors next (f result) (g result')) :
    Matches errors next (first >>= f) (second >>= g) := by
  cases h with
  | ok h => exact hnext _ _ rfl rfl h
  | error h => exact .error h

theorem map {f : α → β} {g : α' → β'} (h : Matches errors related first second)
    (hnext : ∀ result result', related result result' → next (f result) (g result')) :
    Matches errors next (first.map f) (second.map g) := by
  cases h with
  | ok h => exact .ok (hnext _ _ h)
  | error h => exact .error h

theorem exists_ok_iff (h : Matches errors related first second) :
    (∃ result, first = .ok result) ↔ ∃ result', second = .ok result' := by
  cases h <;> simp

theorem related_of_ok {result : α} {result' : α'}
    (h : Matches errors related (.ok result) (.ok result')) : related result result' := by
  cases h with
  | ok h => exact h

theorem exists_of_ok_left {result : α} (h : Matches errors related (.ok result) second) :
    ∃ result', second = .ok result' ∧ related result result' := by
  cases h with
  | ok h => exact ⟨_, rfl, h⟩

/-- Computations with the same errors go on alike if their results are read alike. -/
theorem bind_eq {first : Except ε α} {second : Except ε α'} {f : α → Except ε β}
    {g : α' → Except ε β} (h : Matches (· = ·) related first second)
    (hnext : ∀ result result', related result result' → f result = g result') :
    (first >>= f) = (second >>= g) := by
  cases h with
  | ok h => exact hnext _ _ h
  | error h =>
      rw [h]
      rfl

theorem map_eq {first : Except ε α} {second : Except ε α'} {f : α → β} {g : α' → β}
    (h : Matches (· = ·) related first second)
    (hnext : ∀ result result', related result result' → f result = g result') :
    first.map f = second.map g := by
  cases h with
  | ok h => exact congrArg Except.ok (hnext _ _ h)
  | error h => exact congrArg Except.error h

theorem mapError_imp {η η' : Type} {causes : η → η' → Prop} {f : ε → η} {g : ε' → η'}
    (h : Matches errors related first second)
    (himp : ∀ error error', errors error error' → causes (f error) (g error')) :
    Matches causes related (first.mapError f) (second.mapError g) := by
  cases h with
  | ok h => exact .ok h
  | error h => exact .error (himp _ _ h)

theorem mapError {η η' : Type} {f : ε → η} {g : ε' → η'} (h : Agree related first second) :
    Agree related (first.mapError f) (second.mapError g) :=
  h.mapError_imp fun _ _ _ => trivial

theorem mapError_eq {η : Type} {first : Except ε α} {second : Except ε α'} (f : ε → η)
    (h : Matches (· = ·) related first second) :
    Matches (· = ·) related (first.mapError f) (second.mapError f) :=
  h.mapError_imp fun _ _ heq => congrArg f heq

end Matches

/-- Computations of which one succeeds exactly if the other one does, and then with related
results. -/
theorem Matches.of_exists_ok_iff {related : α → α' → Prop} {first : Except ε α}
    {second : Except ε' α'}
    (hiff : (∃ result, first = .ok result) ↔ ∃ result', second = .ok result')
    (hrelated : ∀ result result', first = .ok result → second = .ok result' →
      related result result') : Agree related first second := by
  cases first <;> cases second <;> simp at hiff hrelated
  · exact .error trivial
  · exact .ok hrelated

/-- Computations that agree give the same where they are known to be the same. -/
theorem Matches.and_of_imp_eq {same : Prop} {related : α → α → Prop} {first second : Except ε α}
    (h : Agree related first second) (hsame : same → first = second) :
    Agree (fun result result' => related result result' ∧ (same → result = result')) first
      second := by
  cases h with
  | ok h => exact .ok ⟨h, fun hknown => Except.ok.inj (hsame hknown)⟩
  | error => exact .error trivial

theorem Matches.of_imp_eq {same : Prop} {first second : Except ε α}
    (h : Agree (fun _ _ => True) first second) (hsame : same → first = second) :
    Agree (fun result result' => same → result = result') first second :=
  (h.and_of_imp_eq hsame).imp fun _ _ hboth => hboth.2

/-! ## Lists -/

/-- The members of two lists correspond up to a permutation; if the order is kept, in order. -/
def Shuffled (ordered : Prop) (related : α → α' → Prop) (items : List α)
    (items' : List α') : Prop :=
  ∃ middle, List.Forall₂ related items middle ∧ middle.Perm items' ∧ (ordered → middle = items')

namespace Shuffled

variable {ordered : Prop} {related : α → α' → Prop} {next : β → β' → Prop}
  {items more : List α} {items' more' : List α'}

theorem of_forall₂ (h : List.Forall₂ related items items') :
    Shuffled ordered related items items' :=
  ⟨items', h, .refl _, fun _ => rfl⟩

theorem forall₂ (h : Shuffled ordered related items items') (hordered : ordered) :
    List.Forall₂ related items items' := by
  obtain ⟨middle, hrelated, -, hmiddle⟩ := h
  exact hmiddle hordered ▸ hrelated

theorem imp {other : α → α' → Prop} (h : Shuffled ordered related items items')
    (himp : ∀ item item', related item item' → other item item') :
    Shuffled ordered other items items' := by
  obtain ⟨middle, hrelated, hperm⟩ := h
  exact ⟨middle, hrelated.imp himp, hperm⟩

theorem and_of_mem (extra : α → α' → Prop) (h : Shuffled ordered related items items')
    (hextra : ∀ item ∈ items, ∀ item', related item item' → extra item item') :
    Shuffled ordered (fun item item' => related item item' ∧ extra item item') items items' := by
  obtain ⟨middle, hrelated, hperm⟩ := h
  exact ⟨middle, forall₂_and_of_mem hrelated hextra, hperm⟩

theorem exists_of_mem_left (h : Shuffled ordered related items items') {item : α}
    (hitem : item ∈ items) : ∃ item' ∈ items', related item item' := by
  obtain ⟨middle, hrelated, hperm, -⟩ := h
  obtain ⟨item', hmem, hitems⟩ := ResourceGraph.exists_of_mem_left hrelated hitem
  exact ⟨item', hperm.mem_iff.mp hmem, hitems⟩

theorem exists_of_mem_right (h : Shuffled ordered related items items') {item' : α'}
    (hitem : item' ∈ items') : ∃ item ∈ items, related item item' := by
  obtain ⟨middle, hrelated, hperm, -⟩ := h
  exact ResourceGraph.exists_of_mem_right hrelated (hperm.mem_iff.mpr hitem)

theorem all_eq {holds : α → Bool} {holds' : α' → Bool} (h : Shuffled ordered related items items')
    (hholds : ∀ item item', related item item' → holds item = holds' item') :
    items.all holds = items'.all holds' := by
  rw [Bool.eq_iff_iff, List.all_eq_true, List.all_eq_true]
  constructor
  · intro hall item' hitem'
    obtain ⟨item, hitem, hrelated⟩ := h.exists_of_mem_right hitem'
    exact hholds item item' hrelated ▸ hall item hitem
  · intro hall item hitem
    obtain ⟨item', hitem', hrelated⟩ := h.exists_of_mem_left hitem
    exact hholds item item' hrelated ▸ hall item' hitem'

theorem any_eq {holds : α → Bool} {holds' : α' → Bool} (h : Shuffled ordered related items items')
    (hholds : ∀ item item', related item item' → holds item = holds' item') :
    items.any holds = items'.any holds' := by
  rw [List.any_eq_not_all_not, List.any_eq_not_all_not]
  exact congrArg _ (h.all_eq fun item item' hrelated => congrArg _ (hholds item item' hrelated))

theorem append (h : Shuffled ordered related items items')
    (hmore : Shuffled ordered related more more') :
    Shuffled ordered related (items ++ more) (items' ++ more') := by
  obtain ⟨middle, hrelated, hperm, hmiddle⟩ := h
  obtain ⟨others, hothers, hpermOthers, hmiddleOthers⟩ := hmore
  refine ⟨middle ++ others, List.rel_append hrelated hothers, hperm.append hpermOthers, ?_⟩
  exact fun hordered => by rw [hmiddle hordered, hmiddleOthers hordered]

theorem map {f : α → β} {g : α' → β'} (h : Shuffled ordered related items items')
    (hnext : ∀ item item', related item item' → next (f item) (g item')) :
    Shuffled ordered next (items.map f) (items'.map g) := by
  obtain ⟨middle, hrelated, hperm, hmiddle⟩ := h
  refine ⟨middle.map g, ?_, hperm.map g, fun hordered => by rw [hmiddle hordered]⟩
  rw [List.forall₂_map_left_iff, List.forall₂_map_right_iff]
  exact hrelated.imp fun item item' => hnext item item'

theorem filterMap {f : α → Option β} {g : α' → Option β'}
    (h : Shuffled ordered related items items')
    (hnext : ∀ item item', related item item' → Option.Rel next (f item) (g item')) :
    Shuffled ordered next (items.filterMap f) (items'.filterMap g) := by
  obtain ⟨middle, hrelated, hperm, hmiddle⟩ := h
  refine ⟨middle.filterMap g, ?_, hperm.filterMap g, fun hordered => by rw [hmiddle hordered]⟩
  clear hperm hmiddle
  induction hrelated with
  | nil => exact .nil
  | @cons item item' rest rest' hitem hrest ih =>
      have hfirst := hnext item item' hitem
      rw [List.filterMap_cons, List.filterMap_cons]
      cases hf : f item <;> cases hg : g item' <;> rw [hf, hg] at hfirst
      · exact ih
      · cases hfirst
      · cases hfirst
      · cases hfirst with
        | some hboth => exact .cons hboth ih

theorem filter {holds : α → Bool} {holds' : α' → Bool} (h : Shuffled ordered related items items')
    (hholds : ∀ item item', related item item' → holds item = holds' item') :
    Shuffled ordered related (items.filter holds) (items'.filter holds') := by
  rw [← List.filterMap_eq_filter, ← List.filterMap_eq_filter]
  refine h.filterMap fun item item' hrelated => ?_
  rw [Option.guard, Option.guard, hholds item item' hrelated]
  split
  · exact .some hrelated
  · exact .none

theorem exists_mapM_of_perm {f : α → Except ε β} {results : List β} {others : List α}
    (hperm : items.Perm others) (h : others.mapM f = .ok results) :
    ∃ results', items.mapM f = .ok results' ∧ results'.Perm results := by
  obtain ⟨results', hresults, hsame⟩ := List.perm_comp_forall₂ hperm (mapM_eq_ok_iff.mp h)
  exact ⟨results', mapM_eq_ok_iff.mpr hresults, hsame⟩

/-- Going through two lists with computations that agree. -/
theorem mapM {f : α → Except ε β} {g : α' → Except ε' β'}
    (h : Shuffled ordered related items items')
    (hnext : ∀ item item', related item item' → Agree next (f item) (g item')) :
    Agree (Shuffled ordered next) (items.mapM f) (items'.mapM g) := by
  obtain ⟨middle, hrelated, hperm, hmiddle⟩ := h
  have hforall : Agree (List.Forall₂ next) (items.mapM f) (middle.mapM g) := by
    clear hperm hmiddle
    induction hrelated with
    | nil => exact .ok .nil
    | @cons item item' rest rest' hitem hrest ih =>
        rw [List.mapM_cons, List.mapM_cons]
        refine (hnext item item' hitem).bind fun result result' hresult => ?_
        exact ih.bind fun others others' hothers => .ok (.cons hresult hothers)
  cases hfirst : items.mapM f with
  | ok results =>
      rw [hfirst] at hforall
      obtain ⟨between, hbetween, hresults⟩ := hforall.exists_of_ok_left
      obtain ⟨results', hresults', hsame⟩ := exists_mapM_of_perm hperm.symm hbetween
      rw [hresults']
      refine .ok ⟨between, hresults, hsame.symm, fun hordered => ?_⟩
      rw [hmiddle hordered, hresults'] at hbetween
      exact (Except.ok.inj hbetween).symm
  | error error =>
      cases hsecond : items'.mapM g with
      | error error' => exact .error trivial
      | ok results' =>
          obtain ⟨between, hbetween, -⟩ := exists_mapM_of_perm hperm hsecond
          rw [hfirst, hbetween] at hforall
          cases hforall

end Shuffled

end ResourceGraph
