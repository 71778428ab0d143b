import Mathlib

/-!
# Related lists

What one list says about another one whose members correspond to its own, in the same order; and
what the pieces of a list between separators have to do with the whole.
-/

namespace ResourceGraph

variable {α β : Type} {related extra : α → β → Prop} {items : List α} {results : List β}

/-- What lies between separators has no separator, and nothing that the whole does not have. -/
theorem ne_and_mem_of_mem_splitOn [DecidableEq α] {separator element : α} {elements piece : List α}
    (hpiece : piece ∈ elements.splitOn separator) (helement : element ∈ piece) :
    element ≠ separator ∧ element ∈ elements := by
  induction elements generalizing piece with
  | nil =>
      rw [List.splitOn_nil, List.mem_singleton] at hpiece
      subst hpiece
      cases helement
  | cons first rest ih =>
      rw [List.splitOn_cons_eq_if_modifyHead] at hpiece
      split at hpiece
      · rcases List.mem_cons.mp hpiece with rfl | hpiece
        · cases helement
        · exact (ih hpiece helement).imp_right (List.mem_cons_of_mem _)
      · next hfirst =>
          obtain ⟨head, others, hrest⟩ :=
            List.exists_cons_of_ne_nil (List.splitOn_ne_nil separator rest)
          rw [hrest] at ih hpiece
          rw [List.modifyHead_cons] at hpiece
          rcases List.mem_cons.mp hpiece with rfl | hpiece
          · rcases List.mem_cons.mp helement with rfl | helement
            · exact ⟨fun heq => hfirst (beq_iff_eq.mpr heq), List.mem_cons_self ..⟩
            · exact (ih (List.mem_cons_self ..) helement).imp_right (List.mem_cons_of_mem _)
          · exact (ih (List.mem_cons_of_mem _ hpiece) helement).imp_right (List.mem_cons_of_mem _)

/-- What a list has beside separators lies between them. -/
theorem exists_mem_splitOn [DecidableEq α] {separator element : α} {elements : List α}
    (helement : element ∈ elements) (hne : element ≠ separator) :
    ∃ piece ∈ elements.splitOn separator, element ∈ piece := by
  induction elements with
  | nil => cases helement
  | cons first rest ih =>
      rw [List.splitOn_cons_eq_if_modifyHead]
      split
      · next hfirst =>
          have hother : element ≠ first := fun heq => hne (heq.trans (beq_iff_eq.mp hfirst))
          have hrest : element ∈ rest := (List.mem_cons.mp helement).resolve_left hother
          obtain ⟨piece, hpiece, hmem⟩ := ih hrest
          exact ⟨piece, List.mem_cons_of_mem _ hpiece, hmem⟩
      · obtain ⟨head, others, hrest⟩ :=
          List.exists_cons_of_ne_nil (List.splitOn_ne_nil separator rest)
        rw [hrest] at ih ⊢
        rw [List.modifyHead_cons]
        rcases List.mem_cons.mp helement with rfl | hlater
        · exact ⟨element :: head, List.mem_cons_self .., List.mem_cons_self ..⟩
        · obtain ⟨piece, hpiece, hmem⟩ := ih hlater
          rcases List.mem_cons.mp hpiece with rfl | hpiece
          · exact ⟨first :: piece, List.mem_cons_self .., List.mem_cons_of_mem _ hmem⟩
          · exact ⟨piece, List.mem_cons_of_mem _ hpiece, hmem⟩

theorem exists_of_mem_left (h : List.Forall₂ related items results) {item : α}
    (hitem : item ∈ items) : ∃ result ∈ results, related item result := by
  induction h with
  | nil => cases hitem
  | cons hfirst hrest ih =>
      rcases List.mem_cons.mp hitem with rfl | hlater
      · exact ⟨_, List.mem_cons_self .., hfirst⟩
      · obtain ⟨result, hresult, hrelated⟩ := ih hlater
        exact ⟨result, List.mem_cons_of_mem _ hresult, hrelated⟩

theorem exists_of_mem_right (h : List.Forall₂ related items results) {result : β}
    (hresult : result ∈ results) : ∃ item ∈ items, related item result := by
  have hflip : List.Forall₂ (flip related) results items := h.flip
  exact exists_of_mem_left hflip hresult

theorem rel_getElem? (h : List.Forall₂ related items results) (index : ℕ) :
    Option.Rel related items[index]? results[index]? := by
  induction h generalizing index with
  | nil => exact .none
  | cons hfirst _ ih =>
      cases index with
      | zero => exact .some hfirst
      | succ index => exact ih index

theorem rel_imp {other : α → β → Prop} {first : Option α} {second : Option β}
    (h : Option.Rel related first second)
    (himp : ∀ item result, related item result → other item result) :
    Option.Rel other first second := by
  cases h with
  | none => exact .none
  | some hrelated => exact .some (himp _ _ hrelated)

theorem rel_find? {holds : α → Bool} {holds' : β → Bool} (h : List.Forall₂ related items results)
    (hholds : ∀ item result, related item result → holds item = holds' result) :
    Option.Rel related (items.find? holds) (results.find? holds') := by
  induction h with
  | nil => exact .none
  | cons hfirst _ ih =>
      rw [List.find?_cons, List.find?_cons, hholds _ _ hfirst]
      split
      · exact .some hfirst
      · exact ih

/-- Corresponding members have what follows from their relation. -/
theorem forall₂_and_of_mem (h : List.Forall₂ related items results)
    (hextra : ∀ item ∈ items, ∀ result, related item result → extra item result) :
    List.Forall₂ (fun item result => related item result ∧ extra item result) items results := by
  have hall := (List.forall₂_and_left items results).mpr ⟨hextra, h⟩
  exact hall.imp fun item result hboth => ⟨hboth.2, hboth.1 result hboth.2⟩

theorem map_eq_of_forall₂ {γ : Type} {f : α → γ} {g : β → γ}
    (h : List.Forall₂ related items results)
    (heq : ∀ item result, related item result → f item = g result) :
    items.map f = results.map g := by
  induction h with
  | nil => rfl
  | cons hfirst _ ih => rw [List.map_cons, List.map_cons, heq _ _ hfirst, ih]

theorem flatMap_eq_of_forall₂ {γ : Type} {f : α → List γ} {g : β → List γ}
    (h : List.Forall₂ related items results)
    (heq : ∀ item result, related item result → f item = g result) :
    items.flatMap f = results.flatMap g := by
  rw [List.flatMap_def, List.flatMap_def, map_eq_of_forall₂ h heq]

theorem filterMap_eq_of_forall₂ {γ : Type} {f : α → Option γ} {g : β → Option γ}
    (h : List.Forall₂ related items results)
    (heq : ∀ item result, related item result → f item = g result) :
    items.filterMap f = results.filterMap g := by
  induction h with
  | nil => rfl
  | cons hfirst _ ih => rw [List.filterMap_cons, List.filterMap_cons, heq _ _ hfirst, ih]

/-- A list with an item of some kind is split at the first one. -/
theorem exists_split_at_first {holds : α → Prop} [DecidablePred holds]
    (h : ∃ item ∈ items, holds item) : ∃ before item after,
      items = before ++ item :: after ∧ (∀ other ∈ before, ¬ holds other) ∧ holds item := by
  obtain ⟨found, hfound, hholds⟩ := h
  obtain ⟨item, hfirst⟩ : ∃ item, items.find? (fun item => decide (holds item)) = some item :=
    Option.isSome_iff_exists.mp (List.find?_isSome.mpr ⟨found, hfound, by simpa using hholds⟩)
  obtain ⟨hitem, before, after, hsplit, hbefore⟩ := List.find?_eq_some_iff_append.mp hfirst
  exact ⟨before, item, after, hsplit, by simpa using hbefore, by simpa using hitem⟩

theorem findSome?_congr {f g : α → Option β} (h : ∀ item ∈ items, f item = g item) :
    items.findSome? f = items.findSome? g := by
  induction items with
  | nil => rfl
  | cons first rest ih =>
      rw [List.findSome?_cons, List.findSome?_cons, h first (List.mem_cons_self ..),
        ih fun item hitem => h item (List.mem_cons_of_mem _ hitem)]

theorem eq_of_forall₂ {items others : List α} {related : α → α → Prop}
    (h : List.Forall₂ related items others)
    (heq : ∀ item other, related item other → item = other) : items = others := by
  induction h with
  | nil => rfl
  | cons hfirst _ ih => rw [heq _ _ hfirst, ih]

/-- A list that is known up to its order is known if it has distinct images that stand in order. -/
theorem eq_of_perm_of_map_eq {γ : Type} {f : α → γ} {items others : List α}
    (hperm : items.Perm others) (hmap : items.map f = others.map f)
    (hdistinct : (items.map f).Nodup) : items = others := by
  have hlength : items.length = others.length := hperm.length_eq
  refine List.ext_getElem hlength fun index hindex hindex' => ?_
  have hsame : f items[index] = f others[index] := by
    rw [← List.getElem_map f (h := by simpa using hindex),
      ← List.getElem_map f (h := by simpa using hindex')]
    simp only [hmap]
  exact List.inj_on_of_nodup_map hdistinct (List.getElem_mem _)
    (hperm.mem_iff.mpr (List.getElem_mem _)) hsame

/-! ## Entries with keys -/

section Entries

variable {κ : Type} [BEq κ] [LawfulBEq κ]

/-- Lists with the same keys have corresponding values under every key. -/
theorem rel_lookup (related : κ → α → β → Prop) {entries : List (κ × α)}
    {results : List (κ × β)} (h : List.Forall₂ (fun entry result =>
      result.1 = entry.1 ∧ related entry.1 entry.2 result.2) entries results) (key : κ) :
    Option.Rel (related key) (entries.lookup key) (results.lookup key) := by
  induction h with
  | nil => exact .none
  | @cons entry result rest others hentry hrest ih =>
      rw [List.lookup_cons, List.lookup_cons, hentry.1]
      cases hkey : key == entry.1 with
      | true => exact .some (beq_iff_eq.mp hkey ▸ hentry.2)
      | false => exact ih

/-- Where no key is repeated, the order of the entries does not matter. -/
theorem lookup_eq_of_perm {entries others : List (κ × α)} (hperm : entries.Perm others)
    (hdistinct : (entries.map Prod.fst).Nodup) (key : κ) :
    entries.lookup key = others.lookup key := by
  induction hperm with
  | nil => rfl
  | cons entry hrest ih =>
      rw [List.lookup_cons, List.lookup_cons, ih (List.nodup_cons.mp hdistinct).2]
  | swap first second rest =>
      have hother : second.1 ≠ first.1 := by
        intro hsame
        simp [hsame] at hdistinct
      rw [List.lookup_cons, List.lookup_cons, List.lookup_cons, List.lookup_cons]
      cases hfirst : key == first.1 <;> cases hsecond : key == second.1 <;> try rfl
      exact absurd ((beq_iff_eq.mp hsecond).symm.trans (beq_iff_eq.mp hfirst)) hother
  | trans hfirst hsecond ihfirst ihsecond =>
      rw [ihfirst hdistinct, ihsecond ((hfirst.map Prod.fst).nodup_iff.mp hdistinct)]

end Entries

end ResourceGraph
