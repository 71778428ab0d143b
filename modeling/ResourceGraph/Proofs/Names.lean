import Mathlib
import ResourceGraph.Table

/-!
# The order of names

`sortNames` lists the names it is given in code point order, and the names of a table are its keys
in that order, each of them once.  Everything that goes through the names of a table visits them
from the smallest to the largest for this reason.
-/

namespace ResourceGraph

/-! ## Sorting names -/

theorem insertName_perm (name : String) (names : List String) :
    (insertName name names).Perm (name :: names) := by
  induction names with
  | nil => exact List.Perm.refl _
  | cons other rest ih =>
      by_cases hle : name ≤ other
      · rw [insertName, if_pos hle]
      · rw [insertName, if_neg hle]
        exact (ih.cons other).trans (List.Perm.swap name other rest)

theorem pairwise_insertName {name : String} {names : List String}
    (hnames : names.Pairwise (· ≤ ·)) : (insertName name names).Pairwise (· ≤ ·) := by
  induction names with
  | nil => exact List.pairwise_singleton _ _
  | cons other rest ih =>
      have hrest := List.pairwise_cons.mp hnames
      by_cases hle : name ≤ other
      · rw [insertName, if_pos hle]
        refine List.pairwise_cons.mpr ⟨fun later hlater => ?_, hnames⟩
        rcases List.mem_cons.mp hlater with rfl | hlater
        · exact hle
        · exact hle.trans (hrest.1 later hlater)
      · rw [insertName, if_neg hle]
        refine List.pairwise_cons.mpr ⟨fun later hlater => ?_, ih hrest.2⟩
        rcases List.mem_cons.mp ((insertName_perm name rest).mem_iff.mp hlater) with rfl | hlater
        · exact le_of_not_ge hle
        · exact hrest.1 later hlater

theorem sortNames_perm (names : List String) : (sortNames names).Perm names := by
  induction names with
  | nil => exact List.Perm.refl _
  | cons name rest ih => exact (insertName_perm name (sortNames rest)).trans (ih.cons name)

theorem pairwise_sortNames (names : List String) : (sortNames names).Pairwise (· ≤ ·) := by
  induction names with
  | nil => exact List.Pairwise.nil
  | cons name rest ih => exact pairwise_insertName ih

@[simp] theorem mem_sortNames {name : String} {names : List String} :
    name ∈ sortNames names ↔ name ∈ names :=
  (sortNames_perm names).mem_iff

/-- Names that do not repeat are sorted strictly. -/
theorem pairwise_lt_sortNames {names : List String} (hnames : names.Nodup) :
    (sortNames names).Pairwise (· < ·) :=
  ((pairwise_sortNames names).and ((sortNames_perm names).nodup_iff.mpr hnames)).imp
    fun h => lt_of_le_of_ne h.1 h.2

/-- The first of some sorted names is the smallest. -/
theorem head?_sortNames_eq_some {name : String} {names : List String}
    (h : (sortNames names).head? = some name) :
    name ∈ names ∧ ∀ other ∈ names, name ≤ other := by
  obtain ⟨rest, hsorted⟩ := List.head?_eq_some_iff.mp h
  have hpairwise := pairwise_sortNames names
  rw [hsorted, List.pairwise_cons] at hpairwise
  refine ⟨mem_sortNames.mp (by simp [hsorted]), fun other hother => ?_⟩
  rcases List.mem_cons.mp (hsorted ▸ mem_sortNames.mpr hother) with rfl | hrest
  · exact le_refl _
  · exact hpairwise.1 other hrest

theorem head?_sortNames_eq_none {names : List String}
    (h : (sortNames names).head? = none) : names = [] := by
  rw [List.head?_eq_none_iff] at h
  exact (h ▸ sortNames_perm names).nil_eq.symm

/-! ## The names of a table -/

theorem nodup_eraseDups {α : Type} [BEq α] [LawfulBEq α] (items : List α) :
    items.eraseDups.Nodup := by
  induction hlength : items.length using Nat.strong_induction_on generalizing items with
  | _ length ih =>
      cases items with
      | nil => simp
      | cons item rest =>
          have hless : (rest.filter fun other => !other == item).length < length :=
            hlength ▸ Nat.lt_succ_of_le (List.length_filter_le _ _)
          rw [List.eraseDups_cons, List.nodup_cons]
          refine ⟨fun hmem => ?_, ih _ hless _ rfl⟩
          have hkept := List.mem_filter.mp (List.mem_eraseDups.mp hmem)
          simp at hkept

namespace Table

variable {α : Type} {table : Table α} {name : String}

theorem has_iff_mem : table.has name ↔ name ∈ table.map Prod.fst := by
  unfold has get?
  induction table with
  | nil => simp
  | cons entry rest ih =>
      obtain ⟨key, value⟩ := entry
      by_cases hkey : name = key
      · simp [List.lookup, hkey]
      · have hbeq : (name == key) = false := beq_eq_false_iff_ne.mpr hkey
        simpa only [List.lookup, hbeq, List.map_cons, List.mem_cons, hkey, false_or] using ih

@[simp] theorem mem_names : name ∈ table.names ↔ table.has name := by
  rw [names, mem_sortNames, List.mem_eraseDups, has_iff_mem]

/-- The names of a table are listed in strictly increasing order. -/
theorem pairwise_names (table : Table α) : table.names.Pairwise (· < ·) :=
  pairwise_lt_sortNames (nodup_eraseDups _)

/-- A table answers as before when its names are changed, if no other name is changed to the one
that is asked for. -/
theorem get?_map_names {moved : String → String}
    (hinj : ∀ entry ∈ table, moved entry.1 = moved name → entry.1 = name) :
    get? (table.map fun entry => (moved entry.1, entry.2)) (moved name) =
      table.get? name := by
  unfold get?
  induction table with
  | nil => rfl
  | cons entry rest ih =>
      have hrest := ih fun other hother => hinj other (List.mem_cons_of_mem _ hother)
      rw [List.map_cons, List.lookup_cons, List.lookup_cons, hrest]
      have hkey : (moved name == moved entry.1) = (name == entry.1) := by
        rw [Bool.eq_iff_iff, beq_iff_eq, beq_iff_eq]
        constructor
        · exact fun hsame => (hinj entry (List.mem_cons_self ..) hsame.symm).symm
        · exact fun hsame => by rw [hsame]
      rw [hkey]

/-! ## The entries of a table -/

theorem mem_sorted {entry : String × α} :
    entry ∈ table.sorted ↔ table.get? entry.1 = some entry.2 := by
  rw [sorted, List.mem_filterMap]
  constructor
  · rintro ⟨name, -, hentry⟩
    obtain ⟨value, hvalue, rfl⟩ := Option.map_eq_some_iff.mp hentry
    exact hvalue
  · intro hvalue
    refine ⟨entry.1, mem_names.mpr (by rw [has, hvalue]; rfl), ?_⟩
    rw [hvalue]
    rfl

theorem map_fst_sorted (table : Table α) : table.sorted.map Prod.fst = table.names := by
  have hhas : ∀ name ∈ table.names, (table.get? name).isSome := fun name => mem_names.mp
  rw [sorted]
  generalize table.names = names at hhas
  induction names with
  | nil => rfl
  | cons name rest ih =>
      obtain ⟨value, hvalue⟩ := Option.isSome_iff_exists.mp (hhas name (List.mem_cons_self ..))
      rw [List.filterMap_cons, hvalue, Option.map_some, List.map_cons,
        ih fun other hother => hhas other (List.mem_cons_of_mem _ hother)]

theorem mem_namesWhere {condition : α → Bool} : name ∈ table.namesWhere condition ↔
    ∃ value, table.get? name = some value ∧ condition value = true := by
  simp only [namesWhere, List.mem_map, List.mem_filter, mem_sorted]
  constructor
  · rintro ⟨⟨name, value⟩, ⟨hvalue, hcondition⟩, rfl⟩
    exact ⟨value, hvalue, hcondition⟩
  · rintro ⟨value, hvalue, hcondition⟩
    exact ⟨(name, value), ⟨hvalue, hcondition⟩, rfl⟩

end Table

end ResourceGraph
