import ResourceGraph.Proofs.Lists
import ResourceGraph.Proofs.Names

/-!
# Tables that are read by name

Two tables are read alike if they have corresponding values under every name, whatever the order of
their entries.  Their names are then the same, in the same order, and the entries that are gone
through by name correspond.  A list of entries writes a table in which the last entry of each name
counts.
-/

namespace ResourceGraph

namespace Table

variable {α α' : Type} {related : α → α' → Prop} {table : Table α} {table' : Table α'}

/-- Corresponding values stand under every name. -/
def Alike (related : α → α' → Prop) (table : Table α) (table' : Table α') : Prop :=
  ∀ name, Option.Rel related (table.get? name) (table'.get? name)

namespace Alike

theorem has_eq (h : Alike related table table') (name : String) :
    table.has name = table'.has name := by
  have hvalue := h name
  unfold has
  generalize table.get? name = value at hvalue ⊢
  generalize table'.get? name = value' at hvalue ⊢
  cases hvalue <;> rfl

theorem names_eq (h : Alike related table table') : table.names = table'.names :=
  (pairwise_names table).eq_of_mem_iff (pairwise_names table') fun name => by
    rw [mem_names, mem_names, h.has_eq]

/-- The entries in the order of their names correspond. -/
theorem sorted_forall₂ (h : Alike related table table') :
    List.Forall₂ (fun entry entry' => entry'.1 = entry.1 ∧ related entry.2 entry'.2)
      table.sorted table'.sorted := by
  rw [sorted, sorted, h.names_eq]
  generalize table'.names = names
  induction names with
  | nil => exact .nil
  | cons name rest ih =>
      have hvalue := h name
      rw [List.filterMap_cons, List.filterMap_cons]
      generalize table.get? name = value at hvalue ⊢
      generalize table'.get? name = value' at hvalue ⊢
      cases hvalue with
      | none => exact ih
      | some hrelated => exact .cons ⟨rfl, hrelated⟩ ih

theorem isEmpty_eq (h : Alike related table table') : table.isEmpty = table'.isEmpty := by
  have hempty : ∀ {α : Type} (table : Table α), table.isEmpty = table.names.isEmpty := by
    intro α table
    rw [Bool.eq_iff_iff, List.isEmpty_iff, List.isEmpty_iff]
    constructor
    · rintro rfl
      rfl
    · intro hnames
      cases table with
      | nil => rfl
      | cons entry rest =>
          have hentry : entry.1 ∈ names (entry :: rest) := mem_names.mpr (has_iff_mem.mpr (by simp))
          simp [hnames] at hentry
  rw [hempty, hempty, h.names_eq]

theorem namesWhere_eq {condition : α → Bool} {condition' : α' → Bool}
    (h : Alike related table table')
    (hcondition : ∀ value value', related value value' → condition value = condition' value') :
    table.namesWhere condition = table'.namesWhere condition' := by
  rw [namesWhere, namesWhere]
  have hentries := h.sorted_forall₂
  generalize table.sorted = entries at hentries ⊢
  generalize table'.sorted = entries' at hentries ⊢
  induction hentries with
  | nil => rfl
  | cons hentry _ ih =>
      rw [List.filter_cons, List.filter_cons, hcondition _ _ hentry.2]
      split
      · rw [List.map_cons, List.map_cons, hentry.1, ih]
      · exact ih

end Alike

/-! ## Tables that entries write -/

theorem get?_put (name : String) (value : α) (table : Table α) (wanted : String) :
    (table.put name value).get? wanted =
      if wanted = name then some value else table.get? wanted := by
  unfold get?
  induction table with
  | nil =>
      rw [put, List.lookup_cons]
      split <;> simp_all
  | cons entry rest ih =>
      rw [put]
      split
      · next hsame =>
          rw [List.lookup_cons, List.lookup_cons, hsame]
          split <;> simp_all
      · rw [List.lookup_cons, ih, List.lookup_cons]
        split <;> simp_all

/-- The last entry of a name counts. -/
theorem get?_ofList (entries : List (String × α)) (name : String) : (ofList entries).get? name =
    (entries.filter fun entry => entry.1 == name).getLast?.map Prod.snd := by
  induction entries using List.reverseRecOn with
  | nil => rfl
  | append_singleton front last ih =>
      rw [ofList, List.foldl_append, List.foldl_cons, List.foldl_nil, ← ofList, get?_put, ih,
        List.filter_append, List.getLast?_append, List.filter_cons, List.filter_nil]
      by_cases hname : last.1 = name
      · simp [hname]
      · simp [beq_false_of_ne hname, Ne.symm hname]

theorem rel_getLast? {items : List α} {items' : List α'} (h : List.Forall₂ related items items') :
    Option.Rel related items.getLast? items'.getLast? := by
  rw [List.getLast?_eq_getElem?, List.getLast?_eq_getElem?, h.length_eq]
  exact rel_getElem? h _

/-- Lists whose entries with the same name correspond write tables that are read alike. -/
theorem alike_ofList {entries : List (String × α)} {entries' : List (String × α')}
    (h : ∀ name, List.Forall₂ (fun entry entry' => related entry.2 entry'.2)
      (entries.filter fun entry => entry.1 == name)
      (entries'.filter fun entry => entry.1 == name)) :
    Alike related (ofList entries) (ofList entries') := by
  intro name
  have hlast := rel_getLast? (h name)
  rw [get?_ofList, get?_ofList]
  generalize (entries.filter fun entry => entry.1 == name).getLast? = last at hlast ⊢
  generalize (entries'.filter fun entry => entry.1 == name).getLast? = last' at hlast ⊢
  cases hlast with
  | none => exact .none
  | some hrelated => exact .some hrelated

end Table

end ResourceGraph
