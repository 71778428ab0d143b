import ResourceGraph.Proofs.Except
import ResourceGraph.Reference.Expansion

/-!
# Expansion with given answers

`Value.expandWith` goes through a value and asks a function what its references stand for.  It asks
in one order and stops at the first error, and it goes through the siblings of a reference only if
the reference stands for a mapping; otherwise they are dropped unseen.  `Occurs` lists the
references that it asks for when nothing fails.

Three facts about `Occurs` are all that is used of `expandWith` later: an expansion that succeeds
has an answer for every reference that occurs, one that fails fails with the answer for a reference
that occurs, and functions that agree on the references that occur give the same expansion.
-/

namespace ResourceGraph

namespace Value

/-- To prove something of all values, prove it of a value when it holds of its parts. -/
@[elab_as_elim]
theorem induction {motive : Value → Prop}
    (scalar : ∀ value, motive (.scalar value))
    (list : ∀ items, (∀ item ∈ items, motive item) → motive (.list items))
    (map : ∀ entries, (∀ entry ∈ entries, motive entry.2) → motive (.map entries))
    (set : ∀ members, motive (.set members))
    (pair : ∀ first second, motive first → motive second → motive (.pair first second)) :
    ∀ value, motive value
  | .scalar value => scalar value
  | .list items => list items fun item _ => induction scalar list map set pair item
  | .map entries => map entries fun entry hentry =>
      have hless : sizeOf entry.2 < 1 + sizeOf entries := by
        have hentries := List.sizeOf_lt_of_mem hentry
        have hvalue : sizeOf entry = 1 + sizeOf entry.1 + sizeOf entry.2 := rfl
        omega
      induction scalar list map set pair entry.2
  | .set members => set members
  | .pair first second =>
      pair first second (induction scalar list map set pair first)
        (induction scalar list map set pair second)

variable {answer other : String → Except ReferenceError Value} {reference : String} {value : Value}
  {entries : List (Scalar × Value)} {result : Value} {error : ReferenceError}

/-! ## Equations -/

theorem expandItems_eq_mapM (items : List Value) :
    expandItems answer items = items.mapM (expandWith answer) := by
  induction items with
  | nil => rfl
  | cons item rest ih => rw [expandItems, List.mapM_cons, ih]

theorem expandEntries_eq_mapM (entries : List (Scalar × Value)) :
    expandEntries answer entries =
      entries.mapM fun entry => do return (entry.1, ← expandWith answer entry.2) := by
  induction entries with
  | nil => rfl
  | cons entry rest ih =>
      rw [expandEntries, List.mapM_cons, ih]
      simp only [bind_assoc, pure_bind]

/-- The entries of a mapping other than its reference. -/
def siblings (entries : List (Scalar × Value)) : List (Scalar × Value) :=
  entries.filter fun entry => entry.1 ≠ Scalar.text referenceKey

theorem mem_of_mem_siblings {entry : Scalar × Value} (h : entry ∈ siblings entries) :
    entry ∈ entries := (List.mem_filter.mp h).1

theorem expandSiblings_eq (entries : List (Scalar × Value)) :
    expandSiblings answer entries = expandEntries answer (siblings entries) := by
  induction entries with
  | nil => rfl
  | cons entry rest ih =>
      rw [expandSiblings, ih]
      by_cases hkey : entry.1 = Scalar.text referenceKey
      · rw [if_pos hkey, siblings, siblings, List.filter_cons_of_neg (by simp [hkey])]
      · rw [if_neg hkey, siblings, siblings, List.filter_cons_of_pos (by simp [hkey]),
          expandEntries]

theorem expandWith_of_none (h : reference? entries = none) :
    expandWith answer (map entries) = do return map (← expandEntries answer entries) := by
  rw [expandWith, h]

/-- The siblings of a reference are laid over what it stands for if this is a mapping, and dropped
otherwise. -/
theorem expandWith_of_some (h : reference? entries = some reference) :
    expandWith answer (map entries) = answer reference >>= fun target =>
      match target with
      | map base => do
        return map (Entries.overlay base (← expandEntries answer (siblings entries)))
      | target => return target := by
  rw [expandWith, h]
  simp only [expandSiblings_eq]
  congr 1
  funext target
  cases target <;> rfl

theorem exists_of_expandEntries_eq_ok {results : List (Scalar × Value)}
    (h : expandEntries answer entries = .ok results) :
    ∀ entry ∈ entries, ∃ result, expandWith answer entry.2 = .ok result := by
  intro entry hentry
  rw [expandEntries_eq_mapM] at h
  obtain ⟨result, hresult⟩ := exists_of_mapM_eq_ok h entry hentry
  obtain ⟨value, hvalue, -⟩ := bind_eq_ok.mp hresult
  exact ⟨value, hvalue⟩

theorem exists_of_expandEntries_eq_error (h : expandEntries answer entries = .error error) :
    ∃ entry ∈ entries, expandWith answer entry.2 = .error error := by
  rw [expandEntries_eq_mapM] at h
  obtain ⟨entry, hentry, herror⟩ := exists_of_mapM_eq_error h
  rcases bind_eq_error.mp herror with hvalue | ⟨value, -, hnone⟩
  · exact ⟨entry, hentry, hvalue⟩
  · cases hnone

theorem expandEntries_congr
    (h : ∀ entry ∈ entries, expandWith answer entry.2 = expandWith other entry.2) :
    expandEntries answer entries = expandEntries other entries := by
  rw [expandEntries_eq_mapM, expandEntries_eq_mapM]
  refine mapM_congr fun entry hentry => ?_
  rw [h entry hentry]

/-! ## Results -/

/-- The entries keep their keys, and each value is expanded. -/
theorem expandEntries_eq_ok {results : List (Scalar × Value)} :
    expandEntries answer entries = .ok results ↔
      List.Forall₂ (fun entry result => result.1 = entry.1 ∧
        expandWith answer entry.2 = .ok result.2) entries results := by
  rw [expandEntries_eq_mapM]
  exact mapM_values_eq_ok_iff fun _ => expandWith answer

theorem expandWith_list_eq_ok {items : List Value} : expandWith answer (list items) = .ok result ↔
    ∃ results, List.Forall₂ (fun item part => expandWith answer item = .ok part) items results ∧
      result = list results := by
  rw [expandWith, expandItems_eq_mapM, bind_eq_ok]
  refine exists_congr fun results => ?_
  rw [mapM_eq_ok_iff]
  exact and_congr_right fun _ => ⟨fun h => (Except.ok.inj h).symm, fun h => h ▸ rfl⟩

theorem expandWith_map_eq_ok (h : reference? entries = none) :
    expandWith answer (map entries) = .ok result ↔
      ∃ results, expandEntries answer entries = .ok results ∧ result = map results := by
  rw [expandWith_of_none h, bind_eq_ok]
  exact exists_congr fun results => and_congr_right fun _ =>
    ⟨fun h => (Except.ok.inj h).symm, fun h => h ▸ rfl⟩

/-- A reference is expanded to what it stands for, with its siblings laid over a mapping. -/
theorem expandWith_reference_eq_ok (h : reference? entries = some reference) :
    expandWith answer (map entries) = .ok result ↔
      (∃ base upper, answer reference = .ok (map base) ∧
        expandEntries answer (siblings entries) = .ok upper ∧
          result = map (Entries.overlay base upper)) ∨
      (answer reference = .ok result ∧ result.isMap = false) := by
  rw [expandWith_of_some h, bind_eq_ok]
  constructor
  · rintro ⟨target, htarget, hresult⟩
    cases target with
    | map base =>
        obtain ⟨upper, hupper, hoverlay⟩ := bind_eq_ok.mp hresult
        exact Or.inl ⟨base, upper, htarget, hupper, (Except.ok.inj hoverlay).symm⟩
    | _ =>
        cases hresult
        exact Or.inr ⟨htarget, rfl⟩
  · rintro (⟨base, upper, htarget, hupper, rfl⟩ | ⟨htarget, hkind⟩)
    · exact ⟨map base, htarget, bind_eq_ok.mpr ⟨upper, hupper, rfl⟩⟩
    · refine ⟨result, htarget, ?_⟩
      cases result with
      | map base => cases hkind
      | _ => rfl

/-! ## Occurrences -/

/-- A reference occurs in a value at some depth, without references being followed.  Inside the
siblings of another reference it occurs if the other one stands for a mapping. -/
inductive Occurs (answer : String → Except ReferenceError Value) (reference : String) :
    Value → Prop
  | here {entries : List (Scalar × Value)} (hreference : reference? entries = some reference) :
      Occurs answer reference (map entries)
  | item {items : List Value} {item : Value} (hitem : item ∈ items)
      (hoccurs : Occurs answer reference item) : Occurs answer reference (list items)
  | entry {entries : List (Scalar × Value)} {entry : Scalar × Value}
      (hnone : reference? entries = none) (hentry : entry ∈ entries)
      (hoccurs : Occurs answer reference entry.2) : Occurs answer reference (map entries)
  | sibling {entries base : List (Scalar × Value)} {entry : Scalar × Value} {first : String}
      (hfirst : reference? entries = some first) (hmap : answer first = .ok (map base))
      (hentry : entry ∈ siblings entries) (hoccurs : Occurs answer reference entry.2) :
      Occurs answer reference (map entries)

theorem mem_entryReferences {entry : Scalar × Value} (hentry : entry ∈ entries)
    (hreference : reference ∈ entry.2.references) : reference ∈ entryReferences entries := by
  induction entries with
  | nil => simp at hentry
  | cons first rest ih =>
      rw [entryReferences, List.mem_append]
      rcases List.mem_cons.mp hentry with rfl | hrest
      · exact Or.inl hreference
      · exact Or.inr (ih hrest)

theorem mem_itemReferences {item : Value} {items : List Value} (hitem : item ∈ items)
    (hreference : reference ∈ item.references) : reference ∈ itemReferences items := by
  induction items with
  | nil => simp at hitem
  | cons first rest ih =>
      rw [itemReferences, List.mem_append]
      rcases List.mem_cons.mp hitem with rfl | hrest
      · exact Or.inl hreference
      · exact Or.inr (ih hrest)

namespace Occurs

theorem mem_references (h : Occurs answer reference value) : reference ∈ value.references := by
  induction h with
  | here hreference => simp [references, hreference]
  | item hitem _ ih =>
      rw [references]
      exact mem_itemReferences hitem ih
  | entry _ hentry _ ih =>
      rw [references]
      exact List.mem_append_right _ (mem_entryReferences hentry ih)
  | sibling _ _ hentry _ ih =>
      rw [references]
      exact List.mem_append_right _ (mem_entryReferences (mem_of_mem_siblings hentry) ih)

/-- More occurs when more references stand for mappings. -/
theorem mono (h : Occurs answer reference value)
    (hother : ∀ first base, answer first = .ok (map base) → ∃ base, other first = .ok (map base)) :
    Occurs other reference value := by
  induction h with
  | here hreference => exact .here hreference
  | item hitem _ ih => exact .item hitem ih
  | entry hnone hentry _ ih => exact .entry hnone hentry ih
  | sibling hfirst hmap hentry _ ih =>
      obtain ⟨base, hbase⟩ := hother _ _ hmap
      exact .sibling hfirst hbase hentry ih

/-- **An expansion that succeeds has an answer for every reference that occurs**, also if it occurs
by other answers, as long as these agree. -/
theorem exists_answer (h : Occurs other reference value)
    (hagree : ∀ first target base, answer first = .ok target → other first = .ok (map base) →
      target = map base)
    (hresult : expandWith answer value = .ok result) : ∃ target, answer reference = .ok target := by
  induction h generalizing result with
  | here hreference =>
      rw [expandWith_of_some hreference] at hresult
      obtain ⟨target, htarget, -⟩ := bind_eq_ok.mp hresult
      exact ⟨target, htarget⟩
  | item hitem _ ih =>
      rw [expandWith, expandItems_eq_mapM] at hresult
      obtain ⟨results, hresults, -⟩ := bind_eq_ok.mp hresult
      obtain ⟨result, hitem⟩ := exists_of_mapM_eq_ok hresults _ hitem
      exact ih hitem
  | entry hnone hentry _ ih =>
      rw [expandWith_of_none hnone] at hresult
      obtain ⟨results, hresults, -⟩ := bind_eq_ok.mp hresult
      obtain ⟨result, hentry⟩ := exists_of_expandEntries_eq_ok hresults _ hentry
      exact ih hentry
  | sibling hfirst hmap hentry _ ih =>
      rw [expandWith_of_some hfirst] at hresult
      obtain ⟨target, htarget, hnext⟩ := bind_eq_ok.mp hresult
      rw [hagree _ _ _ htarget hmap] at hnext
      obtain ⟨results, hresults, -⟩ := bind_eq_ok.mp hnext
      obtain ⟨result, hentry⟩ := exists_of_expandEntries_eq_ok hresults _ hentry
      exact ih hentry

end Occurs

/-- **An expansion that fails has met a reference that occurs** and whose answer is the error. -/
theorem exists_occurs_of_expandWith_eq_error (h : expandWith answer value = .error error) :
    ∃ reference, Occurs answer reference value ∧ answer reference = .error error := by
  induction value using induction with
  | scalar value => cases h
  | set members => cases h
  | pair first second => cases h
  | list items ih =>
      rw [expandWith, expandItems_eq_mapM] at h
      rcases bind_eq_error.mp h with hitems | ⟨results, -, hnone⟩
      · obtain ⟨item, hitem, herror⟩ := exists_of_mapM_eq_error hitems
        obtain ⟨reference, hoccurs, hanswer⟩ := ih item hitem herror
        exact ⟨reference, .item hitem hoccurs, hanswer⟩
      · cases hnone
  | map entries ih =>
      cases hreference : reference? entries with
      | none =>
          rw [expandWith_of_none hreference] at h
          rcases bind_eq_error.mp h with hentries | ⟨results, -, hnone⟩
          · obtain ⟨entry, hentry, herror⟩ := exists_of_expandEntries_eq_error hentries
            obtain ⟨reference, hoccurs, hanswer⟩ := ih entry hentry herror
            exact ⟨reference, .entry hreference hentry hoccurs, hanswer⟩
          · cases hnone
      | some first =>
          rw [expandWith_of_some hreference] at h
          rcases bind_eq_error.mp h with hfirst | ⟨target, htarget, hnext⟩
          · exact ⟨first, .here hreference, hfirst⟩
          cases target with
          | map base =>
              rcases bind_eq_error.mp hnext with hentries | ⟨results, -, hnone⟩
              · obtain ⟨entry, hentry, herror⟩ := exists_of_expandEntries_eq_error hentries
                obtain ⟨reference, hoccurs, hanswer⟩ :=
                  ih entry (mem_of_mem_siblings hentry) herror
                exact ⟨reference, .sibling hreference htarget hentry hoccurs, hanswer⟩
              · cases hnone
          | _ => cases hnext

/-- **Functions that agree on the references that occur give the same expansion.** -/
theorem expandWith_congr
    (h : ∀ reference, Occurs answer reference value → answer reference = other reference) :
    expandWith answer value = expandWith other value := by
  induction value using induction with
  | scalar value => rfl
  | set members => rfl
  | pair first second => rfl
  | list items ih =>
      have hitems : items.mapM (expandWith answer) = items.mapM (expandWith other) :=
        mapM_congr fun item hitem =>
          ih item hitem fun reference hoccurs => h reference (.item hitem hoccurs)
      rw [expandWith, expandWith, expandItems_eq_mapM, expandItems_eq_mapM, hitems]
  | map entries ih =>
      cases hreference : reference? entries with
      | none =>
          have hentries : expandEntries answer entries = expandEntries other entries :=
            expandEntries_congr fun entry hentry => ih entry hentry fun reference hoccurs =>
              h reference (.entry hreference hentry hoccurs)
          rw [expandWith_of_none hreference, expandWith_of_none hreference, hentries]
      | some first =>
          rw [expandWith_of_some hreference, expandWith_of_some hreference,
            ← h first (.here hreference)]
          cases hfirst : answer first with
          | error error => rfl
          | ok target =>
              cases target with
              | map base =>
                  have hentries : expandEntries answer (siblings entries) =
                      expandEntries other (siblings entries) :=
                    expandEntries_congr fun entry hentry =>
                      ih entry (mem_of_mem_siblings hentry) fun reference hoccurs =>
                        h reference (.sibling hreference hfirst hentry hoccurs)
                  simp only [hentries]
              | _ => rfl

/-- An expansion that succeeds does not change when the answers that it has are kept. -/
theorem expandWith_mono (h : ∀ reference target, answer reference = .ok target →
      other reference = .ok target)
    (hresult : expandWith answer value = .ok result) : expandWith other value = .ok result := by
  rw [← hresult]
  refine (expandWith_congr fun reference hoccurs => ?_).symm
  -- every reference that occurs has an answer, so the two functions agree on it
  have hagree : ∀ first target base, answer first = .ok target → answer first = .ok (map base) →
      target = map base := by
    intro first target base htarget hmap
    exact Except.ok.inj (htarget.symm.trans hmap)
  obtain ⟨target, htarget⟩ := hoccurs.exists_answer hagree hresult
  rw [htarget, h reference target htarget]

end Value

end ResourceGraph
