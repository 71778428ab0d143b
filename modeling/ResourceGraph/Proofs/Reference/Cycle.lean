import ResourceGraph.Proofs.Reference.Following

/-!
# Cycles of references

The documents that are rejected for a circular chain are the cyclic ones.  A reference leads to the
references that occur in its target.  If a document expands, then no chain of references that starts
in it goes on for ever.  If it is rejected, then the chain that is reported starts in the document,
goes from each reference to one it leads to, and ends in one that it already has, so that it can go
on for ever.

What occurs depends on which references stand for mappings.  This is asked of the document as a
whole, `followed root []`, and not of the chain that is being followed: by `followed_mono` the
answer is the same wherever there is one.
-/

namespace ResourceGraph

namespace Value

/-- A reference leads to those that occur in its target. -/
def Leads (root : Value) (reference next : String) : Prop :=
  ∃ target, Pointer.locate root reference = .ok target ∧ Occurs (followed root []) next target

/-- Some references of a document can be followed for ever. -/
def Endless (root : Value) : Prop :=
  ∃ path : ℕ → String, Occurs (followed root []) (path 0) root ∧
    ∀ step, Leads root (path step) (path (step + 1))

/-- A chain of references that starts in a document and comes back to itself. -/
structure Returns (root : Value) (chain : List String) : Prop where
  starts : ∃ first, chain.head? = some first ∧ Occurs (followed root []) first root
  leads : chain.IsChain (Leads root)
  repeats : ∃ last, chain.getLast? = some last ∧ last ∈ chain.dropLast

variable {root value result : Value} {reference : String} {chain full : List String} {depth : ℕ}

/-! ## Expansions that succeed -/

/-- Two ways to follow a reference that both succeed give the same value. -/
theorem follow_unique {first second : Value} {chain' : List String} {depth' : ℕ}
    (hfirst : follow root depth chain reference = .ok first)
    (hsecond : follow root depth' chain' reference = .ok second) : first = second := by
  have hleft := follow_mono (le_max_left depth depth') (List.nil_subset _) hfirst
  have hright := follow_mono (le_max_right depth depth') (List.nil_subset _) hsecond
  exact Except.ok.inj (hleft.symm.trans hright)

/-- In an expansion that succeeds every reference that occurs has been followed. -/
theorem exists_follow_of_occurs (hoccurs : Occurs (followed root []) reference value)
    (h : expandWith (follow root depth chain) value = .ok result) :
    ∃ target, follow root depth chain reference = .ok target :=
  hoccurs.exists_answer (fun _ _ _ htarget hmap => follow_unique htarget hmap) h

/-- From a reference that has been followed no path goes on for ever. -/
theorem not_leads_forever (path : ℕ → String)
    (h : follow root depth chain (path 0) = .ok result) :
    ¬ ∀ step, Leads root (path step) (path (step + 1)) := by
  intro hleads
  -- every step of the path uses up one of the references that may still be followed
  induction depth generalizing chain path result with
  | zero => cases h
  | succ depth ih =>
      simp only [follow] at h
      split at h
      · cases h
      obtain ⟨target, htarget, hresult⟩ := bind_eq_ok.mp h
      obtain ⟨located, hlocated, hoccurs⟩ := hleads 0
      cases htarget.symm.trans hlocated
      obtain ⟨next, hnext⟩ := exists_follow_of_occurs hoccurs hresult
      exact ih (fun step => path (step + 1)) hnext fun step => hleads (step + 1)

theorem not_endless_of_expand_eq_ok (h : expand root = .ok result) : ¬ Endless root := by
  rintro ⟨path, hstart, hleads⟩
  obtain ⟨target, htarget⟩ := exists_follow_of_occurs hstart h
  exact not_leads_forever path htarget hleads

/-! ## Expansions that are rejected -/

/-- A target that is not found is not a cycle. -/
theorem locate_ne_circular : Pointer.locate root reference ≠ .error (.circular full) := by
  intro h
  unfold Pointer.locate at h
  split at h
  · cases h
  · obtain ⟨state, segment, -, hstep⟩ := exists_of_foldlM_eq_error h
    unfold Pointer.step at hstep
    split at hstep
    · split at hstep <;> cases hstep
    · split at hstep <;> cases hstep
    · cases hstep

/-- **One step of a cycle.**  A reference is reported as circular because it is being followed, or
because it leads to one that is reported. -/
theorem followed_eq_circular (h : followed root chain reference = .error (.circular full)) :
    (reference ∈ chain ∧ full = chain ++ [reference]) ∨
      (reference ∉ chain ∧ ∃ next, Leads root reference next ∧ next ∈ root.references ∧
        followed root (chain ++ [reference]) next = .error (.circular full)) := by
  by_cases hmem : reference ∈ chain
  · rw [followed_of_mem hmem] at h
    cases h
    exact Or.inl ⟨hmem, rfl⟩
  · rw [followed_of_not_mem hmem] at h
    refine Or.inr ⟨hmem, ?_⟩
    rcases bind_eq_error.mp h with hlocate | ⟨target, htarget, hexpand⟩
    · exact absurd hlocate locate_ne_circular
    · obtain ⟨next, hoccurs, hnext⟩ := exists_occurs_of_expandWith_eq_error hexpand
      have hmaps : Occurs (followed root []) next target :=
        hoccurs.mono fun first base hbase => ⟨base, followed_mono (List.nil_subset _) hbase⟩
      exact ⟨next, ⟨target, htarget, hmaps⟩,
        references_subset_of_locate htarget hoccurs.mem_references, hnext⟩

/-- **A whole cycle.**  What is reported goes on from the references that are being followed, each
leading to the next, to one that is already there. -/
theorem exists_rest_of_circular (hreference : reference ∈ root.references)
    (h : followed root chain reference = .error (.circular full)) :
    ∃ rest, full = chain ++ reference :: rest ∧ (reference :: rest).IsChain (Leads root) ∧
      ∃ last, full.getLast? = some last ∧ last ∈ full.dropLast := by
  -- the induction is on the references of the document that are not being followed yet
  induction hbound : pending root chain using Nat.strong_induction_on
    generalizing chain reference with
  | _ bound ih =>
      rcases followed_eq_circular h with ⟨hmem, rfl⟩ | ⟨hnew, next, hleads, hnext, hreported⟩
      · exact ⟨[], rfl, .singleton _, reference, by simp, by simpa using hmem⟩
      · have hless := pending_append_lt hreference hnew
        obtain ⟨rest, hfull, hchain, hrepeats⟩ := ih _ (hbound ▸ hless) hnext hreported rfl
        refine ⟨next :: rest, ?_, List.isChain_cons_cons.mpr ⟨hleads, hchain⟩, hrepeats⟩
        rw [hfull, List.append_assoc, List.singleton_append]

theorem returns_of_expand_eq_circular (h : expand root = .error (.circular full)) :
    Returns root full := by
  obtain ⟨first, hoccurs, hfirst⟩ := exists_occurs_of_expandWith_eq_error h
  obtain ⟨rest, rfl, hchain, hrepeats⟩ := exists_rest_of_circular hoccurs.mem_references hfirst
  exact ⟨⟨first, rfl, hoccurs⟩, hchain, hrepeats⟩

/-- All but the last reference of a chain lead to another one of the chain. -/
theorem exists_next_of_mem_dropLast (h : chain.IsChain (Leads root))
    (hmem : reference ∈ chain.dropLast) : ∃ next ∈ chain, Leads root reference next := by
  induction chain with
  | nil => simp at hmem
  | cons first rest ih =>
      cases rest with
      | nil => simp at hmem
      | cons second rest =>
          obtain ⟨hfirst, hrest⟩ := List.isChain_cons_cons.mp h
          rw [List.dropLast_cons_cons] at hmem
          rcases List.mem_cons.mp hmem with rfl | hlater
          · exact ⟨second, by simp, hfirst⟩
          · obtain ⟨next, hnext, hleads⟩ := ih hrest hlater
            exact ⟨next, List.mem_cons_of_mem _ hnext, hleads⟩

/-- A chain that comes back to itself can be followed for ever. -/
theorem Returns.endless (h : Returns root chain) : Endless root := by
  obtain ⟨⟨first, hfirst, hoccurs⟩, hleads, last, hlast, hrepeats⟩ := h
  -- the last reference is an earlier one, so each of the chain leads to another of the chain
  have hnext : ∀ member : { reference // reference ∈ chain },
      ∃ next : { reference // reference ∈ chain }, Leads root member next := by
    rintro ⟨reference, hmem⟩
    have hearlier : reference ∈ chain.dropLast := by
      rw [← List.dropLast_append_getLast? last hlast] at hmem
      rcases List.mem_append.mp hmem with hmem | hmem
      · exact hmem
      · rw [List.mem_singleton.mp hmem]
        exact hrepeats
    obtain ⟨next, hmember, hleads⟩ := exists_next_of_mem_dropLast hleads hearlier
    exact ⟨⟨next, hmember⟩, hleads⟩
  choose next hnext using hnext
  let path (step : ℕ) : { reference // reference ∈ chain } :=
    next^[step] ⟨first, List.mem_of_mem_head? hfirst⟩
  refine ⟨fun step => path step, hoccurs, fun step => ?_⟩
  have hstep : path (step + 1) = next (path step) := Function.iterate_succ_apply' ..
  show Leads root (path step) (path (step + 1))
  rw [hstep]
  exact hnext (path step)

/-! ## The cyclic documents -/

/-- **The cyclic documents are rejected.**  The expansion of a document ends: its recursion has one
solution, and the calls of the recursion cannot go on for ever.  If it succeeds, then no references
of the document can be followed for ever.  If it reports a circular chain, then this chain starts in
the document, each of its references leads to the next and the last one is there before, so that its
references can be followed for ever. -/
theorem expand_rejects_cycles (root : Value) :
    (WellFounded (Calls root) ∧ ∀ resolve, Resolves root resolve ↔ resolve = expandFrom root) ∧
      (∀ result, expand root = .ok result → ¬ Endless root) ∧
      ∀ chain, expand root = .error (.circular chain) → Returns root chain ∧ Endless root := by
  refine ⟨⟨wellFounded_calls root, fun resolve => resolves_iff⟩, fun result h => ?_,
    fun chain h => ?_⟩
  · exact not_endless_of_expand_eq_ok h
  · have hreturns := returns_of_expand_eq_circular h
    exact ⟨hreturns, hreturns.endless⟩

end Value

/-! ## Two sample documents -/

namespace Sample

open Value

/-- A document whose nodes refer to each other. -/
def loop : Value :=
  map [(.text "a", list [map [(.text "$ref", text "#/b")]]),
    (.text "b", map [(.text "c", map [(.text "$ref", text "#/a/0")])])]

/-- A document whose nodes share a target. -/
def shared : Value :=
  map [(.text "a", list [map [(.text "$ref", text "#/b")], map [(.text "$ref", text "#/b")]]),
    (.text "b", map [(.text "c", text "d")])]

/-- The nodes that refer to each other are rejected, a shared target is not. -/
theorem loop_rejected :
    (Returns loop ["#/b", "#/a/0", "#/b"] ∧ Endless loop) ∧ ¬ Endless shared := by
  have hloop : expand loop = .error (.circular ["#/b", "#/a/0", "#/b"]) := by rfl
  have hshared : ∃ result, expand shared = .ok result := ⟨_, by rfl⟩
  obtain ⟨result, hresult⟩ := hshared
  exact ⟨(expand_rejects_cycles loop).2.2 _ hloop,
    (expand_rejects_cycles shared).2.1 result hresult⟩

end Sample

end ResourceGraph
