import ResourceGraph.Proofs.Reference.Expansion

/-!
# Following without a bound

`Value.follow` is told how many references it may follow inside one another.  Here this number is
shown not to matter: a chain never repeats a reference, and after the first one only references of
the document are met, so the references of the document that are not in the chain become fewer with
every step.

`Resolves` is the recursion without the number.  `resolves_iff` says that `expandFrom` is its only
solution, and `wellFounded_calls` that its calls cannot go on for ever.  What a reference stands
for, once it is known, does not depend on the chain either; this is `followed_mono`.
-/

namespace ResourceGraph

namespace Value

variable {root value target result : Value} {reference : String} {chain shorter : List String}
  {depth deeper : ℕ}

/-! ## Targets -/

/-- A part of a value has no other references than the value. -/
theorem references_subset_of_step {segment : String}
    (h : Pointer.step reference value segment = .ok result) :
    result.references ⊆ value.references := by
  intro found hfound
  unfold Pointer.step at h
  split at h
  · next entries =>
      split at h
      · next part hpart =>
          cases h
          obtain ⟨before, after, rfl, -⟩ := List.lookup_eq_some_iff.mp hpart
          rw [references]
          exact List.mem_append_right _ (mem_entryReferences (List.mem_append_cons_self ..) hfound)
      · cases h
  · next items =>
      split at h
      · next part hpart =>
          cases h
          obtain ⟨index, -, hitem⟩ := Option.bind_eq_some_iff.mp hpart
          rw [references]
          refine mem_itemReferences ?_ hfound
          unfold Pointer.item? at hitem
          split at hitem
          · exact List.mem_of_getElem? hitem
          · split at hitem
            · exact List.mem_of_getElem? hitem
            · cases hitem
      · cases h
  · cases h

/-- The target of a reference has no other references than the document. -/
theorem references_subset_of_locate (h : Pointer.locate root reference = .ok target) :
    target.references ⊆ root.references := by
  unfold Pointer.locate at h
  split at h
  · cases h
  · next segments _ =>
      refine of_foldlM_eq_ok (fun part : Value => part.references ⊆ root.references)
        (fun part segment next hpart hstep => ?_) (List.Subset.refl _) h
      exact List.Subset.trans (references_subset_of_step hstep) hpart

/-! ## The references that are left -/

/-- The number of references of a document that are not in a chain. -/
def pending (root : Value) (chain : List String) : ℕ :=
  (root.references.toFinset \ chain.toFinset).card

theorem pending_le (root : Value) (chain : List String) :
    pending root chain ≤ root.references.length :=
  (Finset.card_le_card Finset.sdiff_subset).trans (List.toFinset_card_le _)

theorem mem_of_pending_eq_zero (h : pending root chain = 0)
    (hreference : reference ∈ root.references) : reference ∈ chain := by
  have hsubset := Finset.sdiff_eq_empty_iff_subset.mp (Finset.card_eq_zero.mp h)
  simpa using hsubset (List.mem_toFinset.mpr hreference)

theorem pending_append_lt (hreference : reference ∈ root.references) (hnew : reference ∉ chain) :
    pending root (chain ++ [reference]) < pending root chain := by
  refine Finset.card_lt_card ⟨Finset.sdiff_subset_sdiff subset_rfl ?_, fun hsubset => ?_⟩
  · intro found hfound
    simp [List.mem_toFinset.mp hfound]
  · have hmem : reference ∈ root.references.toFinset \ chain.toFinset := by
      simp [hreference, hnew]
    simpa using hsubset hmem

/-! ## The bound does not matter -/

/-- **The bound does not matter** if it is at least the number of references that are left. -/
theorem follow_eq_follow (hdepth : pending root chain ≤ depth)
    (hdeeper : pending root chain ≤ deeper)
    (hreference : reference ∈ root.references) :
    follow root depth chain reference = follow root deeper chain reference := by
  -- with nothing left the reference is in the chain, and both sides report the same circle
  induction depth generalizing deeper chain reference with
  | zero =>
      have hmem := mem_of_pending_eq_zero (Nat.le_zero.mp hdepth) hreference
      cases deeper with
      | zero => rfl
      | succ deeper => simp [follow, hmem]
  | succ depth ih =>
      by_cases hmem : reference ∈ chain
      · cases deeper <;> simp [follow, hmem]
      · have hless := pending_append_lt hreference hmem
        cases deeper with
        | zero => omega
        | succ deeper =>
            simp only [follow, List.contains_eq_mem, decide_eq_true_eq, if_neg hmem]
            cases htarget : Pointer.locate root reference with
            | error error => rfl
            | ok target =>
                refine expandWith_congr fun next hoccurs => ih (by omega) (by omega) ?_
                exact references_subset_of_locate htarget hoccurs.mem_references

/-- What a reference stands for while the references of a chain are being followed. -/
def followed (root : Value) (chain : List String) (reference : String) :
    Except ReferenceError Value :=
  follow root (root.references.length + 1) chain reference

theorem expandFrom_eq_expandWith (root : Value) (chain : List String) (value : Value) :
    expandFrom root chain value = expandWith (followed root chain) value := rfl

theorem followed_of_mem (h : reference ∈ chain) :
    followed root chain reference = .error (.circular (chain ++ [reference])) := by
  simp [followed, follow, h]

/-- A reference that is not being followed stands for its target, expanded with the reference added
to the chain. -/
theorem followed_of_not_mem (h : reference ∉ chain) :
    followed root chain reference =
      Pointer.locate root reference >>= expandFrom root (chain ++ [reference]) := by
  simp only [followed, follow, List.contains_eq_mem, decide_eq_true_eq, if_neg h]
  cases htarget : Pointer.locate root reference with
  | error error => rfl
  | ok target =>
      have hbound := pending_le root (chain ++ [reference])
      refine expandWith_congr fun next hoccurs => follow_eq_follow hbound (by omega) ?_
      exact references_subset_of_locate htarget hoccurs.mem_references

/-! ## The recursion without a bound -/

/-- A function expands the values of a document when it follows the recursion of the expansion: a
reference that is being followed is circular, and any other one stands for its target, expanded with
the reference added to the chain. -/
def Resolves (root : Value) (resolve : List String → Value → Except ReferenceError Value) : Prop :=
  ∀ chain value, resolve chain value = expandWith (fun reference =>
    if reference ∈ chain then .error (.circular (chain ++ [reference]))
    else Pointer.locate root reference >>= resolve (chain ++ [reference])) value

theorem resolves_expandFrom (root : Value) : Resolves root (expandFrom root) := by
  intro chain value
  rw [expandFrom_eq_expandWith]
  refine expandWith_congr fun reference _ => ?_
  split
  · next hmem => exact followed_of_mem hmem
  · next hnew => exact followed_of_not_mem hnew

/-- To prove something of all chains and values, prove it of a value when it holds of the targets of
its references, each with the reference added to the chain. -/
@[elab_as_elim]
theorem target_induction (root : Value) {motive : List String → Value → Prop}
    (step : ∀ chain value, (∀ reference ∈ value.references, reference ∉ chain → ∀ target,
      Pointer.locate root reference = .ok target → motive (chain ++ [reference]) target) →
        motive chain value) (chain : List String) (value : Value) : motive chain value := by
  have hinside : ∀ bound chain value, pending root chain = bound →
      value.references ⊆ root.references → motive chain value := by
    intro bound
    induction bound using Nat.strong_induction_on with
    | _ bound ih =>
        rintro chain value rfl hsubset
        refine step chain value fun reference hreference hnew target htarget => ?_
        have hless := pending_append_lt (hsubset hreference) hnew
        exact ih _ hless _ _ rfl (references_subset_of_locate htarget)
  -- the references of the value need not be references of the document, those of its targets are
  refine step chain value fun reference _ _ target htarget => ?_
  exact hinside _ _ target rfl (references_subset_of_locate htarget)

/-- **The recursion has one solution**, so the bound has no part in what an expansion gives. -/
theorem resolves_iff {resolve : List String → Value → Except ReferenceError Value} :
    Resolves root resolve ↔ resolve = expandFrom root := by
  constructor
  · intro h
    funext chain value
    induction chain, value using target_induction root with
    | step chain value ih =>
        rw [h chain value, resolves_expandFrom root chain value]
        refine expandWith_congr fun reference hoccurs => ?_
        split
        · rfl
        · next hnew =>
            cases htarget : Pointer.locate root reference with
            | error error => rfl
            | ok target => exact ih reference hoccurs.mem_references hnew target htarget
  · rintro rfl
    exact resolves_expandFrom root

/-! ## The calls end -/

/-- The calls that the expansion of a value makes while the references of a chain are being
followed: for its parts, and for the target of its reference. -/
inductive Calls (root : Value) : List String × Value → List String × Value → Prop
  | item {chain : List String} {items : List Value} {item : Value} (hitem : item ∈ items) :
      Calls root (chain, item) (chain, list items)
  | entry {chain : List String} {entries : List (Scalar × Value)} {entry : Scalar × Value}
      (hentry : entry ∈ entries) : Calls root (chain, entry.2) (chain, map entries)
  | target {chain : List String} {entries : List (Scalar × Value)} {reference : String}
      {target : Value} (hreference : reference? entries = some reference)
      (hnew : reference ∉ chain) (htarget : Pointer.locate root reference = .ok target) :
      Calls root (chain ++ [reference], target) (chain, map entries)

/-- The calls for a value end if the calls for the targets of its references end. -/
theorem acc_calls (h : ∀ reference ∈ value.references, reference ∉ chain → ∀ target,
      Pointer.locate root reference = .ok target →
        Acc (Calls root) (chain ++ [reference], target)) :
    Acc (Calls root) (chain, value) := by
  induction value using induction with
  | scalar value => exact ⟨_, fun _ hcall => by cases hcall⟩
  | set members => exact ⟨_, fun _ hcall => by cases hcall⟩
  | pair first second => exact ⟨_, fun _ hcall => by cases hcall⟩
  | list items ih =>
      refine ⟨_, fun call hcall => ?_⟩
      cases hcall with
      | item hitem =>
          refine ih _ hitem fun reference hreference => h reference ?_
          rw [references]
          exact mem_itemReferences hitem hreference
  | map entries ih =>
      refine ⟨_, fun call hcall => ?_⟩
      cases hcall with
      | entry hentry =>
          refine ih _ hentry fun reference hreference => h reference ?_
          rw [references]
          exact List.mem_append_right _ (mem_entryReferences hentry hreference)
      | target hreference hnew htarget =>
          refine h _ ?_ hnew _ htarget
          simp [references, hreference]

/-- **The calls of an expansion end.** -/
theorem wellFounded_calls (root : Value) : WellFounded (Calls root) := by
  constructor
  rintro ⟨chain, value⟩
  induction chain, value using target_induction root with
  | step chain value ih => exact acc_calls ih

/-! ## Other chains -/

theorem follow_mono (hdepth : depth ≤ deeper) (hchain : shorter ⊆ chain)
    (h : follow root depth chain reference = .ok result) :
    follow root deeper shorter reference = .ok result := by
  induction depth generalizing deeper chain shorter reference result with
  | zero => cases h
  | succ depth ih =>
      obtain ⟨deeper, rfl⟩ : ∃ next, deeper = next + 1 := ⟨deeper - 1, by omega⟩
      simp only [follow, List.contains_eq_mem, decide_eq_true_eq] at h ⊢
      split at h
      · cases h
      next hnew =>
      rw [if_neg fun hmem => hnew (hchain hmem)]
      obtain ⟨target, htarget, hresult⟩ := bind_eq_ok.mp h
      -- the longer chain has no reference that the shorter one would stop at
      refine bind_eq_ok.mpr ⟨target, htarget, expandWith_mono (fun next found hfound => ?_) hresult⟩
      refine ih (by omega) (fun member hmember => ?_) hfound
      rcases List.mem_append.mp hmember with hmember | hmember
      · exact List.mem_append_left _ (hchain hmember)
      · exact List.mem_append_right _ hmember

/-- **What a reference stands for does not depend on the chain**, as long as it is found. -/
theorem followed_mono (hchain : shorter ⊆ chain) (h : followed root chain reference = .ok result) :
    followed root shorter reference = .ok result :=
  follow_mono le_rfl hchain h

end Value

end ResourceGraph
