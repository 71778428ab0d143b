import ResourceGraph.Proofs.Lists
import ResourceGraph.Proofs.Reference.Cycle

/-!
# Expansions that succeed

An expansion that succeeds is built up from others: those of the items of a list, of the values of a
mapping, of the target of a reference and of its siblings.  `expansion_induction` proves properties
of values and what they are expanded to along this.

The target of a reference is expanded while the reference is being followed, but it comes out as if
it was not (`followed_eq_of_expandFrom`).  That the expansion succeeds either way is not a matter of
the chain alone: it needs that no cycle of references passes through a target that expands.
-/

namespace ResourceGraph

namespace Value

/-- The mapping that has a reference and nothing else. -/
def referenceTo (reference : String) : Value :=
  map [(.text referenceKey, text reference)]

variable {root value target result part : Value} {reference : String} {chain shorter : List String}
  {entries : List (Scalar × Value)} {depth : ℕ} {error : ReferenceError}

/-! ## Calls -/

theorem get?_siblings (entries : List (Scalar × Value)) :
    Entries.get? (siblings entries) referenceKey = none := by
  refine List.lookup_eq_none_iff.mpr fun entry hentry => ?_
  have hkey : entry.1 ≠ Scalar.text referenceKey := by simpa using (List.mem_filter.mp hentry).2
  simpa using hkey.symm

theorem reference?_siblings (entries : List (Scalar × Value)) :
    reference? (siblings entries) = none := by
  rw [reference?, get?_siblings, Option.bind_none]

/-- A call does not change when its chain gets shorter. -/
theorem expandFrom_mono (hchain : shorter ⊆ chain) (h : expandFrom root chain value = .ok part) :
    expandFrom root shorter value = .ok part :=
  expandWith_mono (fun _ _ hfound => followed_mono hchain hfound) h

/-- A reference that is found is not being followed, and its target is expanded with it added to the
chain. -/
theorem followed_eq_ok : followed root chain reference = .ok result ↔
    reference ∉ chain ∧ ∃ target, Pointer.locate root reference = .ok target ∧
      expandFrom root (chain ++ [reference]) target = .ok result := by
  by_cases hmem : reference ∈ chain
  · simp [followed_of_mem hmem, hmem]
  · rw [followed_of_not_mem hmem, bind_eq_ok]
    exact ⟨fun h => ⟨hmem, h⟩, fun h => h.2⟩

@[simp]
theorem reference?_referenceTo (reference : String) :
    reference? [(.text referenceKey, text reference)] = some reference := by
  simp [reference?, Entries.get?, asText?]

/-- A reference without siblings is expanded to what it stands for. -/
theorem expandFrom_of_siblings_eq_nil (hreference : reference? entries = some reference)
    (hsiblings : siblings entries = []) :
    expandFrom root chain (map entries) = followed root chain reference := by
  rw [expandFrom_eq_expandWith, expandWith_of_some hreference, hsiblings]
  cases followed root chain reference with
  | error error => rfl
  | ok target => cases target <;> rfl

/-- An expanded mapping has the keys of the raw one, each with the expanded value. -/
theorem rel_get? {answer : String → Except ReferenceError Value} {results : List (Scalar × Value)}
    (h : expandEntries answer entries = .ok results) (name : String) :
    Option.Rel (fun value part => expandWith answer value = .ok part)
      (Entries.get? entries name) (Entries.get? results name) :=
  rel_lookup (fun _ value part => expandWith answer value = .ok part)
    (expandEntries_eq_ok.mp h) (Scalar.text name)

theorem rel_item? {related : Value → Value → Prop} {items results : List Value}
    (h : List.Forall₂ related items results) (index : ℤ) :
    Option.Rel related (Pointer.item? items index) (Pointer.item? results index) := by
  unfold Pointer.item?
  rw [h.length_eq]
  split
  · exact rel_getElem? h _
  · split
    · exact rel_getElem? h _
    · exact .none

/-! ## Induction on expansions -/

/-- To prove something of chains, values and what these are expanded to, prove it of an expansion
when it holds of the expansions that it is built up from. -/
@[elab_as_elim]
theorem expansion_induction (root : Value) {motive : List String → Value → Value → Prop}
    {chain : List String} {value result : Value}
    (leaf : ∀ chain value, (∀ items, value ≠ list items) → (∀ entries, value ≠ map entries) →
      motive chain value value)
    (items : ∀ chain items results,
      List.Forall₂ (fun item part => expandFrom root chain item = .ok part ∧ motive chain item part)
        items results → motive chain (list items) (list results))
    (entries : ∀ chain entries results, reference? entries = none →
      List.Forall₂ (fun entry result => result.1 = entry.1 ∧
        expandFrom root chain entry.2 = .ok result.2 ∧ motive chain entry.2 result.2)
        entries results → motive chain (map entries) (map results))
    (overlaid : ∀ chain entries reference target base upper, reference? entries = some reference →
      followed root chain reference = .ok (map base) → Pointer.locate root reference = .ok target →
      motive (chain ++ [reference]) target (map base) →
      List.Forall₂ (fun entry result => result.1 = entry.1 ∧
        expandFrom root chain entry.2 = .ok result.2 ∧ motive chain entry.2 result.2)
        (siblings entries) upper → motive chain (map entries) (map (Entries.overlay base upper)))
    (replaced : ∀ chain entries reference target result, reference? entries = some reference →
      followed root chain reference = .ok result → Pointer.locate root reference = .ok target →
      motive (chain ++ [reference]) target result → result.isMap = false →
      motive chain (map entries) result)
    (h : expandFrom root chain value = .ok result) : motive chain value result := by
  induction chain, value using target_induction root generalizing result with
  | step chain value ih =>
      induction value using induction generalizing result with
      | scalar | set | pair =>
          cases h
          exact leaf _ _ (fun _ => nofun) (fun _ => nofun)
      | list parts hparts =>
          obtain ⟨results, hresults, rfl⟩ := expandWith_list_eq_ok.mp h
          refine items chain parts results ?_
          refine forall₂_and_of_mem hresults fun item hitem part hpart => ?_
          refine hparts item hitem (fun reference hreference => ih reference ?_) hpart
          rw [references]
          exact mem_itemReferences hitem hreference
      | map fields hfields =>
          -- the values of the mapping are expanded if they are not those of a dropped sibling
          have hvalues : ∀ part ⊆ fields, ∀ results,
              expandEntries (followed root chain) part = .ok results →
              List.Forall₂ (fun entry result => result.1 = entry.1 ∧
                expandFrom root chain entry.2 = .ok result.2 ∧ motive chain entry.2 result.2)
                part results := by
            intro part hpart results hresults
            refine (forall₂_and_of_mem (expandEntries_eq_ok.mp hresults)
              fun entry hentry result hresult => ?_).imp fun _ _ hboth => and_assoc.mp hboth
            refine hfields entry (hpart hentry) (fun reference hreference => ih reference ?_)
              hresult.2
            rw [references]
            exact List.mem_append_right _ (mem_entryReferences (hpart hentry) hreference)
          cases hreference : reference? fields with
          | none =>
              obtain ⟨results, hresults, rfl⟩ := (expandWith_map_eq_ok hreference).mp h
              exact entries chain fields results hreference
                (hvalues fields (List.Subset.refl _) results hresults)
          | some reference =>
              have hmem : reference ∈ (map fields).references := by simp [references, hreference]
              rcases (expandWith_reference_eq_ok hreference).mp h with
                ⟨base, upper, hbase, hupper, rfl⟩ | ⟨hother, hkind⟩
              · obtain ⟨hnew, target, htarget, hexpand⟩ := followed_eq_ok.mp hbase
                exact overlaid chain fields reference target base upper hreference hbase htarget
                  (ih reference hmem hnew target htarget hexpand)
                  (hvalues _ (List.filter_subset_self ..) upper hupper)
              · obtain ⟨hnew, target, htarget, hexpand⟩ := followed_eq_ok.mp hother
                exact replaced chain fields reference target result hreference hother htarget
                  (ih reference hmem hnew target htarget hexpand) hkind

/-! ## The targets of references -/

/-- From a reference that has been followed no path of references goes on for ever. -/
theorem acc_leads (h : follow root depth chain reference = .ok result) :
    Acc (fun next reference => Leads root reference next) reference := by
  induction depth generalizing chain reference result with
  | zero => cases h
  | succ depth ih =>
      simp only [follow] at h
      split at h
      · cases h
      obtain ⟨target, htarget, hresult⟩ := bind_eq_ok.mp h
      refine ⟨_, fun next hleads => ?_⟩
      obtain ⟨located, hlocated, hoccurs⟩ := hleads
      cases htarget.symm.trans hlocated
      obtain ⟨found, hfound⟩ := exists_follow_of_occurs hoccurs hresult
      exact ih hfound

/-- A reference that has been followed does not lead back to itself. -/
theorem not_leads_around (h : follow root depth chain reference = .ok result) :
    ¬ Relation.TransGen (Leads root) reference reference := by
  intro hcycle
  have hswap := Relation.transGen_swap.mpr hcycle
  have hacc := (acc_leads h).transGen
  clear h hcycle
  induction hacc with
  | intro reference _ ih => exact ih reference hswap hswap

/-- A reference in the chain can only stop an expansion that leads to it. -/
theorem exists_leads_of_expandFrom_eq_error (h : expandFrom root chain value = .ok part)
    (herror : expandFrom root (reference :: chain) value = .error error) :
    ∃ next, Occurs (followed root []) next value ∧
      Relation.ReflTransGen (Leads root) next reference := by
  induction chain, value using target_induction root generalizing part with
  | step chain value ih =>
      obtain ⟨next, hmet, hstopped⟩ := exists_occurs_of_expandWith_eq_error herror
      have hoccurs : Occurs (followed root []) next value :=
        hmet.mono fun first base hbase => ⟨base, followed_mono (List.nil_subset _) hbase⟩
      refine ⟨next, hoccurs, ?_⟩
      by_cases hsame : next = reference
      · exact hsame ▸ .refl
      obtain ⟨found, hfound⟩ := exists_follow_of_occurs hoccurs h
      obtain ⟨hnew, target, htarget, hexpand⟩ := followed_eq_ok.mp hfound
      have hnext : followed root (reference :: chain) next = .error error := hstopped
      rw [followed_of_not_mem (by simp [hsame, hnew]), htarget] at hnext
      obtain ⟨later, hlater, hreach⟩ :=
        ih next hoccurs.mem_references hnew target htarget hexpand hnext
      exact .head ⟨target, htarget, hlater⟩ hreach

/-- **What a reference stands for is its target**, expanded as if no reference was being
followed. -/
theorem followed_eq_of_expandFrom (htarget : Pointer.locate root reference = .ok target)
    (h : expandFrom root [] target = .ok part) : followed root [] reference = .ok part := by
  refine followed_eq_ok.mpr ⟨List.not_mem_nil, target, htarget, ?_⟩
  cases hinside : expandFrom root [reference] target with
  | ok other =>
      rw [← h, expandFrom_mono (List.nil_subset _) hinside]
      exact hinside
  | error error =>
      -- the target would lead back to the reference, and so around for ever
      obtain ⟨next, hoccurs, hreach⟩ := exists_leads_of_expandFrom_eq_error h hinside
      obtain ⟨found, hfound⟩ := exists_follow_of_occurs hoccurs h
      have hcycle : Relation.TransGen (Leads root) next next :=
        .tail' hreach ⟨target, htarget, hoccurs⟩
      exact absurd hcycle (not_leads_around hfound)

end Value

end ResourceGraph
