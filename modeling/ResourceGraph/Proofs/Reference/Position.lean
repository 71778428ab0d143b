import ResourceGraph.Proofs.Key
import ResourceGraph.Proofs.Reference.Success

/-!
# References and their places

What a reference stands for does not depend on where it stands.  The expansion of a document calls
itself with the chain of references that are being followed, and this chain only serves to find
cycles.  So in a document that expands the chain can be left out of every call (`Visits`), and two
mappings with the same reference and nothing else have the same expansion.

A reference can also be looked up in the expanded document.  Where its pointer passes through no
reference of the raw document, the two agree: each step of the pointer commutes with the expansion
(`exists_step_of_expandFrom`).
-/

namespace ResourceGraph

namespace Value

/-- The calls that the expansion of a document makes.  The siblings of a reference are expanded if
there are any and the reference stands for a mapping. -/
inductive Visits (root : Value) : List String → Value → Prop
  | root : Visits root [] root
  | item {chain : List String} {items : List Value} {item : Value}
      (hvisits : Visits root chain (list items)) (hitem : item ∈ items) : Visits root chain item
  | entry {chain : List String} {entries : List (Scalar × Value)} {entry : Scalar × Value}
      (hvisits : Visits root chain (map entries)) (hnone : reference? entries = none)
      (hentry : entry ∈ entries) : Visits root chain entry.2
  | target {chain : List String} {entries : List (Scalar × Value)} {reference : String}
      {target : Value} (hvisits : Visits root chain (map entries))
      (hreference : reference? entries = some reference)
      (htarget : Pointer.locate root reference = .ok target) :
      Visits root (chain ++ [reference]) target
  | siblings {chain : List String} {entries base : List (Scalar × Value)} {reference : String}
      (hvisits : Visits root chain (map entries)) (hreference : reference? entries = some reference)
      (hmap : followed root chain reference = .ok (map base)) (hsiblings : siblings entries ≠ []) :
      Visits root chain (map (siblings entries))

/-- A value that stands for the target of a reference. -/
def IsReference (value : Value) : Prop :=
  ∃ entries reference, value = map entries ∧ reference? entries = some reference

/-- The pointer of a reference takes no step from a value that is a reference.  It may lead to
one. -/
def PlainPath (root : Value) (reference : String) : Prop :=
  ∀ front segment back, Pointer.segments? reference = some (front ++ segment :: back) →
    ∀ passed, front.foldlM (Pointer.step reference) root = .ok passed → ¬ passed.IsReference

variable {root value target result part : Value} {reference : String} {chain shorter : List String}
  {entries base : List (Scalar × Value)} {depth : ℕ} {error : ReferenceError}

theorem isReference_map : (map entries).IsReference ↔ reference? entries ≠ none := by
  rw [Option.ne_none_iff_exists']
  constructor
  · rintro ⟨_, reference, hentries, hreference⟩
    cases hentries
    exact ⟨reference, hreference⟩
  · rintro ⟨reference, hreference⟩
    exact ⟨entries, reference, rfl, hreference⟩

/-! ## Calls -/

/-- In a document that expands every call succeeds. -/
theorem Visits.exists_expandFrom (h : expand root = .ok result)
    (hvisits : Visits root chain value) : ∃ part, expandFrom root chain value = .ok part := by
  induction hvisits with
  | root => exact ⟨result, h⟩
  | item hvisits hitem ih =>
      obtain ⟨part, hpart⟩ := ih
      obtain ⟨results, hresults, -⟩ := expandWith_list_eq_ok.mp hpart
      exact exists_of_mapM_eq_ok (mapM_eq_ok_iff.mpr hresults) _ hitem
  | entry hvisits hnone hentry ih =>
      obtain ⟨part, hpart⟩ := ih
      obtain ⟨results, hresults, -⟩ := (expandWith_map_eq_ok hnone).mp hpart
      exact exists_of_expandEntries_eq_ok hresults _ hentry
  | @target chain entries reference target hvisits hreference htarget ih =>
      obtain ⟨part, hpart⟩ := ih
      have hfound : ∃ found, followed root chain reference = .ok found := by
        rcases (expandWith_reference_eq_ok hreference).mp hpart with ⟨_, _, hmap, -⟩ | ⟨hother, -⟩
        · exact ⟨_, hmap⟩
        · exact ⟨_, hother⟩
      obtain ⟨found, hfound⟩ := hfound
      obtain ⟨-, located, hlocated, hexpand⟩ := followed_eq_ok.mp hfound
      cases htarget.symm.trans hlocated
      exact ⟨found, hexpand⟩
  | @siblings chain entries base reference hvisits hreference hmap hsiblings ih =>
      obtain ⟨part, hpart⟩ := ih
      rcases (expandWith_reference_eq_ok hreference).mp hpart with
        ⟨_, upper, -, hupper, -⟩ | ⟨hother, hkind⟩
      · exact ⟨map upper, (expandWith_map_eq_ok (reference?_siblings _)).mpr ⟨upper, hupper, rfl⟩⟩
      · cases hother.symm.trans hmap
        cases hkind

/-! ## Pointers into the expanded document -/

/-- **A step of a pointer commutes with the expansion** of a value that is no reference. -/
theorem exists_step_of_expandFrom {segment : String} {next : Value} (hvalue : ¬ value.IsReference)
    (h : expandFrom root chain value = .ok part)
    (hstep : Pointer.step reference value segment = .ok next) :
    ∃ nextPart, expandFrom root chain next = .ok nextPart ∧
      Pointer.step reference part segment = .ok nextPart := by
  unfold Pointer.step at hstep
  split at hstep
  · next entries =>
      split at hstep
      · next found hfound =>
          cases hstep
          have hnone : reference? entries = none := not_not.mp (mt isReference_map.mpr hvalue)
          obtain ⟨results, hresults, rfl⟩ := (expandWith_map_eq_ok hnone).mp h
          have hrel := rel_get? hresults segment
          rw [hfound] at hrel
          generalize hpart : Entries.get? results segment = found at hrel
          cases hrel with
          | some hexpand => exact ⟨_, hexpand, by rw [Pointer.step, hpart]⟩
      · cases hstep
  · next items =>
      split at hstep
      · next found hfound =>
          cases hstep
          obtain ⟨results, hresults, rfl⟩ := expandWith_list_eq_ok.mp h
          obtain ⟨index, hindex, hitem⟩ := Option.bind_eq_some_iff.mp hfound
          have hrel := rel_item? hresults index
          rw [hitem] at hrel
          generalize hpart : Pointer.item? results index = found at hrel
          cases hrel with
          | some hexpand =>
              exact ⟨_, hexpand, by rw [Pointer.step, hindex, Option.bind_some, hpart]⟩
      · cases hstep
  · cases hstep

/-- A pointer that passes through no reference leads to the same place in the expanded document. -/
theorem exists_foldlM_step_of_expandFrom {segments : List String}
    (hplain : ∀ front segment back, segments = front ++ segment :: back →
      ∀ passed, front.foldlM (Pointer.step reference) value = .ok passed → ¬ passed.IsReference)
    (h : expandFrom root chain value = .ok part)
    (htarget : segments.foldlM (Pointer.step reference) value = .ok target) :
    ∃ targetPart, expandFrom root chain target = .ok targetPart ∧
      segments.foldlM (Pointer.step reference) part = .ok targetPart := by
  induction segments generalizing value part with
  | nil =>
      cases htarget
      exact ⟨part, h, rfl⟩
  | cons segment rest ih =>
      rw [List.foldlM_cons] at htarget
      obtain ⟨next, hnext, hrest⟩ := bind_eq_ok.mp htarget
      obtain ⟨nextPart, hexpand, hstep⟩ :=
        exists_step_of_expandFrom (hplain [] segment rest rfl value rfl) h hnext
      have hplainRest : ∀ front later back, rest = front ++ later :: back → ∀ passed,
          front.foldlM (Pointer.step reference) next = .ok passed → ¬ passed.IsReference := by
        rintro front later back rfl passed hpassed
        refine hplain (segment :: front) later back rfl passed ?_
        rw [List.foldlM_cons]
        exact bind_eq_ok.mpr ⟨next, hnext, hpassed⟩
      obtain ⟨targetPart, hpart, hfold⟩ := ih hplainRest hexpand hrest
      refine ⟨targetPart, hpart, ?_⟩
      rw [List.foldlM_cons]
      exact bind_eq_ok.mpr ⟨nextPart, hstep, hfold⟩

/-- A reference whose pointer passes through no other one stands for what is found at the pointer in
the expanded document. -/
theorem exists_locate_of_plainPath (h : expand root = .ok result)
    (hplain : PlainPath root reference) (htarget : Pointer.locate root reference = .ok target) :
    ∃ part, followed root [] reference = .ok part ∧
      Pointer.locate result reference = .ok part := by
  have hlocate := htarget
  unfold Pointer.locate at htarget
  split at htarget
  · cases htarget
  · next segments hsegments =>
      have hpassed : ∀ front segment back, segments = front ++ segment :: back → ∀ passed,
          front.foldlM (Pointer.step reference) root = .ok passed → ¬ passed.IsReference :=
        fun front segment back heq => hplain front segment back (heq ▸ hsegments)
      obtain ⟨part, hpart, hfound⟩ := exists_foldlM_step_of_expandFrom hpassed h htarget
      refine ⟨part, followed_eq_of_expandFrom hlocate hpart, ?_⟩
      rw [Pointer.locate, hsegments]
      exact hfound

/-! ## Places -/

/-- **What a reference stands for does not depend on its place.**  In a document that expands

* every call gives the same without the chain of references that are being followed;
* any two references to the same target, without siblings, have the same expansion;
* a reference with siblings whose target expands to a mapping expands to this mapping with the
  siblings laid over it, so that a key has the value of the last sibling with this key, and that of
  the target if there is none;
* a reference whose pointer passes through no other reference stands for what is found at the same
  pointer in the expanded document. -/
theorem expansion_free_of_place (h : expand root = .ok result) :
    (∀ chain value, Visits root chain value →
      ∃ part, expandFrom root chain value = .ok part ∧ expandFrom root [] value = .ok part) ∧
    (∀ chain chain' entries entries' reference,
      Visits root chain (map entries) → Visits root chain' (map entries') →
      reference? entries = some reference → reference? entries' = some reference →
      siblings entries = [] → siblings entries' = [] →
      ∃ part, expandFrom root chain (map entries) = .ok part ∧
        expandFrom root chain' (map entries') = .ok part) ∧
    (∀ chain entries reference target base, Visits root chain (map entries) →
      reference? entries = some reference → siblings entries ≠ [] →
      Pointer.locate root reference = .ok target → expandFrom root [] target = .ok (map base) →
      ∃ upper, expandFrom root [] (map (siblings entries)) = .ok (map upper) ∧
        expandFrom root chain (map entries) = .ok (map (Entries.overlay base upper)) ∧
        ∀ key, Entries.find? (Entries.overlay base upper) key =
          (Entries.find? upper.reverse key).or (Entries.find? base key)) ∧
    ∀ reference target, Pointer.locate root reference = .ok target → PlainPath root reference →
      ∃ part, expandFrom root [] (referenceTo reference) = .ok part ∧
        Pointer.locate result reference = .ok part := by
  have hcalls : ∀ chain value, Visits root chain value →
      ∃ part, expandFrom root chain value = .ok part ∧ expandFrom root [] value = .ok part := by
    intro chain value hvisits
    obtain ⟨part, hpart⟩ := hvisits.exists_expandFrom h
    exact ⟨part, hpart, expandFrom_mono (List.nil_subset _) hpart⟩
  refine ⟨hcalls, ?_, ?_, ?_⟩
  · intro chain chain' entries entries' reference hvisits hvisits' hreference hreference'
      hsiblings hsiblings'
    obtain ⟨part, hpart, hplace⟩ := hcalls chain _ hvisits
    obtain ⟨part', hpart', hplace'⟩ := hcalls chain' _ hvisits'
    rw [expandFrom_of_siblings_eq_nil hreference hsiblings] at hplace
    rw [expandFrom_of_siblings_eq_nil hreference' hsiblings', hplace] at hplace'
    cases hplace'
    exact ⟨part, hpart, hpart'⟩
  · intro chain entries reference target base hvisits hreference hsiblings htarget hbase
    obtain ⟨part, hpart⟩ := hvisits.exists_expandFrom h
    have hstands := followed_eq_of_expandFrom htarget hbase
    rcases (expandWith_reference_eq_ok hreference).mp hpart with
      ⟨found, upper, hfound, hupper, rfl⟩ | ⟨hfound, hkind⟩
    · cases follow_unique hfound hstands
      have hentries : expandFrom root chain (map (siblings entries)) = .ok (map upper) :=
        (expandWith_map_eq_ok (reference?_siblings _)).mpr ⟨upper, hupper, rfl⟩
      exact ⟨upper, expandFrom_mono (List.nil_subset _) hentries, hpart,
        Entries.find?_overlay base upper⟩
    · cases follow_unique hfound hstands
      cases hkind
  · intro reference target htarget hplain
    obtain ⟨part, hpart, hfound⟩ := exists_locate_of_plainPath h hplain htarget
    refine ⟨part, ?_, hfound⟩
    rw [referenceTo, expandFrom_of_siblings_eq_nil (reference?_referenceTo reference) rfl, hpart]

end Value

/-! ## A sample document -/

namespace Sample

open Value

/-- A document with an item that is referred to twice, once with another size. -/
def catalogue : Value :=
  map [(.text "first", referenceTo "#/item"),
    (.text "second", list [map [(.text "$ref", text "#/item"), (.text "size", .scalar (.int 2))]]),
    (.text "item", map [(.text "size", .scalar (.int 1)), (.text "unit", referenceTo "#/unit")]),
    (.text "unit", text "m")]

theorem plainPath_catalogue : PlainPath catalogue "#/item" := by
  intro front segment back hsegments passed hpassed
  have hlength : (Pointer.segments? "#/item").map List.length = some 1 := by decide +kernel
  rw [hsegments] at hlength
  have hsum : front.length + (back.length + 1) = 1 := by simpa using hlength
  obtain rfl : front = [] := List.length_eq_zero_iff.mp (by omega)
  cases hpassed
  exact isReference_map.not.mpr (not_not.mpr rfl)

/-- The item is found under its pointer, and the second reference overrides its size. -/
theorem catalogue_free_of_place : ∃ result item upper entries,
    expand catalogue = .ok result ∧ Pointer.locate result "#/item" = .ok (map item) ∧
      expandFrom catalogue [] (referenceTo "#/item") = .ok (map item) ∧
      Visits catalogue [] (map entries) ∧ reference? entries = some "#/item" ∧
      expandFrom catalogue [] (map entries) = .ok (map (Entries.overlay item upper)) ∧
      Entries.find? (Entries.overlay item upper) (.text "size") = some (.scalar (.int 2)) := by
  have hexpand : ∃ result, expand catalogue = .ok result := ⟨_, by rfl⟩
  obtain ⟨result, hresult⟩ := hexpand
  obtain ⟨-, -, hsiblings, hpointers⟩ := expansion_free_of_place hresult
  have htarget : Pointer.locate catalogue "#/item" =
      .ok (map [(.text "size", .scalar (.int 1)), (.text "unit", referenceTo "#/unit")]) := by rfl
  have hitem : expandFrom catalogue []
      (map [(.text "size", .scalar (.int 1)), (.text "unit", referenceTo "#/unit")]) =
        .ok (map [(.text "size", .scalar (.int 1)), (.text "unit", text "m")]) := by rfl
  have hvisits : Visits catalogue []
      (map [(.text "$ref", text "#/item"), (.text "size", .scalar (.int 2))]) := by
    refine .item (.entry .root rfl (List.mem_cons_of_mem _ (List.mem_cons_self ..))) ?_
    exact List.mem_singleton_self _
  obtain ⟨upper, hupper, hoverlay, hfind⟩ :=
    hsiblings [] _ "#/item" _ _ hvisits rfl (by simp [siblings, referenceKey]) htarget hitem
  obtain ⟨part, hpart, hfound⟩ := hpointers "#/item" _ htarget plainPath_catalogue
  have hreference : expandFrom catalogue [] (referenceTo "#/item") =
      .ok (map [(.text "size", .scalar (.int 1)), (.text "unit", text "m")]) := by rfl
  cases hpart.symm.trans hreference
  have hsize : upper = [(.text "size", .scalar (.int 2))] := by
    have hlaid : expandFrom catalogue [] (map [(.text "size", .scalar (.int 2))]) =
        .ok (map [(.text "size", .scalar (.int 2))]) := by rfl
    exact map.inj (Except.ok.inj (hupper.symm.trans hlaid))
  refine ⟨result, _, upper, _, hresult, hfound, hreference, hvisits, rfl, hoverlay, ?_⟩
  rw [hfind, hsize]
  rfl

end Sample

end ResourceGraph
