import ResourceGraph.Proofs.Reference.Position

/-!
# Complete expansions

An expansion puts every reference that it reads in place of its target, and one may expect that the
result has none left.  There are two ways for a reference to be left, and no others.

* A key `$ref` whose value is itself a reference is not read as a reference, but its value is
  expanded.  If this gives a text, then the result has a reference that nobody has followed.
* Nothing inside a pair of values is ever looked at.

A document all of whose calls are free of both expands to a value without references, and such a
value is its own expansion.
-/

namespace ResourceGraph

namespace Value

/-- A reference stands at some depth of a value. -/
inductive Refers : Value → Prop
  | here {entries : List (Scalar × Value)} {reference : String}
      (hreference : reference? entries = some reference) : Refers (map entries)
  | item {items : List Value} {item : Value} (hitem : item ∈ items) (hrefers : Refers item) :
      Refers (list items)
  | entry {entries : List (Scalar × Value)} {entry : Scalar × Value} (hentry : entry ∈ entries)
      (hrefers : Refers entry.2) : Refers (map entries)
  | first {first second : Value} (hrefers : Refers first) : Refers (pair first second)
  | second {first second : Value} (hrefers : Refers second) : Refers (pair first second)

/-- A value itself, not one of its parts, leaves a reference in its expansion. -/
inductive Leaves (root : Value) (chain : List String) : Value → Prop
  | unread {entries : List (Scalar × Value)} {value : Value} {reference : String}
      (hnone : reference? entries = none) (hvalue : Entries.get? entries referenceKey = some value)
      (htext : expandFrom root chain value = .ok (text reference)) : Leaves root chain (map entries)
  | pair {first second : Value} (hrefers : Refers (pair first second)) :
      Leaves root chain (pair first second)

variable {root value result part : Value} {chain : List String}
  {entries results base upper : List (Scalar × Value)}
  {answer : String → Except ReferenceError Value}

/-! ## Values without references -/

/-- A value without references is its own expansion. -/
theorem expandWith_of_not_refers (h : ¬ Refers value) : expandWith answer value = .ok value := by
  induction value using induction with
  | scalar value => rfl
  | set members => rfl
  | pair first second => rfl
  | list items ih =>
      refine expandWith_list_eq_ok.mpr ⟨items, List.forall₂_same.mpr fun item hitem => ?_, rfl⟩
      exact ih item hitem fun hrefers => h (.item hitem hrefers)
  | map entries ih =>
      have hnone : reference? entries = none := by
        by_contra hsome
        obtain ⟨reference, hreference⟩ := Option.ne_none_iff_exists'.mp hsome
        exact h (.here hreference)
      refine (expandWith_map_eq_ok hnone).mpr ⟨entries, expandEntries_eq_ok.mpr ?_, rfl⟩
      exact List.forall₂_same.mpr fun entry hentry =>
        ⟨rfl, ih entry hentry fun hrefers => h (.entry hentry hrefers)⟩

/-! ## What is left -/

theorem asText?_eq_some {name : String} : value.asText? = some name ↔ value = text name := by
  cases value with
  | scalar value => cases value <;> simp [asText?]
  | _ => simp [asText?]

theorem mem_put {key : Scalar} {entry : Scalar × Value}
    (h : entry ∈ Entries.put key value entries) : entry.2 = value ∨ entry ∈ entries := by
  induction entries with
  | nil =>
      obtain rfl := List.mem_singleton.mp h
      exact Or.inl rfl
  | cons first rest ih =>
      rw [Entries.put] at h
      split at h
      · rcases List.mem_cons.mp h with rfl | hrest
        · exact Or.inl rfl
        · exact Or.inr (List.mem_cons_of_mem _ hrest)
      · rcases List.mem_cons.mp h with rfl | hrest
        · exact Or.inr (List.mem_cons_self ..)
        · exact (ih hrest).imp_right (List.mem_cons_of_mem _)

/-- The values of entries laid over others are values of either. -/
theorem exists_of_mem_overlay {entry : Scalar × Value} (h : entry ∈ Entries.overlay base upper) :
    ∃ other, (other ∈ base ∨ other ∈ upper) ∧ other.2 = entry.2 := by
  induction upper generalizing base with
  | nil => exact ⟨entry, Or.inl h, rfl⟩
  | cons first rest ih =>
      obtain ⟨other, hother | hother, hvalue⟩ := ih h
      · rcases mem_put hother with hfirst | hbase
        · exact ⟨first, Or.inr (List.mem_cons_self ..), hfirst.symm.trans hvalue⟩
        · exact ⟨other, Or.inl hbase, hvalue⟩
      · exact ⟨other, Or.inr (List.mem_cons_of_mem _ hother), hvalue⟩

/-- Siblings laid over a mapping neither make it a reference nor keep it from being one. -/
theorem reference?_overlay (h : ∀ entry ∈ upper, entry.1 ≠ Scalar.text referenceKey) :
    reference? (Entries.overlay base upper) = reference? base := by
  have hmissing : Entries.get? upper.reverse referenceKey = none := by
    refine List.lookup_eq_none_iff.mpr fun entry hentry => ?_
    simpa using (h entry (List.mem_reverse.mp hentry)).symm
  rw [reference?, reference?, Entries.get?_eq_find?, Entries.get?_eq_find?, Entries.find?_overlay,
    ← Entries.get?_eq_find? upper.reverse, hmissing, Option.none_or]

/-- A reference that entries are expanded to was not read as one. -/
theorem Leaves.of_reference? {name : String} (hnone : reference? entries = none)
    (h : expandEntries (followed root chain) entries = .ok results)
    (hreference : reference? results = some name) : Leaves root chain (map entries) := by
  obtain ⟨found, hfound, htext⟩ := Option.bind_eq_some_iff.mp hreference
  have hrel := rel_get? h referenceKey
  rw [hfound] at hrel
  generalize hvalue : Entries.get? entries referenceKey = value at hrel
  cases hrel with
  | some hread =>
      obtain rfl := asText?_eq_some.mp htext
      exact .unread hnone hvalue hread

/-- A reference in a mapping with siblings laid over it stands in one or the other. -/
theorem Refers.of_overlay (h : Refers (map (Entries.overlay base upper)))
    (hkeys : ∀ entry ∈ upper, entry.1 ≠ Scalar.text referenceKey) :
    Refers (map base) ∨ ∃ entry ∈ upper, Refers entry.2 := by
  cases h with
  | here hreference =>
      rw [reference?_overlay hkeys] at hreference
      exact Or.inl (.here hreference)
  | entry hentry hrefers =>
      obtain ⟨other, hother | hother, hvalue⟩ := exists_of_mem_overlay hentry
      · exact Or.inl (.entry hother (hvalue ▸ hrefers))
      · exact Or.inr ⟨other, hother, hvalue ▸ hrefers⟩

/-- **A reference that is left was left by a call.** -/
theorem Visits.not_refers (hvisits : Visits root chain value)
    (hleaves : ∀ chain value, Visits root chain value → ¬ Leaves root chain value)
    (h : expandFrom root chain value = .ok part) : ¬ Refers part := by
  refine expansion_induction root
    (motive := fun chain value part => Visits root chain value → ¬ Refers part)
    ?leaf ?items ?entries ?overlaid ?replaced h hvisits
  case leaf =>
      intro chain value hlist hmap hvisits hrefers
      cases hrefers with
      | here | entry => exact hmap _ rfl
      | item => exact hlist _ rfl
      | first hfirst => exact hleaves _ _ hvisits (.pair (.first hfirst))
      | second hsecond => exact hleaves _ _ hvisits (.pair (.second hsecond))
  case items =>
      intro chain items results hresults hvisits hrefers
      cases hrefers with
      | item hitem hrefers =>
          obtain ⟨item, hmem, -, hnot⟩ := exists_of_mem_right hresults hitem
          exact hnot (.item hvisits hmem) hrefers
  case entries =>
      intro chain entries results hnone hresults hvisits hrefers
      cases hrefers with
      | here hreference =>
          have hexpand : expandEntries (followed root chain) entries = .ok results :=
            expandEntries_eq_ok.mpr (hresults.imp fun _ _ hentry => ⟨hentry.1, hentry.2.1⟩)
          exact hleaves _ _ hvisits (.of_reference? hnone hexpand hreference)
      | entry hentry hrefers =>
          obtain ⟨entry, hmem, -, -, hnot⟩ := exists_of_mem_right hresults hentry
          exact hnot (.entry hvisits hnone hmem) hrefers
  case overlaid =>
      intro chain entries reference target base upper hreference hbase htarget hnot hupper hvisits
        hrefers
      have hkeys : ∀ entry ∈ upper, entry.1 ≠ Scalar.text referenceKey := by
        intro entry hentry
        obtain ⟨sibling, hsibling, hkey, -⟩ := exists_of_mem_right hupper hentry
        rw [hkey]
        simpa using (List.mem_filter.mp hsibling).2
      obtain hbaseRefers | ⟨entry, hentry, hrefers⟩ := hrefers.of_overlay hkeys
      · exact hnot (.target hvisits hreference htarget) hbaseRefers
      · obtain ⟨sibling, hsibling, -, -, hnotSibling⟩ := exists_of_mem_right hupper hentry
        have hsiblings := Visits.siblings hvisits hreference hbase (List.ne_nil_of_mem hsibling)
        exact hnotSibling (.entry hsiblings (reference?_siblings _) hsibling) hrefers
  case replaced =>
      intro chain entries reference target result hreference hfound htarget hnot hkind hvisits
      exact hnot (.target hvisits hreference htarget)

/-- A call that leaves a reference has one in its result. -/
theorem Leaves.refers (hleaves : Leaves root chain value)
    (h : expandFrom root chain value = .ok part) : Refers part := by
  cases hleaves with
  | unread hnone hvalue htext =>
      obtain ⟨results, hresults, rfl⟩ := (expandWith_map_eq_ok hnone).mp h
      have hrel := rel_get? hresults referenceKey
      rw [hvalue] at hrel
      generalize hfound : Entries.get? results referenceKey = found at hrel
      cases hrel with
      | some hread =>
          cases htext.symm.trans hread
          exact .here (by rw [reference?, hfound]; rfl)
  | pair hrefers =>
      cases h
      exact hrefers

/-! ## Documents that are read completely -/

/-- A `$ref` of a value is not read as a reference: it is no text, or it stands inside a pair. -/
inductive Unread : Value → Prop
  | here {entries : List (Scalar × Value)} {value : Value}
      (hvalue : Entries.get? entries referenceKey = some value) (htext : value.asText? = none) :
      Unread (map entries)
  | pair {first second : Value} (hrefers : Refers (pair first second)) : Unread (pair first second)
  | item {items : List Value} {item : Value} (hitem : item ∈ items) (hunread : Unread item) :
      Unread (list items)
  | entry {entries : List (Scalar × Value)} {entry : Scalar × Value} (hentry : entry ∈ entries)
      (hunread : Unread entry.2) : Unread (map entries)

theorem not_unread_scalar (value : Scalar) : ¬ Unread (scalar value) := nofun

theorem unread_list {items : List Value} : Unread (list items) ↔ ∃ item ∈ items, Unread item := by
  constructor
  · rintro ⟨⟩
    exact ⟨_, ‹_›, ‹_›⟩
  · rintro ⟨item, hitem, hunread⟩
    exact .item hitem hunread

theorem unread_map : Unread (map entries) ↔
    (∃ value, Entries.get? entries referenceKey = some value ∧ value.asText? = none) ∨
      ∃ entry ∈ entries, Unread entry.2 := by
  constructor
  · rintro ⟨⟩
    · exact Or.inl ⟨_, ‹_›, ‹_›⟩
    · exact Or.inr ⟨_, ‹_›, ‹_›⟩
  · rintro (⟨value, hvalue, htext⟩ | ⟨entry, hentry, hunread⟩)
    · exact .here hvalue htext
    · exact .entry hentry hunread

theorem Leaves.unread_self (h : Leaves root chain value) : Unread value := by
  cases h with
  | unread hnone hvalue htext =>
      refine .here hvalue ?_
      rwa [reference?, hvalue, Option.bind_some] at hnone
  | pair hrefers => exact .pair hrefers

theorem mem_of_item?_eq_some {items : List Value} {index : ℤ} {item : Value}
    (h : Pointer.item? items index = some item) : item ∈ items := by
  unfold Pointer.item? at h
  split at h
  · exact List.mem_of_getElem? h
  · split at h
    · exact List.mem_of_getElem? h
    · cases h

/-- A step of a pointer leads to a part of a value. -/
theorem Unread.of_step {segment reference : String} {next : Value}
    (h : Pointer.step reference value segment = .ok next) (hnext : Unread next) : Unread value := by
  unfold Pointer.step at h
  split at h
  · split at h
    · next found hfound =>
        cases h
        obtain ⟨before, after, rfl, -⟩ := List.lookup_eq_some_iff.mp hfound
        exact .entry (List.mem_append_cons_self ..) hnext
    · cases h
  · split at h
    · next found hfound =>
        cases h
        obtain ⟨index, -, hitem⟩ := Option.bind_eq_some_iff.mp hfound
        exact .item (mem_of_item?_eq_some hitem) hnext
    · cases h
  · cases h

/-- A document without an unread `$ref` has no call for a value with one. -/
theorem Visits.not_unread (hvisits : Visits root chain value) (hroot : ¬ Unread root) :
    ¬ Unread value := by
  induction hvisits with
  | root => exact hroot
  | item hvisits hitem ih => exact fun hunread => ih (.item hitem hunread)
  | entry hvisits hnone hentry ih => exact fun hunread => ih (.entry hentry hunread)
  | target hvisits hreference htarget ih =>
      unfold Pointer.locate at htarget
      split at htarget
      · cases htarget
      · exact of_foldlM_eq_ok (fun part : Value => ¬ Unread part)
          (fun part segment next hpart hstep => mt (Unread.of_step hstep) hpart) hroot htarget
  | siblings hvisits hreference hmap hsiblings ih =>
      intro hunread
      cases hunread with
      | here hvalue htext =>
          rw [get?_siblings] at hvalue
          cases hvalue
      | entry hentry hunread => exact ih (.entry (mem_of_mem_siblings hentry) hunread)

/-- **When an expansion is complete.**  In a document that expands, no call has a reference left in
its result exactly if no call leaves one itself.  Then the result of the document has none, and it
is its own expansion.  This is so whenever every `$ref` of the document is a text and no pair of
values has one. -/
theorem expand_complete (h : expand root = .ok result) :
    ((∀ chain value part, Visits root chain value → expandFrom root chain value = .ok part →
        ¬ Refers part) ↔
      ∀ chain value, Visits root chain value → ¬ Leaves root chain value) ∧
    ((∀ chain value, Visits root chain value → ¬ Leaves root chain value) →
      ¬ Refers result ∧ expand result = .ok result) ∧
    (¬ Unread root → ∀ chain value, Visits root chain value → ¬ Leaves root chain value) := by
  refine ⟨⟨?_, ?_⟩, ?_, ?_⟩
  · intro hresults chain value hvisits hleaves
    obtain ⟨part, hpart⟩ := hvisits.exists_expandFrom h
    exact hresults chain value part hvisits hpart (hleaves.refers hpart)
  · intro hleaves chain value part hvisits hpart
    exact hvisits.not_refers hleaves hpart
  · intro hleaves
    have hresult := Visits.root.not_refers hleaves h
    exact ⟨hresult, expandWith_of_not_refers hresult⟩
  · intro hroot chain value hvisits hleaves
    exact hvisits.not_unread hroot hleaves.unread_self

end Value

/-! ## Two sample documents -/

namespace Sample

open Value

/-- A document with a `$ref` whose value is a reference to a text. -/
def relay : Value :=
  map [(.text "a", text "#/b"), (.text "b", map [(.text "type", text "object")]),
    (.text "x", map [(.text "$ref", referenceTo "#/a")])]

/-- What the relay is expanded to, and what this is expanded to. -/
theorem exists_expand_relay : ∃ result again, expand relay = .ok result ∧ Refers result ∧
    expand result = .ok again ∧ again ≠ result := by
  have hrefers : Refers (map [(.text "a", text "#/b"),
      (.text "b", map [(.text "type", text "object")]), (.text "x", referenceTo "#/b")]) :=
    .entry (List.mem_cons_of_mem _ (List.mem_cons_of_mem _ (List.mem_cons_self ..)))
      (.here (reference?_referenceTo _))
  exact ⟨_, _, by rfl, hrefers, by rfl, by simp [referenceTo, Entries.overlay]⟩

theorem not_unread_catalogue : ¬ Unread catalogue := by
  simp [catalogue, referenceTo, unread_map, unread_list, not_unread_scalar, Entries.get?_cons,
    Entries.get?_nil, referenceKey, asText?]

/-- A call of the relay leaves a reference, and no call of the catalogue does. -/
theorem samples_complete : (∃ chain value, Visits relay chain value ∧ Leaves relay chain value) ∧
    ∃ result, expand catalogue = .ok result ∧ ¬ Refers result ∧ expand result = .ok result := by
  have hcatalogue : ∃ result, expand catalogue = .ok result := ⟨_, by rfl⟩
  obtain ⟨result, hresult⟩ := hcatalogue
  obtain ⟨-, hcomplete, hread⟩ := expand_complete hresult
  refine ⟨?_, result, hresult, hcomplete (hread not_unread_catalogue)⟩
  obtain ⟨left, again, hleft, hrefers, -⟩ := exists_expand_relay
  obtain ⟨hcalls, -⟩ := expand_complete hleft
  by_contra hnone
  refine hcalls.mpr (fun chain value hvisits hleaves => hnone ⟨chain, value, hvisits, hleaves⟩)
    [] relay left .root hleft hrefers

/-- **A reference can be left.**  The relay is expanded to a document with a reference, and this
document is not its own expansion. -/
theorem relay_left : (¬ ∀ root result, expand root = .ok result → ¬ Refers result) ∧
    ¬ ∀ root result, expand root = .ok result → expand result = .ok result := by
  obtain ⟨result, again, hresult, hrefers, hagain, hother⟩ := exists_expand_relay
  refine ⟨fun hall => hall relay result hresult hrefers, fun hall => ?_⟩
  exact hother (Except.ok.inj (hagain.symm.trans (hall relay result hresult)))

end Sample

end ResourceGraph
