import ResourceGraph.Proofs.Order.Role
import ResourceGraph.Proofs.Reference.Success

/-!
# The order of mappings and the expansion

Documents that differ in the order of entries alone are expanded to documents that differ in it
alone, or are both rejected: the keys of a mapping are found in any order, and siblings are laid
over a mapping in any order.

A reference can bring a mapping from a place where its order is not seen to one where it is.
`Faithful` says that this does not happen: where a reference stands, its targets differ in nothing
that is seen in the role of its place.  For documents that are not read at all this is no condition.
-/

namespace ResourceGraph

/-! ## Setting keys in any order -/

namespace Entries

variable {key other : Scalar} {value value' : Value}
  {entries entries' base base' upper upper' : List (Scalar × Value)}

theorem mem_keys_of_mem_keys_put {found : Key} (h : found ∈ keys (put key value entries)) :
    found ∈ keys entries ∨ found = key.key := by
  induction entries with
  | nil => simpa [put, keys] using h
  | cons entry rest ih =>
      rw [put] at h
      split at h
      · exact Or.inl h
      · rcases List.mem_cons.mp h with rfl | hrest
        · exact Or.inl (List.mem_cons_self ..)
        · exact (ih hrest).imp_left (List.mem_cons_of_mem _)

theorem nodup_keys_put (h : (keys entries).Nodup) : (keys (put key value entries)).Nodup := by
  induction entries with
  | nil => simp [put, keys]
  | cons entry rest ih =>
      obtain ⟨hentry, hrest⟩ := List.nodup_cons.mp h
      rw [put]
      split
      · exact h
      · next hother =>
          refine List.nodup_cons.mpr ⟨fun hmem => ?_, ih hrest⟩
          rcases mem_keys_of_mem_keys_put hmem with hmem | hsame
          · exact hentry hmem
          · exact hother (Scalar.same_iff.mpr hsame)

theorem nodup_keys_overlay (h : (keys base).Nodup) : (keys (overlay base upper)).Nodup := by
  induction upper generalizing base with
  | nil => exact h
  | cons entry rest ih => exact ih (nodup_keys_put h)

/-- A key put at the end of some keys unless it is among them. -/
def addKey (keys : List Scalar) (key : Scalar) : List Scalar :=
  if keys.any fun other => other.same key then keys else keys ++ [key]

theorem addKey_cons (other key : Scalar) (keys : List Scalar) :
    addKey (other :: keys) key =
      if other.same key then other :: keys else other :: addKey keys key := by
  rw [addKey, addKey, List.any_cons]
  by_cases hsame : other.same key = true
  · simp [hsame]
  · simp only [hsame, Bool.false_or, Bool.false_eq_true, if_false, List.cons_append]
    split <;> rfl

theorem writes_eq_of_same {left right : Scalar} (h : left.same right = true) (name : String) :
    left.writes name = right.writes name := by
  have hkey := Scalar.same_iff.mp h
  have htext : left.fieldText? = right.fieldText? := by
    cases left <;> cases right <;> simp_all [Scalar.key, Scalar.fieldText?]
  rw [Scalar.writes, Scalar.writes, htext]

theorem namesakes_cons (name : String) (key : Scalar) (value : Value)
    (entries : List (Scalar × Value)) : namesakes name ((key, value) :: entries) =
      if key.writes name then key :: namesakes name entries else namesakes name entries := by
  rw [namesakes, List.map_cons, List.filter_cons, ← namesakes]

theorem namesakes_put (name : String) (key : Scalar) (value : Value)
    (entries : List (Scalar × Value)) : namesakes name (put key value entries) =
      if key.writes name then addKey (namesakes name entries) key else namesakes name entries := by
  induction entries with
  | nil => cases hkey : key.writes name <;> simp [put, namesakes, addKey, hkey]
  | cons entry rest ih =>
      rw [put]
      by_cases hsame : entry.1.same key = true
      · rw [if_pos hsame, namesakes_cons, namesakes_cons, writes_eq_of_same hsame]
        split
        · rw [addKey_cons, if_pos hsame]
        · rfl
      · rw [if_neg hsame, namesakes_cons, namesakes_cons, ih]
        cases entry.1.writes name with
        | false => rfl
        | true =>
            cases key.writes name with
            | false => rfl
            | true => simp only [if_true, addKey_cons, if_neg hsame]

theorem namesakes_overlay (name : String) (base upper : List (Scalar × Value)) :
    namesakes name (overlay base upper) =
      (namesakes name upper).foldl addKey (namesakes name base) := by
  induction upper generalizing base with
  | nil => rfl
  | cons entry rest ih =>
      rw [overlay, List.foldl_cons, ← overlay, ih, namesakes_put,
        namesakes_cons]
      split <;> rfl

theorem put_perm (hperm : entries.Perm entries') (h : (keys entries).Nodup) :
    (put key value entries).Perm (put key value entries') := by
  induction hperm with
  | nil => exact .refl _
  | cons entry hrest ih =>
      rw [put, put]
      split
      · exact hrest.cons _
      · exact (ih (List.nodup_cons.mp h).2).cons _
  | swap first second rest =>
      -- not both of the entries that change places have the key
      have hother : ¬ (second.1.same key = true ∧ first.1.same key = true) := by
        rintro ⟨hsecond, hfirst⟩
        have hsame := (Scalar.same_iff.mp hsecond).trans (Scalar.same_iff.mp hfirst).symm
        simp [keys, hsame] at h
      rw [put, put, put, put]
      by_cases hsecond : second.1.same key = true
      · have hfirst := fun hfirst => hother ⟨hsecond, hfirst⟩
        rw [if_pos hsecond, if_neg hfirst, if_pos hsecond]
        exact .swap ..
      · rw [if_neg hsecond, if_neg hsecond]
        by_cases hfirst : first.1.same key = true
        · rw [if_pos hfirst, if_pos hfirst]
          exact .swap ..
        · rw [if_neg hfirst, if_neg hfirst]
          exact .swap ..
  | trans hfirst hsecond ihfirst ihsecond =>
      exact (ihfirst h).trans (ihsecond ((hfirst.map _).nodup_iff.mp h))

/-- Different keys can be set in any order. -/
theorem put_comm (h : key.key ≠ other.key) :
    (put key value (put other value' entries)).Perm (put other value' (put key value entries)) := by
  have hsame : ¬ key.same other = true := fun hsame => h (Scalar.same_iff.mp hsame)
  have hsame' : ¬ other.same key = true := fun hsame => h (Scalar.same_iff.mp hsame).symm
  induction entries with
  | nil =>
      rw [put, put, put, if_neg hsame', put, put, if_neg hsame, put]
      exact .swap ..
  | cons entry rest ih =>
      by_cases hother : entry.1.same other = true
      · have hkey : ¬ entry.1.same key = true := fun hkey =>
          h ((Scalar.same_iff.mp hkey).symm.trans (Scalar.same_iff.mp hother))
        rw [put, if_pos hother, put, if_neg hkey, put, if_neg hkey, put, if_pos hother]
      · by_cases hkey : entry.1.same key = true
        · rw [put, if_neg hother, put, if_pos hkey, put, if_pos hkey, put, if_neg hother]
        · rw [put, if_neg hother, put, if_neg hkey, put, if_neg hkey, put, if_neg hother]
          exact ih.cons _

theorem overlay_perm_left (hperm : base.Perm base') (h : (keys base).Nodup) :
    (overlay base upper).Perm (overlay base' upper) := by
  induction upper generalizing base base' with
  | nil => exact hperm
  | cons entry rest ih => exact ih (put_perm hperm h) (nodup_keys_put h)

theorem overlay_perm_right (hperm : upper.Perm upper') (hbase : (keys base).Nodup)
    (h : (keys upper).Nodup) : (overlay base upper).Perm (overlay base upper') := by
  induction hperm generalizing base with
  | nil => exact .refl _
  | cons entry hrest ih => exact ih (nodup_keys_put hbase) (List.nodup_cons.mp h).2
  | swap first second rest =>
      have hother : first.1.key ≠ second.1.key := by
        intro hsame
        simp [keys, hsame] at h
      exact overlay_perm_left (put_comm hother) (nodup_keys_put (nodup_keys_put hbase))
  | trans hfirst hsecond ihfirst ihsecond =>
      exact (ihfirst hbase h).trans (ihsecond hbase ((hfirst.map _).nodup_iff.mp h))

/-- Mappings with different keys can be laid over each other in any order of their entries. -/
theorem overlay_perm (hbase : base.Perm base') (hupper : upper.Perm upper')
    (hkeys : (keys base).Nodup) (hkeys' : (keys upper).Nodup) :
    (overlay base upper).Perm (overlay base' upper') :=
  (overlay_perm_right hupper hkeys hkeys').trans (overlay_perm_left hbase hkeys)

/-- Entries that are in step before a key is set are so afterwards. -/
theorem forall₂_put (related : Scalar → Value → Value → Prop)
    (hcongr : ∀ left right : Scalar, left.key = right.key → related left = related right)
    (h : List.Forall₂ (fun entry entry' => entry'.1 = entry.1 ∧ related entry.1 entry.2 entry'.2)
      entries entries') (hvalue : related key value value') :
    List.Forall₂ (fun entry entry' => entry'.1 = entry.1 ∧ related entry.1 entry.2 entry'.2)
      (put key value entries) (put key value' entries') := by
  induction h with
  | nil => exact .cons ⟨rfl, hvalue⟩ .nil
  | @cons entry entry' rest rest' hentry hrest ih =>
      rw [put, put, hentry.1]
      split
      · next hsame =>
          rw [← hcongr _ _ (Scalar.same_iff.mp hsame)] at hvalue
          exact .cons ⟨rfl, hvalue⟩ hrest
      · exact .cons ⟨rfl, hentry.2⟩ ih

theorem forall₂_overlay (related : Scalar → Value → Value → Prop)
    (hcongr : ∀ left right : Scalar, left.key = right.key → related left = related right)
    (hbase : List.Forall₂ (fun entry entry' => entry'.1 = entry.1 ∧
      related entry.1 entry.2 entry'.2) base base')
    (hupper : List.Forall₂ (fun entry entry' => entry'.1 = entry.1 ∧
      related entry.1 entry.2 entry'.2) upper upper') :
    List.Forall₂ (fun entry entry' => entry'.1 = entry.1 ∧ related entry.1 entry.2 entry'.2)
      (overlay base upper) (overlay base' upper') := by
  induction hupper generalizing base base' with
  | nil => exact hbase
  | @cons entry entry' rest rest' hentry hrest ih =>
      rw [overlay, overlay, List.foldl_cons, List.foldl_cons, hentry.1]
      exact ih (forall₂_put related hcongr hbase hentry.2)

end Entries

theorem Role.under_of_not_text (role : Role) {key : Scalar} (h : ∀ name, key ≠ .text name) :
    role.under key = role.under .null := by
  cases key with
  | text name => exact absurd rfl (h name)
  | _ => cases role <;> rfl

/-- The role of a value depends on its key as a key alone. -/
theorem Role.under_congr (role : Role) {left right : Scalar} (h : left.key = right.key) :
    role.under left = role.under right := by
  by_cases htext : ∃ name, left = .text name
  · obtain ⟨name, rfl⟩ := htext
    rw [Scalar.key_eq_text.mp h.symm]
  · have hleft : ∀ name, left ≠ .text name := fun name hname => htext ⟨name, hname⟩
    have hright : ∀ name, right ≠ .text name := by
      rintro name rfl
      exact hleft name (Scalar.key_eq_text.mp h)
    rw [role.under_of_not_text hleft, role.under_of_not_text hright]

/-- Corresponding mappings laid over corresponding ones correspond. -/
theorem AlignedEntries.overlay {role : Role} {base base' upper upper' : List (Scalar × Value)}
    (hbase : AlignedEntries role base base') (hupper : AlignedEntries role upper upper') :
    AlignedEntries role (Entries.overlay base upper) (Entries.overlay base' upper') := by
  obtain ⟨⟨between, hbetween, hperm, hordered⟩, hdistinct, hnamed⟩ := hbase
  obtain ⟨⟨above, habove, hpermAbove, horderedAbove⟩, hdistinctAbove, hnamedAbove⟩ := hupper
  have hkeys : Entries.keys base = Entries.keys between :=
    map_eq_of_forall₂ hbetween fun entry entry' hboth => congrArg Scalar.key hboth.1.symm
  have hkeysAbove : Entries.keys upper = Entries.keys above :=
    map_eq_of_forall₂ habove fun entry entry' hboth => congrArg Scalar.key hboth.1.symm
  refine ⟨⟨Entries.overlay between above, ?_, ?_, ?_⟩, Entries.nodup_keys_overlay hdistinct, ?_⟩
  · exact Entries.forall₂_overlay (fun key => Value.Aligned (role.under key))
      (fun left right hsame => by rw [role.under_congr hsame]) hbetween habove
  · exact Entries.overlay_perm hperm hpermAbove (hkeys ▸ hdistinct) (hkeysAbove ▸ hdistinctAbove)
  · exact fun h => by rw [hordered h, horderedAbove h]
  · intro h name
    rw [Entries.namesakes_overlay, Entries.namesakes_overlay, hnamed h, hnamedAbove h]

namespace Value

variable {root root' value value' : Value} {role start : Role} {reference : String}
  {chain : List String}

/-! ## Targets -/

/-- Values that are aligned in some role differ in the order of entries alone. -/
theorem Aligned.unread (h : Aligned role value value') : Aligned .unread value value' := by
  refine h.parts_induction (motive := fun _ value value' => Aligned .unread value value')
    ?_ ?_ ?_ ?_ ?_
  · exact fun _ value => .scalar .unread value
  · exact fun _ members => .set .unread members
  · exact fun _ _ _ _ _ _ hfirst _ hsecond => .pair hfirst hsecond
  · exact fun _ _ _ hitems =>
      aligned_list_iff.mpr ⟨_, rfl, hitems.imp fun _ _ hboth => hboth.2⟩
  · intro role entries entries' hentries
    refine aligned_map_iff.mpr ⟨_, rfl, ⟨?_, hentries.distinct, nofun⟩⟩
    obtain ⟨middle, hmiddle, hperm, -⟩ := hentries.shuffled
    exact ⟨middle, hmiddle.imp fun _ _ hboth => ⟨hboth.1, hboth.2.2⟩, hperm, nofun⟩

theorem Aligned.step (h : Aligned .unread value value') (reference segment : String) :
    Agree (Aligned .unread) (Pointer.step reference value segment)
      (Pointer.step reference value' segment) := by
  cases value with
  | map entries =>
      obtain ⟨entries', rfl, hentries⟩ := aligned_map_iff.mp h
      have hrel := hentries.rel_get? segment
      unfold Pointer.step
      simp only
      generalize Entries.get? entries segment = found at hrel
      generalize Entries.get? entries' segment = found' at hrel
      cases hrel with
      | none => exact .error trivial
      | some hpart => exact .ok hpart
  | list items =>
      obtain ⟨items', rfl, hitems⟩ := aligned_list_iff.mp h
      unfold Pointer.step
      simp only
      cases (Number.readInteger segment).toOption with
      | none => exact .error trivial
      | some index =>
          have hrel := rel_item? hitems index
          rw [Option.bind_some, Option.bind_some]
          generalize Pointer.item? items index = found at hrel
          generalize Pointer.item? items' index = found' at hrel
          cases hrel with
          | none => exact .error trivial
          | some hpart => exact .ok hpart
  | scalar | set | pair =>
      cases h
      exact .error trivial

theorem Aligned.locate (h : Aligned .unread root root') (reference : String) :
    Agree (Aligned .unread) (Pointer.locate root reference) (Pointer.locate root' reference) := by
  unfold Pointer.locate
  split
  · exact .error trivial
  · next segments _ =>
      clear * - h
      induction segments generalizing root root' with
      | nil => exact .ok h
      | cons segment rest ih =>
          rw [List.foldlM_cons, List.foldlM_cons]
          exact (h.step reference segment).bind fun part part' hpart => ih hpart

/-! ## Places of references -/

/-- The values that the expansion of a document meets, each with the role of its place.  A target
takes the place of its reference. -/
inductive Stands (root : Value) (start : Role) : Role → Value → Prop
  | root : Stands root start start root
  | item {role : Role} {items : List Value} {item : Value}
      (hstands : Stands root start role (list items)) (hitem : item ∈ items) :
      Stands root start role.item item
  | entry {role : Role} {entries : List (Scalar × Value)} {entry : Scalar × Value}
      (hstands : Stands root start role (map entries)) (hentry : entry ∈ entries) :
      Stands root start (role.under entry.1) entry.2
  | target {role : Role} {entries : List (Scalar × Value)} {reference : String} {target : Value}
      (hstands : Stands root start role (map entries))
      (hreference : reference? entries = some reference)
      (htarget : Pointer.locate root reference = .ok target) : Stands root start role target

/-- The two targets of a reference differ in nothing that is seen where the reference stands. -/
def Faithful (start : Role) (root root' : Value) : Prop :=
  ∀ role entries reference target target', Stands root start role (map entries) →
    reference? entries = some reference → Pointer.locate root reference = .ok target →
      Pointer.locate root' reference = .ok target' → Aligned role target target'

/-- A reference that stands in a value which is read in a role, with the role of its own place. -/
inductive Placed : Role → Value → Role → String → Prop
  | here {role : Role} {entries : List (Scalar × Value)} {reference : String}
      (hreference : reference? entries = some reference) :
      Placed role (map entries) role reference
  | item {role place : Role} {items : List Value} {item : Value} {reference : String}
      (hitem : item ∈ items) (hplaced : Placed role.item item place reference) :
      Placed role (list items) place reference
  | entry {role place : Role} {entries : List (Scalar × Value)} {entry : Scalar × Value}
      {reference : String} (hentry : entry ∈ entries)
      (hplaced : Placed (role.under entry.1) entry.2 place reference) :
      Placed role (map entries) place reference

theorem placed_map_iff {entries : List (Scalar × Value)} {place : Role} :
    Placed role (map entries) place reference ↔
      (place = role ∧ reference? entries = some reference) ∨
        ∃ entry ∈ entries, Placed (role.under entry.1) entry.2 place reference := by
  constructor
  · intro h
    cases h with
    | here hreference => exact Or.inl ⟨rfl, hreference⟩
    | entry hentry hplaced => exact Or.inr ⟨_, hentry, hplaced⟩
  · rintro (⟨rfl, hreference⟩ | ⟨entry, hentry, hplaced⟩)
    · exact .here hreference
    · exact .entry hentry hplaced

theorem placed_list_iff {items : List Value} {place : Role} :
    Placed role (list items) place reference ↔
      ∃ item ∈ items, Placed role.item item place reference := by
  constructor
  · intro h
    cases h with
    | item hitem hplaced => exact ⟨_, hitem, hplaced⟩
  · rintro ⟨item, hitem, hplaced⟩
    exact .item hitem hplaced

theorem not_placed_scalar {scalar : Scalar} {place : Role} :
    ¬ Placed role (.scalar scalar) place reference := by
  intro h
  cases h

/-- To see that references are faithful it is enough to look at those that stand in the document and
in the targets of these. -/
theorem faithful_of_closed (holds : Role → String → Prop)
    (hroot : ∀ place reference, Placed start root place reference → holds place reference)
    (htarget : ∀ place reference target, holds place reference →
      Pointer.locate root reference = .ok target → ∀ inner other, Placed place target inner other →
        holds inner other)
    (haligned : ∀ place reference target target', holds place reference →
      Pointer.locate root reference = .ok target → Pointer.locate root' reference = .ok target' →
        Aligned place target target') : Faithful start root root' := by
  have hstands : ∀ {role : Role} {value : Value}, Stands root start role value →
      ∀ place reference, Placed role value place reference → holds place reference := by
    intro role value h
    induction h with
    | root => exact hroot
    | item _ hitem ih =>
        exact fun place reference hplaced => ih place reference (.item hitem hplaced)
    | entry _ hentry ih =>
        exact fun place reference hplaced => ih place reference (.entry hentry hplaced)
    | target _ hreference hlocate ih => exact htarget _ _ _ (ih _ _ (.here hreference)) hlocate
  intro role entries reference target target' h hreference hlocate hlocate'
  exact haligned role reference target target' (hstands h role reference (.here hreference)) hlocate
    hlocate'

theorem Stands.eq_unread (h : Stands root .unread role value) : role = .unread := by
  induction h with
  | root => rfl
  | item hstands hitem ih => rw [ih]; rfl
  | entry hstands hentry ih => rw [ih]; rfl
  | target hstands hreference htarget ih => exact ih

/-- References are faithful in a document that is not read. -/
theorem faithful_unread (h : Aligned .unread root root') : Faithful .unread root root' := by
  intro role entries reference target target' hstands hreference htarget htarget'
  rw [hstands.eq_unread]
  have hlocate := h.locate reference
  rw [htarget, htarget'] at hlocate
  exact hlocate.related_of_ok

/-! ## Expansions -/

section

variable {answer answer' : String → Except ReferenceError Value}
  {entries entries' : List (Scalar × Value)}

theorem reference?_eq (h : AlignedEntries role entries entries') :
    reference? entries = reference? entries' := by
  have hrel := h.rel_get? referenceKey
  unfold reference?
  generalize Entries.get? entries referenceKey = found at hrel ⊢
  generalize Entries.get? entries' referenceKey = found' at hrel ⊢
  cases hrel with
  | none => rfl
  | some hvalue => exact hvalue.asText?_eq

theorem expandEntries_arranged (h : AlignedEntries role entries entries')
    (hvalues : ∀ entry ∈ entries, ∀ value', Aligned (role.under entry.1) entry.2 value' →
      Agree (Aligned (role.under entry.1)) (expandWith answer entry.2)
        (expandWith answer' value')) :
    Agree (AlignedEntries role) (expandEntries answer entries)
      (expandEntries answer' entries') := by
  rw [expandEntries_eq_mapM, expandEntries_eq_mapM]
  have hboth := h.and_of_mem (fun key value value' =>
    Agree (Aligned (role.under key)) (expandWith answer value) (expandWith answer' value')) hvalues
  exact hboth.mapM fun key value value' hvalue => hvalue.2

theorem siblings_arranged (h : AlignedEntries role entries entries') :
    AlignedEntries role (siblings entries) (siblings entries') :=
  h.filter fun _ _ _ _ => rfl

/-- Mappings are expanded to corresponding ones if their values are and so are the targets of the
reference that they may be. -/
theorem expandWith_map_aligned (h : AlignedEntries role entries entries')
    (htarget : ∀ reference, reference? entries = some reference →
      Agree (Aligned role) (answer reference) (answer' reference))
    (hvalues : ∀ entry ∈ entries, ∀ value', Aligned (role.under entry.1) entry.2 value' →
      Agree (Aligned (role.under entry.1)) (expandWith answer entry.2)
        (expandWith answer' value')) :
    Agree (Aligned role) (expandWith answer (map entries)) (expandWith answer' (map entries')) := by
  have hsame := reference?_eq h
  cases hreference : reference? entries with
  | none =>
      rw [expandWith_of_none hreference, expandWith_of_none (hsame.symm.trans hreference)]
      exact (expandEntries_arranged h hvalues).bind fun results results' hresults =>
        .ok (aligned_map_iff.mpr ⟨results', rfl, hresults⟩)
  | some reference =>
      rw [expandWith_of_some hreference, expandWith_of_some (hsame.symm.trans hreference)]
      refine (htarget reference hreference).bind fun target target' haligned => ?_
      cases target with
      | map base =>
          obtain ⟨base', rfl, hbase⟩ := aligned_map_iff.mp haligned
          refine (expandEntries_arranged (siblings_arranged h) fun entry hentry =>
            hvalues entry (mem_of_mem_siblings hentry)).bind fun upper upper' hupper => ?_
          exact .ok (aligned_map_iff.mpr ⟨_, rfl, AlignedEntries.overlay hbase hupper⟩)
      | list items =>
          obtain ⟨items', rfl, -⟩ := aligned_list_iff.mp haligned
          exact .ok haligned
      | _ =>
          have hkept := haligned
          cases hkept
          exact .ok haligned

end

/-- **Documents in a different order are expanded alike.**  What two documents that differ in the
order of entries alone hold in corresponding places is expanded to what differs in nothing that is
seen there, or neither can be expanded, if the references are faithful. -/
theorem expandFrom_aligned (hroot : Aligned .unread root root')
    (hfaithful : Faithful start root root') (chain : List String)
    (hstands : Stands root start role value) (h : Aligned role value value') :
    Agree (Aligned role) (expandFrom root chain value) (expandFrom root' chain value') := by
  induction chain, value using target_induction root generalizing role value' with
  | step chain value ih =>
      induction value using induction generalizing role value' with
      | scalar | set | pair =>
          have hkept := h
          cases hkept
          exact .ok h
      | list items ihItems =>
          obtain ⟨items', rfl, hitems⟩ := aligned_list_iff.mp h
          rw [expandFrom_eq_expandWith, expandFrom_eq_expandWith, expandWith, expandWith,
            expandItems_eq_mapM, expandItems_eq_mapM]
          have hboth := forall₂_and_of_mem hitems fun item hitem item' halign =>
            ihItems item hitem (fun reference hmem => ih reference (by
              rw [references]
              exact mem_itemReferences hitem hmem)) (.item hstands hitem) halign
          have hshuffled : Shuffled True _ items items' := .of_forall₂ hboth
          refine (hshuffled.mapM fun item item' hpart => hpart.2).bind fun results results' h => ?_
          exact .ok (aligned_list_iff.mpr ⟨results', rfl, h.forall₂ trivial⟩)
      | map entries ihEntries =>
          obtain ⟨entries', rfl, hentries⟩ := aligned_map_iff.mp h
          refine expandWith_map_aligned hentries ?_ ?_
          · intro reference hreference
            show Agree (Aligned role) (followed root chain reference)
              (followed root' chain reference)
            by_cases hmem : reference ∈ chain
            · rw [followed_of_mem hmem, followed_of_mem hmem]
              exact .error trivial
            · rw [followed_of_not_mem hmem, followed_of_not_mem hmem]
              refine (hroot.locate reference).bind_of_eq fun target target' htarget htarget' _ => ?_
              refine ih reference ?_ hmem target htarget (.target hstands hreference htarget)
                (hfaithful role entries reference target target' hstands hreference htarget
                  htarget')
              simp [references, hreference]
          · intro entry hentry value' hvalue
            refine ihEntries entry hentry (fun reference hmem => ih reference ?_)
              (.entry hstands hentry) hvalue
            rw [references]
            exact List.mem_append_right _ (mem_entryReferences hentry hmem)

/-- What two documents are expanded to differs in nothing that is seen in a role, if the documents
themselves do not and their references are faithful. -/
theorem expand_aligned (h : Aligned start root root') (hfaithful : Faithful start root root') :
    Agree (Aligned start) (expand root) (expand root') :=
  expandFrom_aligned h.unread hfaithful [] .root h

end Value

end ResourceGraph
