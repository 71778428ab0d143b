import ResourceGraph.Document.Build
import ResourceGraph.Proofs.Key
import ResourceGraph.Proofs.Order.Shuffled

/-!
# The order of mappings

What the order of the entries of a mapping means depends on the place where the mapping stands.  A
document is read by the names of its paths, its ways of authentication and the properties of its
schemas; here the order is free.  A region list or a timeout is read as a text, and here the order
is seen.  Much of a document is not read at all; the definitions are not read where they stand, but
where a reference brings them.

`Role` says as what a value is read, and `Aligned` that two values differ in nothing that is seen in
a role.  In the role `unread` this is a difference in the order of entries alone, at any depth; in
the role `literal` there is no difference.
-/

namespace ResourceGraph

/-- Whether a vendor extension is one that the analysis looks for, up to case. -/
def Extension.isRead (name : String) : Bool :=
  "x-terraform-".toList.isPrefixOf (Text.lower name).toList

/-- As what a value of a document is read. -/
inductive Role where
  | document
  | paths
  | pathItem
  | parameters
  | parameter
  | operation
  | responses
  | response
  | schema
  | properties
  | securityDefinitions
  | securityDeclaration
  /-- The value is read as it is written. -/
  | literal
  /-- The value is not read, or only its shape is. -/
  | unread
deriving DecidableEq

namespace Role

/-- The fields of a mapping that are read. -/
def fields : Role → List (String × Role)
  | document =>
    [("paths", paths), ("securityDefinitions", securityDefinitions), ("host", literal),
      ("basePath", literal), ("schemes", literal), ("security", literal)]
  | pathItem => ("parameters", parameters) :: Method.all.map fun method => (method.name, operation)
  | operation =>
    [("parameters", parameters), ("responses", responses), ("operationId", literal),
      ("security", literal)]
  | parameter =>
    [("name", literal), ("in", literal), ("required", literal), ("schema", schema)]
  | response => [("schema", schema)]
  | schema =>
    [("type", literal), ("description", literal), ("required", literal), ("readOnly", literal),
      ("$ref", literal), ("properties", properties), ("items", schema)]
  | securityDeclaration => [("type", literal), ("in", literal), ("name", literal)]
  | _ => []

/-- The role of the value of a key.  The analysis looks for vendor extensions in every mapping with
fields. -/
def under (role : Role) (key : Scalar) : Role :=
  match role, key with
  | paths, _ => pathItem
  | responses, _ => response
  | properties, _ => schema
  | securityDefinitions, _ => securityDeclaration
  | literal, _ => literal
  | unread, _ => unread
  | parameters, _ => unread
  | role, .text name =>
    match role.fields.lookup name with
    | some field => field
    | none => if Extension.isRead name then literal else unread
  | _, _ => unread

/-- The role of an item of a list. -/
def item : Role → Role
  | parameters => parameter
  | schema => schema
  | literal => literal
  | _ => unread

/-- Whether the entries of a mapping are looked up by names that any of their keys may write. -/
def isNamed : Role → Bool
  | paths | properties | securityDefinitions => true
  | _ => false

/-- Whether the order of the entries of a mapping matters. -/
def isOrdered (role : Role) : Bool := !role.isNamed && role != unread

end Role

/-- Whether a key writes a name. -/
def Scalar.writes (key : Scalar) (name : String) : Bool := key.fieldText? == some name

/-- The keys that write a name: a text, and perhaps a row of bytes that writes the same. -/
def Entries.namesakes {α : Type} (name : String) (entries : List (Scalar × α)) : List Scalar :=
  (entries.map Prod.fst).filter fun key => key.writes name

namespace Value

/-- Two values differ in nothing that is seen in a role. -/
inductive Aligned : Role → Value → Value → Prop
  | scalar (role : Role) (value : Scalar) : Aligned role (scalar value) (scalar value)
  | set (role : Role) (members : List Scalar) : Aligned role (set members) (set members)
  | pair {role : Role} {first first' second second' : Value}
      (hfirst : Aligned role.item first first') (hsecond : Aligned role.item second second') :
      Aligned role (pair first second) (pair first' second')
  | list {role : Role} {items items' : List Value} (hlength : items.length = items'.length)
      (hitems : ∀ both ∈ items.zip items', Aligned role.item both.1 both.2) :
      Aligned role (list items) (list items')
  | map {role : Role} {entries middle entries' : List (Scalar × Value)}
      (hlength : entries.length = middle.length)
      (hkeys : ∀ both ∈ entries.zip middle, both.2.1 = both.1.1)
      (hvalues : ∀ both ∈ entries.zip middle,
        Aligned (role.under both.1.1) both.1.2 both.2.2)
      (hperm : middle.Perm entries') (hordered : role.isOrdered → middle = entries')
      (hdistinct : (Entries.keys entries).Nodup)
      (hnamed : role.isNamed → ∀ name,
        Entries.namesakes name entries = Entries.namesakes name entries') :
      Aligned role (map entries) (map entries')

end Value

/-! ## Entries -/

/-- The entries of two mappings correspond by their keys, in order where the order matters; keys
that write the same name keep their order where names are looked up. -/
structure Arranged {α α' : Type} (role : Role) (related : Scalar → α → α' → Prop)
    (entries : List (Scalar × α)) (entries' : List (Scalar × α')) : Prop where
  shuffled : Shuffled role.isOrdered
    (fun entry entry' => entry'.1 = entry.1 ∧ related entry.1 entry.2 entry'.2) entries entries'
  distinct : (Entries.keys entries).Nodup
  named : role.isNamed → ∀ name,
    Entries.namesakes name entries = Entries.namesakes name entries'

/-- The entries of two mappings differ in nothing that is seen in a role. -/
abbrev AlignedEntries (role : Role) (entries entries' : List (Scalar × Value)) : Prop :=
  Arranged role (fun key => Value.Aligned (role.under key)) entries entries'

namespace Value

variable {role : Role} {value value' : Value} {items : List Value}
  {entries : List (Scalar × Value)}

theorem aligned_list_iff : Aligned role (list items) value' ↔
    ∃ items', value' = list items' ∧ List.Forall₂ (Aligned role.item) items items' := by
  constructor
  · intro h
    cases h with
    | list hlength hitems =>
        exact ⟨_, rfl, List.forall₂_iff_zip.mpr ⟨hlength, fun {a b} hboth => hitems (a, b) hboth⟩⟩
  · rintro ⟨items', rfl, hitems⟩
    exact .list hitems.length_eq fun both hboth => List.forall₂_zip hitems hboth

theorem aligned_map_iff : Aligned role (map entries) value' ↔
    ∃ entries', value' = map entries' ∧ AlignedEntries role entries entries' := by
  constructor
  · intro h
    cases h with
    | @map _ _ middle entries' hlength hkeys hvalues hperm hordered hdistinct hnamed =>
        refine ⟨entries', rfl, ⟨middle, ?_, hperm, hordered⟩, hdistinct, hnamed⟩
        exact List.forall₂_iff_zip.mpr
          ⟨hlength, fun {a b} hboth => ⟨hkeys (a, b) hboth, hvalues (a, b) hboth⟩⟩
  · rintro ⟨entries', rfl, ⟨middle, hmiddle, hperm, hordered⟩, hdistinct, hnamed⟩
    exact .map hmiddle.length_eq (fun both hboth => (List.forall₂_zip hmiddle hboth).1)
      (fun both hboth => (List.forall₂_zip hmiddle hboth).2) hperm hordered hdistinct hnamed

/-- To prove something of aligned values, prove it of values whose corresponding parts have it. -/
theorem Aligned.parts_induction {motive : Role → Value → Value → Prop}
    (scalar : ∀ role value, motive role (.scalar value) (.scalar value))
    (set : ∀ role members, motive role (.set members) (.set members))
    (pair : ∀ (role : Role) first first' second second', Aligned role.item first first' →
      motive role.item first first' → Aligned role.item second second' →
        motive role.item second second' → motive role (.pair first second) (.pair first' second'))
    (list : ∀ (role : Role) items items', List.Forall₂ (fun item item' =>
      Aligned role.item item item' ∧ motive role.item item item') items items' →
        motive role (.list items) (.list items'))
    (map : ∀ (role : Role) entries entries', Arranged role (fun key part part' =>
      Aligned (role.under key) part part' ∧ motive (role.under key) part part')
        entries entries' → motive role (.map entries) (.map entries'))
    (h : Aligned role value value') : motive role value value' := by
  induction h with
  | scalar role value => exact scalar role value
  | set role members => exact set role members
  | pair hfirst hsecond ihfirst ihsecond =>
      exact pair _ _ _ _ _ hfirst ihfirst hsecond ihsecond
  | list hlength hitems ih =>
      refine list _ _ _ (List.forall₂_iff_zip.mpr ⟨hlength, fun {a b} hboth => ?_⟩)
      exact ⟨hitems (a, b) hboth, ih (a, b) hboth⟩
  | map hlength hkeys hvalues hperm hordered hdistinct hnamed ih =>
      refine map _ _ _ ⟨⟨_, ?_, hperm, hordered⟩, hdistinct, hnamed⟩
      refine List.forall₂_iff_zip.mpr ⟨hlength, fun {a b} hboth => ?_⟩
      exact ⟨hkeys (a, b) hboth, hvalues (a, b) hboth, ih (a, b) hboth⟩

/-- Mappings whose values correspond in order. -/
theorem Aligned.of_forall₂ {entries' : List (Scalar × Value)} (h : List.Forall₂ (fun entry entry' =>
      entry'.1 = entry.1 ∧ Aligned (role.under entry.1) entry.2 entry'.2) entries entries')
    (hdistinct : (Entries.keys entries).Nodup) : Aligned role (.map entries) (.map entries') := by
  refine aligned_map_iff.mpr ⟨entries', rfl, Shuffled.of_forall₂ h, hdistinct, fun _ name => ?_⟩
  have hkeys := map_eq_of_forall₂ h fun entry entry' hboth => hboth.1.symm
  rw [Entries.namesakes, Entries.namesakes, hkeys]

/-- Keys that are texts write the same name only if they are the same, so that their order is
free. -/
theorem namesakes_eq_of_perm {entries' : List (Scalar × Value)} (hperm : entries.Perm entries')
    (htexts : ∀ entry ∈ entries, ∃ name, entry.1 = .text name) (name : String) :
    Entries.namesakes name entries = Entries.namesakes name entries' := by
  have hnames : (Entries.namesakes name entries).Perm (Entries.namesakes name entries') :=
    (hperm.map Prod.fst).filter _
  have hsame : ∀ key ∈ Entries.namesakes name entries, key = .text name := by
    intro key hkey
    obtain ⟨hmem, hwrites⟩ := List.mem_filter.mp hkey
    obtain ⟨entry, hentry, rfl⟩ := List.mem_map.mp hmem
    obtain ⟨other, hother⟩ := htexts entry hentry
    rw [hother] at hwrites ⊢
    exact congrArg Scalar.text (Option.some.inj (beq_iff_eq.mp hwrites))
  rw [List.eq_replicate_of_mem hsame] at hnames ⊢
  exact (List.perm_replicate.mp hnames.symm).symm

/-- Mappings of named parts that have texts as keys can be listed in any order. -/
theorem Aligned.of_perm {entries' : List (Scalar × Value)} (hperm : entries.Perm entries')
    (hrole : role.isOrdered = false) (htexts : ∀ entry ∈ entries, ∃ name, entry.1 = .text name)
    (hvalues : ∀ entry ∈ entries, Aligned (role.under entry.1) entry.2 entry.2)
    (hdistinct : (Entries.keys entries).Nodup) : Aligned role (.map entries) (.map entries') := by
  refine aligned_map_iff.mpr ⟨entries', rfl, ⟨entries, ?_, hperm, ?_⟩, hdistinct, fun _ =>
    namesakes_eq_of_perm hperm htexts⟩
  · exact List.forall₂_same.mpr fun entry hentry => ⟨rfl, hvalues entry hentry⟩
  · intro hordered
    rw [hrole] at hordered
    cases hordered

/-! ## What is seen in every role -/

/-- A value that is read as it is written is the same. -/
theorem Aligned.eq_of_literal (h : Aligned .literal value value') : value = value' := by
  suffices hall : ∀ role, Aligned role value value' → role = .literal → value = value' from
    hall _ h rfl
  intro role h
  refine h.parts_induction (motive := fun role value value' => role = .literal → value = value')
    ?_ ?_ ?_ ?_ ?_
  · exact fun _ _ _ => rfl
  · exact fun _ _ _ => rfl
  · rintro _ first first' second second' - hfirst - hsecond rfl
    rw [hfirst rfl, hsecond rfl]
  · rintro _ items items' hitems rfl
    rw [eq_of_forall₂ hitems fun item item' hboth => hboth.2 rfl]
  · rintro _ entries entries' hentries rfl
    rw [eq_of_forall₂ (hentries.shuffled.forall₂ rfl) fun entry entry' hboth =>
      Prod.ext hboth.1.symm (hboth.2.2 rfl)]

theorem Aligned.isMap_eq (h : Aligned role value value') : value.isMap = value'.isMap := by
  cases h <;> rfl

theorem Aligned.eq_null_iff (h : Aligned role value value') : value = .null ↔ value' = .null := by
  constructor <;> rintro rfl <;> cases h <;> rfl

theorem Aligned.asText?_eq (h : Aligned role value value') : value.asText? = value'.asText? := by
  cases h <;> rfl

theorem Aligned.fieldText?_eq (h : Aligned role value value') :
    value.fieldText? = value'.fieldText? := by
  cases h <;> rfl

theorem isEmpty_eq_of_length {α α' : Type} {items : List α} {items' : List α'}
    (h : items.length = items'.length) : items.isEmpty = items'.isEmpty := by
  rw [Bool.eq_iff_iff, List.isEmpty_iff_length_eq_zero, List.isEmpty_iff_length_eq_zero, h]

theorem Aligned.isEmpty_eq (h : Aligned role value value') : value.isEmpty = value'.isEmpty := by
  cases h with
  | scalar | set | pair => rfl
  | list hlength => exact isEmpty_eq_of_length hlength
  | map hlength hkeys hvalues hperm =>
      exact isEmpty_eq_of_length (hlength.trans hperm.length_eq)

theorem areWritable_eq_all (items : List Value) : areWritable items = items.all isWritable := by
  induction items with
  | nil => rfl
  | cons item rest ih => rw [areWritable, ih, List.all_cons]

theorem areEntriesWritable_eq_all (entries : List (Scalar × Value)) :
    areEntriesWritable entries =
      entries.all fun entry => entry.1.isWritable && entry.2.isWritable := by
  induction entries with
  | nil => rfl
  | cons entry rest ih => rw [areEntriesWritable, ih, List.all_cons]

theorem Aligned.isWritable_eq (h : Aligned role value value') :
    value.isWritable = value'.isWritable := by
  refine h.parts_induction (motive := fun _ value value' => value.isWritable = value'.isWritable)
    ?_ ?_ ?_ ?_ ?_
  · exact fun _ _ => rfl
  · exact fun _ _ => rfl
  · intro role first first' second second' _ hfirst _ hsecond
    rw [Value.isWritable, Value.isWritable, hfirst, hsecond]
  · intro role items items' hitems
    rw [Value.isWritable, Value.isWritable, areWritable_eq_all, areWritable_eq_all]
    have hshuffled : Shuffled True _ items items' := .of_forall₂ hitems
    exact hshuffled.all_eq fun item item' hboth => hboth.2
  · intro role entries entries' hentries
    rw [Value.isWritable, Value.isWritable, areEntriesWritable_eq_all, areEntriesWritable_eq_all]
    refine hentries.shuffled.all_eq fun entry entry' hboth => ?_
    rw [hboth.1, hboth.2.2]

end Value

/-! ## Looking up keys -/

theorem Entries.keys_eq_map {α : Type} (entries : List (Scalar × α)) :
    Entries.keys entries = (entries.map Prod.fst).map Scalar.key := by
  rw [List.map_map]
  rfl

namespace Arranged

variable {α α' : Type} {role : Role} {related : Scalar → α → α' → Prop}
  {entries : List (Scalar × α)} {entries' : List (Scalar × α')}

theorem nodup_keys (h : Arranged role related entries entries') :
    (entries.map Prod.fst).Nodup := by
  refine List.Nodup.of_map Scalar.key ?_
  rw [← Entries.keys_eq_map]
  exact h.distinct

/-- Corresponding values stand under a key. -/
theorem rel_lookup (h : Arranged role related entries entries') (key : Scalar) :
    Option.Rel (related key) (entries.lookup key) (entries'.lookup key) := by
  obtain ⟨middle, hmiddle, hperm, -⟩ := h.shuffled
  have hkeys : entries.map Prod.fst = middle.map Prod.fst :=
    map_eq_of_forall₂ hmiddle fun entry entry' hboth => hboth.1.symm
  rw [← lookup_eq_of_perm hperm (hkeys ▸ h.nodup_keys)]
  exact ResourceGraph.rel_lookup related hmiddle key

theorem rel_get? {related : Scalar → Value → Value → Prop}
    {entries entries' : List (Scalar × Value)} (h : Arranged role related entries entries')
    (name : String) :
    Option.Rel (related (.text name)) (Entries.get? entries name) (Entries.get? entries' name) :=
  h.rel_lookup (.text name)

theorem nil (role : Role) (related : Scalar → α → α' → Prop) : Arranged role related [] [] :=
  ⟨.of_forall₂ .nil, List.nodup_nil, fun _ _ => rfl⟩

theorem imp {other : Scalar → α → α' → Prop} (h : Arranged role related entries entries')
    (himp : ∀ key value value', related key value value' → other key value value') :
    Arranged role other entries entries' :=
  ⟨h.shuffled.imp fun _ _ hboth => ⟨hboth.1, himp _ _ _ hboth.2⟩, h.distinct, h.named⟩

theorem and_of_mem (extra : Scalar → α → α' → Prop) (h : Arranged role related entries entries')
    (hextra : ∀ entry ∈ entries, ∀ value', related entry.1 entry.2 value' →
      extra entry.1 entry.2 value') :
    Arranged role (fun key value value' => related key value value' ∧ extra key value value')
      entries entries' := by
  have hshuffled := h.shuffled.and_of_mem (fun entry entry' => extra entry.1 entry.2 entry'.2)
    fun entry hentry entry' hboth => hextra entry hentry entry'.2 hboth.2
  exact ⟨hshuffled.imp fun entry entry' hboth => ⟨hboth.1.1, hboth.1.2, hboth.2⟩, h.distinct,
    h.named⟩

theorem namesakes_eq_map (name : String) (entries : List (Scalar × α)) :
    Entries.namesakes name entries =
      (entries.filter fun entry => entry.1.writes name).map Prod.fst := by
  rw [Entries.namesakes, List.filter_map]
  rfl

/-- Entries whose keys write the same name correspond in order. -/
theorem forall₂_namesakes (h : Arranged role related entries entries') (hnamed : role.isNamed)
    (name : String) :
    List.Forall₂ (fun entry entry' => entry'.1 = entry.1 ∧ related entry.1 entry.2 entry'.2)
      (entries.filter fun entry => entry.1.writes name)
      (entries'.filter fun entry => entry.1.writes name) := by
  have hwrites : ∀ (entry : Scalar × α) (entry' : Scalar × α'),
      entry'.1 = entry.1 ∧ related entry.1 entry.2 entry'.2 →
        entry.1.writes name = entry'.1.writes name := fun entry entry' hboth => by rw [hboth.1]
  -- keys are distinct, so that what stands in the order of the keys stands in the same order
  obtain ⟨middle, hmiddle, hperm, -⟩ := h.shuffled.filter hwrites
  have hkeys := map_eq_of_forall₂ hmiddle fun entry entry' hboth => hboth.1.symm
  have hnames := h.named hnamed name
  rw [namesakes_eq_map, namesakes_eq_map, hkeys] at hnames
  have hnodup := h.nodup_keys.sublist
    ((List.filter_sublist (p := fun entry => entry.1.writes name)).map _)
  rw [hkeys] at hnodup
  exact eq_of_perm_of_map_eq hperm hnames hnodup ▸ hmiddle

theorem filter {holds : Scalar × α → Bool} {holds' : Scalar × α' → Bool}
    (h : Arranged role related entries entries')
    (hholds : ∀ key value value', related key value value' →
      holds (key, value) = holds' (key, value')) :
    Arranged role related (entries.filter holds) (entries'.filter holds') := by
  have hentry : ∀ (entry : Scalar × α) (entry' : Scalar × α'),
      entry'.1 = entry.1 ∧ related entry.1 entry.2 entry'.2 → holds entry = holds' entry' := by
    rintro ⟨key, value⟩ ⟨key', value'⟩ ⟨hkey, hrelated⟩
    obtain rfl : key' = key := hkey
    exact hholds key' value value' hrelated
  refine ⟨h.shuffled.filter hentry, h.distinct.sublist (List.filter_sublist.map _), ?_⟩
  intro hnamed name
  have hshuffled : Shuffled True _ _ _ := .of_forall₂ (h.forall₂_namesakes hnamed name)
  rw [namesakes_eq_map, namesakes_eq_map, List.filter_comm _ holds, List.filter_comm _ holds']
  exact map_eq_of_forall₂ ((hshuffled.filter hentry).forall₂ trivial) fun entry entry' hboth =>
    hboth.1.symm

/-- Going through the values of two mappings with computations that agree. -/
theorem mapM {ε ε' β β' : Type} {next : Scalar → β → β' → Prop} {f : Scalar → α → Except ε β}
    {g : Scalar → α' → Except ε' β'} (h : Arranged role related entries entries')
    (hnext : ∀ key value value', related key value value' →
      Agree (next key) (f key value) (g key value')) :
    Agree (Arranged role next) (entries.mapM fun entry => do return (entry.1, ← f entry.1 entry.2))
      (entries'.mapM fun entry => do return (entry.1, ← g entry.1 entry.2)) := by
  have hentry : ∀ (entry : Scalar × α) (entry' : Scalar × α'),
      entry'.1 = entry.1 ∧ related entry.1 entry.2 entry'.2 →
        Agree (fun result result' : Scalar × _ =>
          result'.1 = result.1 ∧ next result.1 result.2 result'.2)
          (do return (entry.1, ← f entry.1 entry.2))
          (do return (entry'.1, ← g entry'.1 entry'.2)) := by
    rintro ⟨key, value⟩ ⟨key', value'⟩ ⟨hkey, hrelated⟩
    obtain rfl : key' = key := hkey
    exact (hnext key' value value' hrelated).bind fun result result' hresult =>
      .ok ⟨rfl, hresult⟩
  refine (h.shuffled.mapM hentry).imp_of_eq fun results results' hresults hresults' hshuffled => ?_
  have hkeys : entries.map Prod.fst = results.map Prod.fst :=
    map_eq_of_forall₂ ((mapM_values_eq_ok_iff f).mp hresults) fun _ _ hboth => hboth.1.symm
  have hkeys' : entries'.map Prod.fst = results'.map Prod.fst :=
    map_eq_of_forall₂ ((mapM_values_eq_ok_iff g).mp hresults') fun _ _ hboth => hboth.1.symm
  refine ⟨hshuffled, ?_, fun hnamed name => ?_⟩
  · have hdistinct := h.distinct
    rw [Entries.keys_eq_map, hkeys, ← Entries.keys_eq_map] at hdistinct
    exact hdistinct
  · have hname := h.named hnamed name
    rw [Entries.namesakes, Entries.namesakes, hkeys, hkeys'] at hname
    exact hname

end Arranged

end ResourceGraph
