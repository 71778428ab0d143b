import ResourceGraph.Proofs.Template

/-!
# Versions in the names of resources

The name of a nested resource joins the names of its parents and its own one, each read off a
section of its collection path: the last segment, and the last version in front of it.  Whether the
name tells two versions of a collection apart is therefore settled within one section.

* **The rest of the name stays.**  A template with one section left open (`Frame`) gives the same
  text in front of the name of this section and the same text behind it, whatever is filled in
  (`Frame.exists_resourceName_eq`).
* **A version is told by its section** unless a later segment is taken for a version, and the only
  such segments that are none are versions with a line feed at their end (`isVersion_iff`).

No line feed is found in the collection path of an instance path, so the resources of a document are
told apart by their versions.
-/

namespace ResourceGraph

namespace Path

/-! ## Versions -/

/-- A version: `v` and some digits. -/
def Segment.IsVersion (segment : Segment) : Prop :=
  ∃ digits, segment.chars = 'v' :: digits ∧ digits ≠ [] ∧
    ∀ c ∈ digits, Text.isDecimalDigit c = true

/-- A version with a line feed at its end. -/
def Segment.IsFedVersion (segment : Segment) : Prop :=
  ∃ version : Segment, version.IsVersion ∧ segment.chars = version.chars ++ ['\n']

theorem feed_not_mem_of_digits {digits : List Char}
    (h : ∀ c ∈ digits, Text.isDecimalDigit c = true) : '\n' ∉ digits := by
  intro hmem
  have hfeed : Text.isDecimalDigit '\n' = false := by decide
  rw [h _ hmem] at hfeed
  cases hfeed

/-- What is taken for a version: a version, perhaps with a line feed at its end. -/
theorem isVersion_iff {segment : Segment} :
    isVersion segment.chars = true ↔ segment.IsVersion ∨ segment.IsFedVersion := by
  constructor
  · intro h
    unfold isVersion at h
    split at h
    · next rest hchars =>
        simp only [Bool.and_eq_true, Bool.not_eq_true', List.isEmpty_eq_false_iff,
          List.all_eq_true] at h
        by_cases hfeed : rest.getLast? = some '\n'
        · rw [if_pos hfeed] at h
          obtain ⟨digits, rfl⟩ := List.getLast?_eq_some_iff.mp hfeed
          rw [List.dropLast_concat] at h
          have hplain : ∀ c ∈ 'v' :: digits, isSegmentCharacter c = true := by
            intro c hc
            refine segment.plain c ?_
            rw [hchars, ← List.cons_append]
            exact List.mem_append_left _ hc
          exact Or.inr ⟨⟨'v' :: digits, by simp, hplain⟩, ⟨digits, rfl, h⟩, hchars⟩
        · rw [if_neg hfeed] at h
          exact Or.inl ⟨rest, hchars, h⟩
    · cases h
  · rintro (⟨digits, hchars, hne, hdigits⟩ | ⟨version, ⟨digits, hversion, hne, hdigits⟩, hchars⟩)
    · have hfeed : digits.getLast? ≠ some '\n' :=
        fun hlast => feed_not_mem_of_digits hdigits (List.mem_of_getLast? hlast)
      rw [hchars]
      simpa [isVersion, hfeed, hne] using hdigits
    · rw [hchars, hversion]
      simpa [isVersion, hne] using hdigits

/-! ## The name of a section -/

theorem splitOn_segmentTexts (segments : List Segment) :
    (segmentTexts segments).splitOn '/' = [] :: segments.map Segment.chars := by
  induction segments using List.reverseRecOn with
  | nil => rfl
  | append_singleton segments segment ih =>
      have htext : segmentTexts (segments ++ [segment]) =
          segmentTexts segments ++ '/' :: segment.chars := by
        simp [segmentTexts]
      have hslash : '/' ∉ segment.chars := by
        intro hmem
        have hplain := segment.plain _ hmem
        simp [isSegmentCharacter] at hplain
      rw [htext, List.splitOn_append_cons_self, ih, List.splitOn_eq_singleton hslash]
      simp

theorem segments_text (own : Section) : segments own.text = own.segments.map Segment.chars := by
  rw [segments, Section.text, splitOn_segmentTexts, List.filter_cons_of_neg (by simp),
    List.filter_eq_self]
  intro chars hchars
  obtain ⟨segment, -, rfl⟩ := List.mem_map.mp hchars
  simpa using segment.ne_nil

/-- A section is named by its last segment, or by the name that is asked for, and by the last
version in front of it. -/
theorem Section.name_eq (own : Section) {front : List Segment} {last : Segment}
    (h : own.segments = front ++ [last]) (preferred : Option String) :
    own.name preferred =
      let chosen := preferred.getD ""
      let name := if chosen.isEmpty then String.ofList last.chars else chosen
      ((front.map Segment.chars).reverse.find? isVersion).elim name fun version =>
        name ++ "_" ++ String.ofList version := by
  have hsegments : Path.segments (lastSection (String.ofList own.text).toList) =
      front.map Segment.chars ++ [last.chars] := by
    have hsection : lastSection own.text = own.text :=
      Template.lastSection_append [] own.brace_not_mem.2
    rw [String.toList_ofList, hsection, segments_text, h, List.map_append, List.map_singleton]
  rw [name, resourceName]
  simp only [hsegments, List.getLast?_concat, List.dropLast_concat]
  cases (front.map Segment.chars).reverse.find? isVersion with
  | none => rfl
  | some version => rfl

/-- A section in which a version is wanted: it has a last segment, and no version stands between. -/
structure Slot where
  before : List Segment
  after : List Segment
  last : Segment
  unversioned : ∀ segment ∈ after, ¬ segment.IsVersion

/-- The section with a version put in its place. -/
def Slot.fill (slot : Slot) (version : Segment) : Section :=
  ⟨(slot.before ++ version :: slot.after) ++ [slot.last], by simp⟩

/-- A section tells two versions apart unless a later segment is a version with a line feed. -/
theorem Slot.name_fill_eq_iff (slot : Slot) {version other : Segment} (hversion : version.IsVersion)
    (hother : other.IsVersion) (hne : version ≠ other) (preferred : Option String) :
    (slot.fill version).name preferred = (slot.fill other).name preferred ↔
      ∃ segment ∈ slot.after, segment.IsFedVersion := by
  have hname (filled : Segment) (hfilled : filled.IsVersion) :=
    Section.name_eq (slot.fill filled) rfl preferred
  have hsearch (filled : Segment) :
      ((slot.before ++ filled :: slot.after).map Segment.chars).reverse.find? isVersion =
        ((slot.after.map Segment.chars).reverse.find? isVersion).or
          ((filled.chars :: (slot.before.map Segment.chars).reverse).find? isVersion) := by
    rw [List.map_append, List.map_cons, List.reverse_append, List.reverse_cons, List.append_assoc,
      List.find?_append, List.singleton_append]
  rw [hname version hversion, hname other hother, hsearch, hsearch]
  by_cases hfed : ∃ segment ∈ slot.after, segment.IsFedVersion
  · -- the later segment is found first, whatever is put in
    obtain ⟨segment, hmem, hsegment⟩ := hfed
    have hfound : ((slot.after.map Segment.chars).reverse.find? isVersion).isSome = true := by
      rw [List.find?_isSome]
      exact ⟨segment.chars, by simpa using ⟨segment, hmem, rfl⟩,
        isVersion_iff.mpr (Or.inr hsegment)⟩
    obtain ⟨found, hfound⟩ := Option.isSome_iff_exists.mp hfound
    rw [hfound, Option.some_or, Option.some_or]
    exact iff_of_true rfl ⟨segment, hmem, hsegment⟩
  · have hnone : (slot.after.map Segment.chars).reverse.find? isVersion = none := by
      rw [List.find?_eq_none]
      intro chars hchars
      obtain ⟨segment, hmem, rfl⟩ := List.mem_map.mp (List.mem_reverse.mp hchars)
      rw [isVersion_iff, not_or]
      exact ⟨slot.unversioned segment hmem, fun hsegment => hfed ⟨segment, hmem, hsegment⟩⟩
    rw [hnone, Option.none_or, Option.none_or,
      List.find?_cons_of_pos (isVersion_iff.mpr (Or.inl hversion)),
      List.find?_cons_of_pos (isVersion_iff.mpr (Or.inl hother))]
    refine iff_of_false (fun hsame => hne (Segment.ext ?_)) hfed
    simpa [String.ofList_inj] using hsame

/-! ## The name of a template -/

end Path

theorem Parent.qualified_eq_intercalate (parents : List Parent) (name : String) :
    Parent.qualified parents name = "_".intercalate (parents.map Parent.name ++ [name]) := by
  rw [← fullName_concat parents ⟨"", "", name⟩, fullName, List.map_append, List.map_singleton]

/-- The name of a template joins the names of its sections. -/
theorem PathItem.resourceName_template (item : PathItem) (template : Path.Template) :
    item.resourceName template.path = "_".intercalate
      ((template.levels.map fun level => level.own.name none) ++
        [template.last.name item.preferredName?]) := by
  rw [resourceName_eq, Parent.qualified_eq_intercalate, template.map_name_parents_path,
    template.resourceName_path]

/-- One of some joined texts stands between the others. -/
theorem exists_intercalate_eq (before after : List String) : ∃ front back, ∀ text : String,
    "_".intercalate (before ++ text :: after) = front ++ text ++ back := by
  have hback : ∃ back, ∀ text : String, "_".intercalate (text :: after) = text ++ back := by
    by_cases hafter : after = []
    · exact ⟨"", fun text => by simp [hafter]⟩
    · refine ⟨"_" ++ "_".intercalate after, fun text => ?_⟩
      rw [String.intercalate_cons_of_ne_nil hafter, String.append_assoc]
  obtain ⟨back, hback⟩ := hback
  by_cases hbefore : before = []
  · exact ⟨"", back, fun text => by simp [hbefore, hback]⟩
  · refine ⟨"_".intercalate before ++ "_", back, fun text => ?_⟩
    rw [String.intercalate_append_of_ne_nil hbefore (by simp), hback]
    simp only [String.append_assoc]

namespace Path

/-- A template with one of its sections left open. -/
inductive Frame where
  /-- The section of a parent, in front of its parameter. -/
  | parent (outer : List Level) (parameter : Segment) (inner : List Level) (last : Section)
      (slash : Bool)
  /-- The section of the collection itself. -/
  | collection (levels : List Level) (slash : Bool)

/-- The template with a section put in its place. -/
def Frame.fill : Frame → Section → Template
  | parent outer parameter inner last slash, own =>
    ⟨outer ++ ⟨own, parameter⟩ :: inner, last, slash⟩
  | collection levels slash, own => ⟨levels, own, slash⟩

/-- The name that the open section is asked to have: parents are never asked for one. -/
def Frame.wanted : Frame → Option String → Option String
  | parent .., _ => none
  | collection .., preferred => preferred

/-- The name of the open section stands between texts that do not depend on it. -/
theorem Frame.exists_resourceName_eq (frame : Frame) (item : PathItem) :
    ∃ front back, ∀ own : Section, item.resourceName (frame.fill own).path =
      front ++ own.name (frame.wanted item.preferredName?) ++ back := by
  cases frame with
  | parent outer parameter inner last slash =>
      obtain ⟨front, back, hjoined⟩ := exists_intercalate_eq
        (outer.map fun level => level.own.name none)
        ((inner.map fun level => level.own.name none) ++ [last.name item.preferredName?])
      refine ⟨front, back, fun own => ?_⟩
      rw [PathItem.resourceName_template]
      simp [fill, wanted, hjoined]
  | collection levels slash =>
      obtain ⟨front, back, hjoined⟩ := exists_intercalate_eq
        (levels.map fun level => level.own.name none) []
      refine ⟨front, back, fun own => ?_⟩
      rw [PathItem.resourceName_template]
      simp [fill, wanted, hjoined]

theorem Frame.resourceName_fill_eq_iff (frame : Frame) (item : PathItem) {own other : Section} :
    item.resourceName (frame.fill own).path = item.resourceName (frame.fill other).path ↔
      own.name (frame.wanted item.preferredName?) =
        other.name (frame.wanted item.preferredName?) := by
  obtain ⟨front, back, hname⟩ := frame.exists_resourceName_eq item
  rw [hname, hname, String.append_left_inj, String.append_right_inj]

theorem Frame.mem_path_of_mem (frame : Frame) {own : Section} {segment : Segment} {c : Char}
    (hsegment : segment ∈ own.segments) (hc : c ∈ segment.chars) :
    c ∈ (frame.fill own).path.toList := by
  have hown : c ∈ own.text :=
    List.mem_flatMap.mpr ⟨segment, hsegment, List.mem_cons_of_mem _ hc⟩
  cases frame with
  | parent outer parameter inner last slash =>
      simp [fill, Template.path, levelTexts, blockTexts, Level.block, Block.text, hown]
  | collection levels slash => simp [fill, Template.path, hown]

/-- **When the name of a resource tells two versions apart.**  The last version in front of the last
segment of a section, be it that of a parent or of the collection itself, is exchanged for another
one.  The name of the resource stays the same exactly if a segment between the two is a version with
a line feed at its end.  There is none in a collection path that is found for an instance path. -/
theorem version_untold_iff (frame : Frame) (slot : Slot) (item : PathItem) {version other : Segment}
    (hversion : version.IsVersion) (hother : other.IsVersion) (hne : version ≠ other) :
    (item.resourceName (frame.fill (slot.fill version)).path =
        item.resourceName (frame.fill (slot.fill other)).path ↔
      ∃ segment ∈ slot.after, segment.IsFedVersion) ∧
    ∀ declared path, findRoot declared path = .ok (frame.fill (slot.fill version)).path →
      item.resourceName (frame.fill (slot.fill version)).path ≠
        item.resourceName (frame.fill (slot.fill other)).path := by
  have hiff : item.resourceName (frame.fill (slot.fill version)).path =
      item.resourceName (frame.fill (slot.fill other)).path ↔
        ∃ segment ∈ slot.after, segment.IsFedVersion := by
    rw [frame.resourceName_fill_eq_iff, slot.name_fill_eq_iff hversion hother hne]
  refine ⟨hiff, fun declared path hfound hsame => ?_⟩
  obtain ⟨segment, hmem, fed, -, hchars⟩ := hiff.mp hsame
  have hsegment : segment ∈ (slot.fill version).segments := by simp [Slot.fill, hmem]
  exact feed_not_mem_of_findRoot hfound (frame.mem_path_of_mem hsegment (by simp [hchars]))

end Path

/-! ## Two versions of a firewall -/

namespace Sample

def versionTwo : Path.Segment := ⟨['v', '2'], by simp, by simp [Path.isSegmentCharacter]⟩

/-- A segment that is taken for a version only because the search stops in front of a line feed. -/
def fedVersion : Path.Segment := ⟨['v', '2', '\n'], by simp, by simp [Path.isSegmentCharacter]⟩

theorem isVersion_versionOne : versionOne.IsVersion :=
  ⟨['1'], rfl, by simp, fun c hc => by rw [List.mem_singleton.mp hc]; decide⟩

theorem isVersion_versionTwo : versionTwo.IsVersion :=
  ⟨['2'], rfl, by simp, fun c hc => by rw [List.mem_singleton.mp hc]; decide⟩

theorem not_isVersion_fedVersion : ¬ fedVersion.IsVersion := by
  rintro ⟨digits, hchars, -, hdigits⟩
  obtain rfl : digits = ['2', '\n'] := (List.cons.inj hchars).2.symm
  exact Path.feed_not_mem_of_digits hdigits (by decide)

theorem versionOne_ne_versionTwo : versionOne ≠ versionTwo := by
  intro h
  cases congrArg Path.Segment.chars h

/-- The rules of a firewall whose section is left open. -/
def firewallFrame : Path.Frame :=
  .parent [networkLevel] firewallLevel.parameter [] wallRules.last true

/-- A version and then the firewalls. -/
def firewallSlot : Path.Slot where
  before := []
  after := []
  last := wallsSegment
  unversioned := List.forall_mem_nil _

/-- The path of a rule, in which the section of the firewall has the first version. -/
def wallRulePath : String := "/v1/cdns/{cdn}/v1/walls/{wall}/rules/{rule}"

theorem findRoot_wallRulePath : Path.findRoot (fun _ => true) wallRulePath =
    .ok (firewallFrame.fill (firewallSlot.fill versionOne)).path := by
  decide +kernel

/-- The rules of the two versions of a firewall are told apart. -/
theorem resourceName_rules_ne : versionOne.IsVersion ∧ versionTwo.IsVersion ∧
    versionOne ≠ versionTwo ∧
    Path.findRoot (fun _ => true) wallRulePath =
      .ok (firewallFrame.fill (firewallSlot.fill versionOne)).path ∧
    ({} : PathItem).resourceName (firewallFrame.fill (firewallSlot.fill versionOne)).path ≠
      ({} : PathItem).resourceName (firewallFrame.fill (firewallSlot.fill versionTwo)).path := by
  obtain ⟨-, hfound⟩ := Path.version_untold_iff firewallFrame firewallSlot {} isVersion_versionOne
    isVersion_versionTwo versionOne_ne_versionTwo
  exact ⟨isVersion_versionOne, isVersion_versionTwo, versionOne_ne_versionTwo,
    findRoot_wallRulePath, hfound _ _ findRoot_wallRulePath⟩

/-- A collection `x` whose version has a segment with a line feed behind it. -/
def fedSlot : Path.Slot where
  before := []
  after := [fedVersion]
  last := ⟨['x'], by simp, by simp [Path.isSegmentCharacter]⟩
  unversioned := by simp [not_isVersion_fedVersion]

/-- **Versions can collide.**  Both collections have the name of the segment with the line feed. -/
theorem exists_version_untold : ¬ ∀ (frame : Path.Frame) (slot : Path.Slot) (item : PathItem)
    (version other : Path.Segment), version.IsVersion → other.IsVersion → version ≠ other →
      item.resourceName (frame.fill (slot.fill version)).path ≠
        item.resourceName (frame.fill (slot.fill other)).path := by
  intro hall
  refine hall (.collection [] false) fedSlot {} versionOne versionTwo isVersion_versionOne
    isVersion_versionTwo versionOne_ne_versionTwo ?_
  decide +kernel

end Sample

end ResourceGraph
