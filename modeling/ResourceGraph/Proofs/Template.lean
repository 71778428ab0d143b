import ResourceGraph.Proofs.ParentName

/-!
# Regular path templates

A regular template is a row of levels, each of them a section of plain segments with a parameter
behind it, and then a last section.  No segment and no section is empty, and segments and parameters
have neither slashes nor braces.  The types below say so, hence every value of `Template` writes a
path.

Such a path is read level by level.  The plain segments of a section end in front of the brace of
the parameter and nowhere else (`plainLength_segmentTexts`), so the block of a level is read where
its text stands, whatever comes after it (`Level.stable`).  There are no other blocks: what is read
anywhere is the block of a level (`exists_level_of_blockAt?`).

The collection path of a parent is a regular template as well, that of the levels before it with its
own section at the end (`Template.cut`).  Its parents and its name are therefore known without
another induction.
-/

namespace ResourceGraph

namespace Path

/-! ## Segments, sections, levels -/

/-- A plain segment of a path, or the name of a parameter. -/
@[ext]
structure Segment where
  chars : List Char
  ne_nil : chars ≠ []
  plain : ∀ c ∈ chars, isSegmentCharacter c = true

/-- The characters of some segments, each after its slash. -/
def segmentTexts (segments : List Segment) : List Char :=
  segments.flatMap fun segment => '/' :: segment.chars

/-- Plain segments that follow one another. -/
structure Section where
  segments : List Segment
  ne_nil : segments ≠ []

/-- The characters of a section. -/
def Section.text (own : Section) : List Char := segmentTexts own.segments

/-- The name of the resource whose collection path is a section alone. -/
def Section.name (own : Section) (preferred : Option String) : String :=
  resourceName (String.ofList own.text) preferred

/-- A section with a parameter behind it. -/
structure Level where
  own : Section
  parameter : Segment

/-- The block that a level writes. -/
def Level.block (level : Level) : Block := ⟨level.own.text, level.parameter.chars⟩

/-- The characters of some levels. -/
def levelTexts (levels : List Level) : List Char := blockTexts (levels.map Level.block)

theorem levelTexts_append (outer inner : List Level) :
    levelTexts (outer ++ inner) = levelTexts outer ++ levelTexts inner := by
  simp [levelTexts, blockTexts]

theorem levelTexts_singleton (level : Level) : levelTexts [level] = level.block.text := by
  simp [levelTexts, blockTexts]

theorem levelTexts_take_succ {levels : List Level} {index : ℕ} {level : Level}
    (h : levels[index]? = some level) :
    levelTexts (levels.take (index + 1)) = levelTexts (levels.take index) ++ level.block.text := by
  rw [List.take_add_one, h, Option.toList_some, levelTexts_append, levelTexts_singleton]

theorem exists_segment_of_mem_text {own : Section} {c : Char} (h : c ∈ own.text) :
    c = '/' ∨ isSegmentCharacter c = true := by
  obtain ⟨segment, -, hc⟩ := List.mem_flatMap.mp h
  rcases List.mem_cons.mp hc with hslash | hplain
  · exact Or.inl hslash
  · exact Or.inr (segment.plain c hplain)

/-- There are no braces in a section. -/
theorem Section.brace_not_mem (own : Section) : '{' ∉ own.text ∧ '}' ∉ own.text := by
  constructor <;> intro hmem <;> rcases exists_segment_of_mem_text hmem with h | h <;>
    simp [isSegmentCharacter] at h

theorem Section.head?_text (own : Section) : own.text.head? = some '/' := by
  obtain ⟨first, rest, hsegments⟩ := List.exists_cons_of_ne_nil own.ne_nil
  simp [text, segmentTexts, hsegments]

/-! ## Reading levels -/

theorem plainLength_append {chars : List Char} (hchars : ∀ c ∈ chars, isSegmentCharacter c = true)
    (rest : List Char) : plainLength (chars ++ rest) = chars.length + plainLength rest := by
  induction chars with
  | nil => simp
  | cons c chars ih =>
      have hc : isSegmentCharacter c = true := hchars c (List.mem_cons_self ..)
      have hrest := ih fun d hd => hchars d (List.mem_cons_of_mem _ hd)
      rw [List.cons_append, plainLength, if_pos (by simp [hc]), hrest, List.length_cons]
      omega

/-- Plain segments are passed over as a whole. -/
theorem plainLength_segmentTexts (segments : List Segment) (rest : List Char) :
    plainLength (segmentTexts segments ++ rest) =
      (segmentTexts segments).length + plainLength rest := by
  induction segments with
  | nil => simp [segmentTexts]
  | cons segment segments ih =>
      obtain ⟨c, chars, hchars⟩ := List.exists_cons_of_ne_nil segment.ne_nil
      have hc : isSegmentCharacter c = true := segment.plain c (by simp [hchars])
      have htext : segmentTexts (segment :: segments) ++ rest =
          '/' :: (segment.chars ++ (segmentTexts segments ++ rest)) := by
        simp [segmentTexts]
      -- the slash is passed over because a plain character follows it
      have hslash : plainLength ('/' :: (segment.chars ++ (segmentTexts segments ++ rest))) =
          plainLength (segment.chars ++ (segmentTexts segments ++ rest)) + 1 := by
        rw [plainLength, if_pos]
        simp [hchars, hc]
      have hlength : (segmentTexts (segment :: segments)).length =
          segment.chars.length + 1 + (segmentTexts segments).length := by
        rw [segmentTexts, List.flatMap_cons, List.length_append, List.length_cons, segmentTexts]
      rw [htext, hslash, plainLength_append segment.plain, ih, hlength]
      omega

/-- A level is read where its text stands. -/
theorem Level.stable (level : Level) : level.block.Stable := by
  intro rest
  have htext : level.block.text ++ rest =
      level.own.text ++ '/' :: '{' :: (level.parameter.chars ++ '}' :: rest) := by
    simp [Block.text, Level.block]
  have hend : plainLength ('/' :: '{' :: (level.parameter.chars ++ '}' :: rest)) = 0 := by
    simp [plainLength, isSegmentCharacter]
  rw [htext]
  refine blockAt?_append level.own.head?_text level.parameter.ne_nil level.parameter.plain ?_
  rw [Section.text, plainLength_segmentTexts, hend, Nat.add_zero]

/-- What is passed over as plain segments is the end of a segment and segments after it. -/
theorem exists_take_plainLength_eq (path : List Char) :
    ∃ chars segments, path.take (plainLength path) = chars ++ segmentTexts segments ∧
      (∀ c ∈ chars, isSegmentCharacter c = true) ∧
      (path.head?.any isSegmentCharacter = true → chars ≠ []) := by
  induction path with
  | nil => exact ⟨[], [], rfl, by simp, by simp⟩
  | cons c rest ih =>
      obtain ⟨chars, segments, htake, hplain, hne⟩ := ih
      by_cases hc : isSegmentCharacter c = true
      · refine ⟨c :: chars, segments, ?_, ?_, by simp⟩
        · rw [plainLength, if_pos (by simp [hc]), List.take_succ_cons, htake, List.cons_append]
        · exact List.forall_mem_cons.mpr ⟨hc, hplain⟩
      by_cases hslash : (c == '/' && rest.head?.any isSegmentCharacter) = true
      · obtain ⟨hchar, hnext⟩ := Bool.and_eq_true_iff.mp hslash
        obtain rfl : c = '/' := by simpa using hchar
        refine ⟨[], ⟨chars, hne hnext, hplain⟩ :: segments, ?_, by simp, ?_⟩
        · rw [plainLength, if_pos (by simp [hnext]), List.take_succ_cons, htake]
          simp [segmentTexts]
        · intro hhead
          simp [isSegmentCharacter] at hhead
      · refine ⟨[], [], ?_, by simp, ?_⟩
        · rw [plainLength, if_neg (by simp only [Bool.or_eq_true, not_or]; exact ⟨hc, hslash⟩)]
          rfl
        · intro hhead
          exact absurd (by simpa using hhead) hc

/-- Every block that is read is that of a level. -/
theorem exists_level_of_blockAt? {path : List Char} {block : Block}
    (h : blockAt? path = some block) : ∃ level : Level, level.block = block := by
  obtain ⟨hslash, hpositive, hroot, -⟩ := exists_of_blockAt?_eq_some h
  obtain ⟨-, hparameter, hplain⟩ := blockAt?_eq_some h
  obtain ⟨chars, segments, htake, hchars, -⟩ := exists_take_plainLength_eq path
  have hhead : (path.take (plainLength path)).head? = some '/' := by
    rw [List.head?_take, if_neg hpositive, hslash]
  -- nothing plain stands before the first slash
  have hnil : chars = [] := by
    cases chars with
    | nil => rfl
    | cons c chars =>
        have hc : isSegmentCharacter c = true := hchars c (List.mem_cons_self ..)
        obtain rfl : c = '/' := by simpa [htake] using hhead
        simp [isSegmentCharacter] at hc
  have hsegments : segments ≠ [] := by
    rintro rfl
    simp [htake, hnil, segmentTexts] at hhead
  refine ⟨⟨⟨segments, hsegments⟩, ⟨block.parameter, hparameter, hplain⟩⟩, ?_⟩
  rw [Level.block, Section.text, ← List.nil_append (segmentTexts segments), ← hnil, ← htake,
    ← hroot]

theorem blocksFrom_levelTexts (levels : List Level) (rest : List Char) :
    blocksFrom 0 (levelTexts levels ++ rest) = levels.map Level.block ++ blocksFrom 0 rest := by
  refine blocksFrom_texts (fun block hblock => ?_) rest
  obtain ⟨level, -, rfl⟩ := List.mem_map.mp hblock
  exact level.stable

/-! ## Parents by their position -/

/-- The parent that a block describes, `before` being the characters of the blocks before it. -/
def parentAt (before : List Char) (block : Block) : Parent :=
  let root := String.ofList (before ++ block.root)
  ⟨root, String.ofList (before ++ block.text), resourceName root none⟩

theorem getElem?_parentsOf (before : List Char) (blocks : List Block) (index : ℕ) :
    (parentsOf before blocks)[index]? =
      blocks[index]?.map (parentAt (before ++ blockTexts (blocks.take index))) := by
  induction blocks generalizing before index with
  | nil => simp [parentsOf]
  | cons block blocks ih =>
      cases index with
      | zero => simp [parentsOf, parentAt, blockTexts]
      | succ index =>
          rw [parentsOf, List.getElem?_cons_succ, List.getElem?_cons_succ, ih]
          simp [blockTexts]

theorem take_parentsOf (before : List Char) (blocks : List Block) (count : ℕ) :
    (parentsOf before blocks).take count = parentsOf before (blocks.take count) := by
  induction blocks generalizing before count with
  | nil => simp [parentsOf]
  | cons block blocks ih =>
      cases count with
      | zero => simp [parentsOf]
      | succ count => simp [parentsOf, ih]

theorem length_parentsOf (before : List Char) (blocks : List Block) :
    (parentsOf before blocks).length = blocks.length := by
  induction blocks generalizing before with
  | nil => rfl
  | cons block blocks ih => simp [parentsOf, ih]

/-! ## Templates -/

/-- A regular template: some levels, a last section, and perhaps a slash at the end. -/
structure Template where
  levels : List Level
  last : Section
  slash : Bool

namespace Template

/-- The path that a template writes. -/
def path (template : Template) : String :=
  String.ofList (levelTexts template.levels ++ template.last.text ++
    if template.slash then ['/'] else [])

/-- The template of the collection that stands in front of a parameter. -/
def cut (template : Template) (count : ℕ) (own : Section) : Template :=
  ⟨template.levels.take count, own, false⟩

theorem path_of_slash {levels : List Level} {last : Section} :
    path ⟨levels, last, true⟩ = path ⟨levels, last, false⟩ ++ "/" := by
  rw [← String.toList_inj]
  simp [path]

theorem parents_path (template : Template) :
    parents template.path = parentsOf [] (template.levels.map Level.block) := by
  have htail : blocksFrom 0 (template.last.text ++ if template.slash then ['/'] else []) = [] := by
    refine blocksFrom_eq_nil ?_
    rw [List.mem_append, not_or]
    exact ⟨template.last.brace_not_mem.1, by split <;> simp⟩
  rw [parents, path, String.toList_ofList, List.append_assoc, blocksFrom_levelTexts, htail,
    List.append_nil]

theorem lastSection_append (levels : List Level) {rest : List Char} (hrest : '}' ∉ rest) :
    lastSection (levelTexts levels ++ rest) = rest := by
  have hreverse : (rest.reverse ++ (levelTexts levels).reverse).takeWhile (· != '}') =
      rest.reverse ++ (levelTexts levels).reverse.takeWhile (· != '}') := by
    refine List.takeWhile_append_of_pos fun c hc => ?_
    rw [bne_iff_ne]
    rintro rfl
    exact hrest (List.mem_reverse.mp hc)
  have hend : (levelTexts levels).reverse.takeWhile (· != '}') = [] := by
    rcases List.eq_nil_or_concat' levels with rfl | ⟨outer, level, rfl⟩
    · rfl
    · rw [levelTexts_append, levelTexts_singleton]
      simp [Block.text]
  rw [lastSection, List.reverse_append, hreverse, hend, List.append_nil, List.reverse_reverse]

/-- **A template is named by its last section alone.** -/
theorem resourceName_path (template : Template) (preferred : Option String) :
    resourceName template.path preferred = template.last.name preferred := by
  obtain ⟨levels, last, slash⟩ := template
  have hplain : resourceName (path ⟨levels, last, false⟩) preferred = last.name preferred := by
    have hsection : lastSection (levelTexts levels ++ last.text) = lastSection last.text :=
      (lastSection_append levels last.brace_not_mem.2).trans
        (lastSection_append [] last.brace_not_mem.2).symm
    rw [Section.name, resourceName, resourceName, path]
    simp [hsection]
  cases slash with
  | false => exact hplain
  | true => rw [path_of_slash, resourceName_append_slash, hplain]

/-- The parents of a template, level by level. -/
theorem getElem?_parents_path (template : Template) (index : ℕ) :
    (parents template.path)[index]? = template.levels[index]?.map fun level =>
      ⟨(template.cut index level.own).path,
        String.ofList (levelTexts (template.levels.take (index + 1))), level.own.name none⟩ := by
  rw [parents_path, getElem?_parentsOf, List.getElem?_map]
  cases hlevel : template.levels[index]? with
  | none => rfl
  | some level =>
      have hroot : (template.cut index level.own).path =
          String.ofList (levelTexts (template.levels.take index) ++ level.block.root) := by
        simp [cut, path, Level.block]
      have hname : resourceName (template.cut index level.own).path none = level.own.name none :=
        resourceName_path _ none
      simp only [Option.map_some]
      rw [← hname, levelTexts_take_succ hlevel, hroot]
      simp [parentAt, levelTexts, List.map_take]

theorem map_name_parents_path (template : Template) :
    (parents template.path).map Parent.name =
      template.levels.map fun level => level.own.name none := by
  refine List.ext_getElem? fun index => ?_
  rw [List.getElem?_map, List.getElem?_map, getElem?_parents_path, Option.map_map,
    Function.comp_def]

/-- **How a regular template is taken apart.**  It is nested exactly if it has levels, and has one
parent for each.  A parent has the levels up to its own as its instance path and the same without
the parameter as its collection path; it is named by its own section alone, and its own parents are
those before it. -/
theorem parents_of_levels (template : Template) :
    (parents template.path = [] ↔ template.levels = []) ∧
    (parents template.path).length = template.levels.length ∧
    Parent.fullName (parents template.path) =
      "_".intercalate (template.levels.map fun level => level.own.name none) ∧
    ∀ index level, template.levels[index]? = some level →
      ∃ parent, (parents template.path)[index]? = some parent ∧
        parent.instancePath = String.ofList (levelTexts (template.levels.take (index + 1))) ∧
        parent.instancePath =
          parent.rootPath ++ "/\x7b" ++ String.ofList level.parameter.chars ++ "\x7d" ∧
        parent.name = level.own.name none ∧
        parent.propertyName = level.own.name none ++ "_id" ∧
        parents parent.rootPath = (parents template.path).take index := by
  have hlength : (parents template.path).length = template.levels.length := by
    rw [parents_path, length_parentsOf, List.length_map]
  refine ⟨?_, hlength, ?_, ?_⟩
  · rw [← List.length_eq_zero_iff, hlength, List.length_eq_zero_iff]
  · rw [Parent.fullName, map_name_parents_path]
  · intro index level hlevel
    have hparent := template.getElem?_parents_path index
    rw [hlevel, Option.map_some] at hparent
    refine ⟨_, hparent, ?_⟩
    simp only [Parent.propertyName, true_and]
    constructor
    · rw [levelTexts_take_succ hlevel, ← String.toList_inj]
      simp [cut, path, Level.block, Block.text]
    · simp only [parents_path, take_parentsOf, cut, List.map_take]

end Template

end Path

/-! ## Rules of a firewall -/

namespace Sample

def versionOne : Path.Segment := ⟨['v', '1'], by simp, by simp [Path.isSegmentCharacter]⟩

def networkLevel : Path.Level where
  own := ⟨[versionOne, ⟨['c', 'd', 'n', 's'], by simp, by simp [Path.isSegmentCharacter]⟩], by simp⟩
  parameter := ⟨['c', 'd', 'n'], by simp, by simp [Path.isSegmentCharacter]⟩

def wallsSegment : Path.Segment :=
  ⟨['w', 'a', 'l', 'l', 's'], by simp, by simp [Path.isSegmentCharacter]⟩

def firewallLevel : Path.Level where
  own := ⟨[versionOne, wallsSegment], by simp⟩
  parameter := ⟨['w', 'a', 'l', 'l'], by simp, by simp [Path.isSegmentCharacter]⟩

/-- The rules of a firewall of a delivery network. -/
def wallRules : Path.Template where
  levels := [networkLevel, firewallLevel]
  last := ⟨[⟨['r', 'u', 'l', 'e', 's'], by simp, by simp [Path.isSegmentCharacter]⟩], by simp⟩
  slash := true

/-- The firewall is named by its own section, and its parents are those of the rules before it. -/
theorem exists_parent_wallRules :
    wallRules.path = "/v1/cdns/{cdn}/v1/walls/{wall}/rules/" ∧
    wallRules.levels[1]? = some firewallLevel ∧
    ∃ parent, (Path.parents wallRules.path)[1]? = some parent ∧
      parent.instancePath = "/v1/cdns/{cdn}/v1/walls/{wall}" ∧
      parent.name = "walls_v1" ∧
      Path.parents parent.rootPath = (Path.parents wallRules.path).take 1 := by
  obtain ⟨-, -, -, hlevels⟩ := Path.Template.parents_of_levels wallRules
  obtain ⟨parent, hparent, hinstance, -, hname, -, hparents⟩ := hlevels 1 firewallLevel rfl
  refine ⟨?_, rfl, parent, hparent, hinstance.trans ?_, hname.trans ?_, hparents⟩
  · decide +kernel
  · decide +kernel
  · decide +kernel

end Sample

end ResourceGraph
