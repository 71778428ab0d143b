import ResourceGraph.Proofs.Template
import ResourceGraph.Proofs.TrailingSlash

/-!
# Whether parents are ancestors

A resource is nested under a parent if its collection path goes on from the instance path of the
parent.  The parents are read off the blocks of the collection path, though, and the text of a
parent is that of the blocks alone: whatever stands between two blocks, or in front of the first
one, is left out of it.

* **Among themselves** the parents are in order (`pairwise_encloses_parents`).  Each instance path
  goes on from the one before it, and each is an instance path whose collection path is the one of
  the parent.
* **In the collection path** they are ancestors exactly if nothing is left out: the path begins with
  levels, and there is no block in the rest of it (`Gapless`).  Two parameters in a row, a doubled
  slash or a brace within a segment leave a gap if another block comes after it.
-/

namespace ResourceGraph

/-- The instance path of a parent goes on from that of another one. -/
def Parent.Encloses (outer inner : Parent) : Prop :=
  outer.instancePath.toList <+: inner.instancePath.toList ∧ outer.instancePath ≠ inner.instancePath

namespace Path

/-! ## Blocks in a path -/

/-- The blocks that are read stand in the path. -/
theorem infix_of_mem_blocksFrom {skipped : ℕ} {path : List Char} {block : Block}
    (h : block ∈ blocksFrom skipped path) : block.text <:+: path := by
  induction path generalizing skipped with
  | nil => cases skipped <;> simp [blocksFrom] at h
  | cons c rest ih =>
      cases skipped with
      | succ skipped => exact List.infix_cons (ih h)
      | zero =>
          rw [blocksFrom] at h
          split at h
          · next first hfirst =>
              rcases List.mem_cons.mp h with rfl | hrest
              · obtain ⟨-, further, hpath⟩ := blockAt?_eq_some_iff.mp hfirst
                rw [hpath]
                exact (List.prefix_append _ _).isInfix
              · exact List.infix_cons (ih hrest)
          · exact List.infix_cons (ih h)

theorem exists_level_of_mem_blocksFrom {skipped : ℕ} {path : List Char} {block : Block}
    (h : block ∈ blocksFrom skipped path) : ∃ level : Level, level.block = block :=
  exists_level_of_blockAt?
    (blockAt?_eq_some_iff.mpr ⟨(stable_of_mem_blocksFrom h).1, [], (List.append_nil _).symm⟩)

/-- The blocks that are read are those of some levels. -/
theorem exists_levels (path : List Char) :
    ∃ levels : List Level, blocksFrom 0 path = levels.map Level.block := by
  have hrange : blocksFrom 0 path ∈ Set.range (List.map Level.block) := by
    rw [Set.range_list_map]
    exact fun block hblock => exists_level_of_mem_blocksFrom hblock
  obtain ⟨levels, hlevels⟩ := hrange
  exact ⟨levels, hlevels.symm⟩

/-- Nothing is read exactly if no level stands in the path. -/
theorem blocksFrom_eq_nil_iff {path : List Char} :
    blocksFrom 0 path = [] ↔ ∀ level : Level, ¬ level.block.text <:+: path := by
  constructor
  · rintro h level ⟨before, after, rfl⟩
    induction before with
    | nil =>
        rw [List.nil_append, ← levelTexts_singleton, blocksFrom_levelTexts] at h
        simp at h
    | cons c before ih =>
        simp only [List.cons_append] at h
        rw [blocksFrom] at h
        split at h
        · cases h
        · exact ih h
  · intro h
    refine List.eq_nil_iff_forall_not_mem.mpr fun block hblock => ?_
    obtain ⟨level, rfl⟩ := exists_level_of_mem_blocksFrom hblock
    exact h level (infix_of_mem_blocksFrom hblock)

/-! ## Parents among themselves -/

theorem prefix_of_mem_parentsOf {before : List Char} {blocks : List Block} {parent : Parent}
    (h : parent ∈ parentsOf before blocks) :
    before <+: parent.instancePath.toList ∧ before ≠ parent.instancePath.toList := by
  induction blocks generalizing before with
  | nil => simp [parentsOf] at h
  | cons block blocks ih =>
      have htext : before <+: before ++ block.text := List.prefix_append _ _
      rcases List.mem_cons.mp h with rfl | hrest
      · rw [String.toList_ofList]
        exact ⟨htext, by simp [Block.text]⟩
      · obtain ⟨hstart, -⟩ := ih hrest
        refine ⟨htext.trans hstart, fun hsame => ?_⟩
        -- a text cannot go on beyond itself
        have hle := hstart.length_le
        rw [← hsame] at hle
        simp [Block.text] at hle

theorem pairwise_encloses_parentsOf (before : List Char) (blocks : List Block) :
    (parentsOf before blocks).Pairwise Parent.Encloses := by
  induction blocks generalizing before with
  | nil => exact List.Pairwise.nil
  | cons block blocks ih =>
      refine List.pairwise_cons.mpr ⟨fun inner hinner => ?_, ih _⟩
      obtain ⟨hstart, hne⟩ := prefix_of_mem_parentsOf hinner
      refine ⟨by rwa [String.toList_ofList], fun hsame => hne ?_⟩
      rw [← hsame, String.toList_ofList]

/-- **The instance paths of parents go on one from another.** -/
theorem pairwise_encloses_parents (path : String) : (parents path).Pairwise Parent.Encloses :=
  pairwise_encloses_parentsOf [] _

/-- A parent is the end of some of the levels that are read. -/
theorem exists_levels_of_mem_parents {path : String} {parent : Parent} (h : parent ∈ parents path) :
    ∃ (outer : List Level) (level : Level) (inner : List Level),
      blocksFrom 0 path.toList = (outer ++ level :: inner).map Level.block ∧
      parent.rootPath = String.ofList (levelTexts outer ++ level.own.text) ∧
      parent.instancePath = String.ofList (levelTexts (outer ++ [level])) := by
  obtain ⟨levels, hlevels⟩ := exists_levels path.toList
  obtain ⟨index, hindex⟩ := List.mem_iff_getElem?.mp h
  rw [parents, hlevels, getElem?_parentsOf, List.getElem?_map, Option.map_map,
    Option.map_eq_some_iff] at hindex
  obtain ⟨level, hlevel, rfl⟩ := hindex
  obtain ⟨hlt, hget⟩ := List.getElem?_eq_some_iff.mp hlevel
  have hsplit : levels = levels.take index ++ level :: levels.drop (index + 1) := by
    rw [← hget, List.getElem_cons_drop, List.take_append_drop]
  refine ⟨levels.take index, level, levels.drop (index + 1), by rw [hlevels, ← hsplit], ?_, ?_⟩
  · simp [parentAt, levelTexts, List.map_take, Level.block]
  · rw [levelTexts_append, levelTexts_singleton]
    simp [parentAt, levelTexts, List.map_take]

/-! ## Parents in the collection path -/

/-- Nothing stands between the blocks of a path or in front of the first one: the path begins with
levels, and no block is left in the rest of it. -/
def Gapless (path : String) : Prop :=
  ∃ levels rest, path.toList = levelTexts levels ++ rest ∧
    ∀ level : Level, ¬ level.block.text <:+: rest

theorem blocksFrom_eq_of_gapless {path : List Char} {levels : List Level} {rest : List Char}
    (hpath : path = levelTexts levels ++ rest)
    (hrest : ∀ level : Level, ¬ level.block.text <:+: rest) :
    blocksFrom 0 path = levels.map Level.block := by
  rw [hpath, blocksFrom_levelTexts, blocksFrom_eq_nil_iff.mpr hrest, List.append_nil]

theorem prefix_of_gapless {path : String} (h : Gapless path) {parent : Parent}
    (hparent : parent ∈ parents path) : parent.instancePath.toList <+: path.toList := by
  obtain ⟨levels, rest, hpath, hrest⟩ := h
  obtain ⟨outer, level, inner, hlevels, -, hinstance⟩ := exists_levels_of_mem_parents hparent
  have hread : blockTexts (blocksFrom 0 path.toList) = levelTexts levels := by
    rw [blocksFrom_eq_of_gapless hpath hrest, levelTexts]
  have hlevel : levelTexts levels = levelTexts (outer ++ [level]) ++ levelTexts inner := by
    rw [← hread, hlevels, ← levelTexts_append]
    simp [levelTexts]
  rw [hinstance, String.toList_ofList, hpath, hlevel, List.append_assoc]
  exact List.prefix_append _ _

theorem gapless_of_prefix {path : String}
    (h : ∀ parent ∈ parents path, parent.instancePath.toList <+: path.toList) : Gapless path := by
  obtain ⟨levels, hlevels⟩ := exists_levels path.toList
  -- the last parent has the texts of all blocks
  have hstart : levelTexts levels <+: path.toList := by
    rcases List.eq_nil_or_concat' levels with rfl | ⟨outer, level, rfl⟩
    · exact List.nil_prefix
    · obtain ⟨parent, hparent⟩ : ∃ parent, (parents path)[outer.length]? = some parent := by
        rw [parents, hlevels, getElem?_parentsOf]
        simp
      have hmem := List.mem_of_getElem? hparent
      rw [parents, hlevels, getElem?_parentsOf] at hparent
      have hinstance : parent.instancePath = String.ofList (levelTexts (outer ++ [level])) := by
        rw [levelTexts_append, levelTexts_singleton]
        simp [parentAt, levelTexts] at hparent ⊢
        rw [← hparent]
      simpa [hinstance] using h parent hmem
  obtain ⟨rest, hpath⟩ := hstart
  refine ⟨levels, rest, hpath.symm, blocksFrom_eq_nil_iff.mp ?_⟩
  have hread := blocksFrom_levelTexts levels rest
  rw [hpath, hlevels] at hread
  exact List.self_eq_append_right.mp hread

/-- The instance path of a parent is one if the path that it is read from has no line feed. -/
theorem isInstance_of_mem_parents {path : String} (hfeed : '\n' ∉ path.toList) {parent : Parent}
    (h : parent ∈ parents path) : isInstance parent.instancePath = true ∧
      ∃ parameter : Segment, parent.instancePath =
        parent.rootPath ++ "/\x7b" ++ String.ofList parameter.chars ++ "\x7d" := by
  obtain ⟨outer, level, inner, hlevels, hroot, hinstance⟩ := exists_levels_of_mem_parents h
  have hform : parent.instancePath =
      parent.rootPath ++ "/\x7b" ++ String.ofList level.parameter.chars ++ "\x7d" := by
    rw [hinstance, hroot, levelTexts_append, levelTexts_singleton, ← String.toList_inj]
    simp [Level.block, Block.text]
  have hclean : '\n' ∉ parent.instancePath.toList := by
    intro hmem
    rw [hinstance, String.toList_ofList] at hmem
    obtain ⟨block, hblock, hmem⟩ := List.mem_flatMap.mp hmem
    have hread : block ∈ blocksFrom 0 path.toList := by
      rw [hlevels]
      exact List.map_subset _ (by simp) hblock
    exact hfeed ((infix_of_mem_blocksFrom hread).subset hmem)
  refine ⟨isInstance_iff.mpr ⟨⟨parent.rootPath.toList ++ ['/'], level.parameter.chars, []⟩,
    ⟨⟨_, rfl⟩, ?_, level.parameter.ne_nil, level.parameter.plain, by simp [instanceTails]⟩, ?_⟩,
    level.parameter, hform⟩
  · rw [hform] at hclean
    simp only [String.toList_append, List.mem_append, not_or] at hclean
    simp [hclean.1.1.1]
  · rw [hform]
    simp [InstanceParts.text]

/-- **When the parents of a collection are ancestors of it.**  The instance paths of the parents go
on one from another, and each of them is an instance path: the collection path of the parent with a
parameter behind it.  All of them stand at the beginning of the collection path exactly if this has
no gap between its blocks. -/
theorem ancestors_iff_gapless {declared : String → Bool} {path rootPath : String}
    (h : findRoot declared path = .ok rootPath) :
    (parents rootPath).Pairwise Parent.Encloses ∧
    (∀ parent ∈ parents rootPath, isInstance parent.instancePath = true ∧
      ∃ parameter : Segment, parent.instancePath =
        parent.rootPath ++ "/\x7b" ++ String.ofList parameter.chars ++ "\x7d") ∧
    ((∀ parent ∈ parents rootPath, parent.instancePath.toList <+: rootPath.toList ∧
      parent.rootPath.toList <+: rootPath.toList) ↔ Gapless rootPath) := by
  have hinstance (parent : Parent) (hparent : parent ∈ parents rootPath) :=
    isInstance_of_mem_parents (feed_not_mem_of_findRoot h) hparent
  refine ⟨pairwise_encloses_parents rootPath, hinstance, ?_, ?_⟩
  · exact fun hall => gapless_of_prefix fun parent hparent => (hall parent hparent).1
  · intro hgapless parent hparent
    have hstart := prefix_of_gapless hgapless hparent
    obtain ⟨-, parameter, hform⟩ := hinstance parent hparent
    refine ⟨hstart, List.IsPrefix.trans ?_ hstart⟩
    rw [hform, String.toList_append, String.toList_append, String.toList_append, List.append_assoc,
      List.append_assoc]
    exact List.prefix_append _ _

end Path

/-! ## A gap between two parameters -/

namespace Sample

/-- Files under the notes that a user has under a tag. -/
def filesPath : String := "/v1/users/{user}/{tag}/notes/{note}/files"

theorem findRoot_files :
    Path.findRoot (· == filesPath) (filesPath ++ "/{file}") = .ok filesPath := by
  decide +kernel

theorem parents_files : (Path.parents filesPath).map Parent.instancePath =
    ["/v1/users/{user}", "/v1/users/{user}/notes/{note}"] := by
  decide +kernel

/-- The notes are a parent of the files whose instance path does not stand in their path. -/
theorem exists_parent_files : ∃ parent ∈ Path.parents filesPath,
    ¬ parent.instancePath.toList <+: filesPath.toList := by
  have hmem :
      "/v1/users/{user}/notes/{note}" ∈ (Path.parents filesPath).map Parent.instancePath := by
    simp [parents_files]
  obtain ⟨parent, hparent, hpath⟩ := List.mem_map.mp hmem
  refine ⟨parent, hparent, ?_⟩
  rw [hpath]
  decide +kernel

/-- There is a gap in the path of the files, although their parents go on one from another. -/
theorem files_not_gapless :
    Path.findRoot (· == filesPath) (filesPath ++ "/{file}") = .ok filesPath ∧
      (Path.parents filesPath).Pairwise Parent.Encloses ∧ ¬ Path.Gapless filesPath := by
  obtain ⟨hpairwise, -, hiff⟩ := Path.ancestors_iff_gapless findRoot_files
  refine ⟨findRoot_files, hpairwise, fun hgapless => ?_⟩
  obtain ⟨parent, hparent, hstray⟩ := exists_parent_files
  exact hstray (hiff.mpr hgapless parent hparent).1

/-- **Not every parent is an ancestor.**  The tag is missing in the instance path of the notes. -/
theorem exists_stray_parent : ¬ ∀ (declared : String → Bool) (path rootPath : String),
    Path.findRoot declared path = .ok rootPath → ∀ parent ∈ Path.parents rootPath,
      parent.instancePath.toList <+: rootPath.toList := by
  intro hall
  obtain ⟨parent, hparent, hstray⟩ := exists_parent_files
  exact hstray (hall _ _ _ findRoot_files parent hparent)

end Sample

end ResourceGraph
