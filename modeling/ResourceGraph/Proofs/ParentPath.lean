import ResourceGraph.Path.Parent
import ResourceGraph.Proofs.InstancePath

/-!
# The grammar of parents

A parent is read off the collection path of its child: some plain segments, then a parameter.  Its
two templates end in a plain character and in a brace, never in a slash, so an instance path of the
document is that of the parent exactly if it is that template with slashes after it.

The collection of such an instance path may be declared with a slash at its end, which is not how
the child writes it.  `findRoot_of_mem_parents` says which of the two spellings is taken.
-/

namespace ResourceGraph

namespace Path

/-- A block as a parent has it: its root ends in a plain character, and its parameter is plain. -/
structure Block.Proper (block : Block) : Prop where
  root_plain : ∃ front last, block.root = front ++ [last] ∧ isSegmentCharacter last = true
  parameter_ne_nil : block.parameter ≠ []
  parameter_plain : ∀ c ∈ block.parameter, isSegmentCharacter c = true

/-! ## Blocks of a collection path -/

theorem exists_take_plainLength {path : List Char} (h : plainLength path ≠ 0) :
    ∃ front last, path.take (plainLength path) = front ++ [last] ∧
      isSegmentCharacter last = true := by
  induction path with
  | nil => exact absurd rfl h
  | cons c rest ih =>
      rw [plainLength] at h ⊢
      split at h
      · next hc =>
          rw [if_pos hc, List.take_succ_cons]
          by_cases hrest : plainLength rest = 0
          · refine ⟨[], c, by simp [hrest], ?_⟩
            -- a slash is only passed in front of a plain character, which is then passed as well
            by_contra hplain
            have hslash : c = '/' ∧ rest.head?.any isSegmentCharacter = true := by
              simpa [hplain] using hc
            have hnext := hslash.2
            cases rest with
            | nil => simp at hnext
            | cons d rest =>
                have hd : isSegmentCharacter d = true := by simpa using hnext
                simp [plainLength, hd] at hrest
          · obtain ⟨front, last, htake, hlast⟩ := ih hrest
            exact ⟨c :: front, last, by rw [htake, List.cons_append], hlast⟩
      · exact absurd rfl h

/-- What `blockAt?` reads: plain segments and a parameter in braces. -/
theorem exists_of_blockAt?_eq_some {path : List Char} {block : Block}
    (h : blockAt? path = some block) :
    path.head? = some '/' ∧ plainLength path ≠ 0 ∧ block.root = path.take (plainLength path) ∧
      ∃ rest, path.drop (plainLength path) = '/' :: '{' :: rest ∧ block.parameter ≠ [] ∧
        block.parameter = rest.takeWhile isSegmentCharacter := by
  by_cases hslash : path.head? = some '/'
  · rw [blockAt?, if_pos hslash] at h
    simp only at h
    split at h
    · next rest hdrop =>
        split at h
        · cases h
        · next hcondition =>
            cases h
            simp only [Bool.or_eq_true, decide_eq_true_eq, List.isEmpty_iff, not_or] at hcondition
            exact ⟨hslash, hcondition.1.1, rfl, rest, hdrop, hcondition.1.2, rfl⟩
    · cases h
  · rw [blockAt?, if_neg hslash] at h
    simp only [decide_true, Bool.true_or, if_true] at h
    split at h <;> cases h

theorem blockAt?_eq_some {path : List Char} {block : Block} (h : blockAt? path = some block) :
    block.Proper := by
  obtain ⟨-, hpositive, hroot, rest, -, hparameter, htake⟩ := exists_of_blockAt?_eq_some h
  refine ⟨?_, hparameter, fun c hc => ?_⟩
  · rw [hroot]
    exact exists_take_plainLength hpositive
  · rw [htake] at hc
    exact List.mem_takeWhile_imp hc

theorem proper_of_mem_blocksFrom {skipped : ℕ} {path : List Char} {block : Block}
    (h : block ∈ blocksFrom skipped path) : block.Proper := by
  induction path generalizing skipped with
  | nil => cases skipped <;> simp [blocksFrom] at h
  | cons c rest ih =>
      cases skipped with
      | succ skipped => exact ih h
      | zero =>
          rw [blocksFrom] at h
          split at h
          · next first hfirst =>
              rcases List.mem_cons.mp h with rfl | hrest
              · exact blockAt?_eq_some hfirst
              · exact ih hrest
          · exact ih h

end Path

/-! ## Parents of a collection path -/

/-- The templates of a parent: the instance path is the collection path, which ends in a plain
character, with a plain parameter. -/
structure Parent.Proper (parent : Parent) (parameter : List Char) : Prop where
  root_plain : ∃ front last, parent.rootPath.toList = front ++ [last] ∧
    Path.isSegmentCharacter last = true
  parameter_plain : ∀ c ∈ parameter, Path.isSegmentCharacter c = true
  instancePath : parent.instancePath.toList =
    parent.rootPath.toList ++ '/' :: '{' :: parameter ++ ['}']

/-! Neither of the templates ends in a slash. -/

theorem Parent.Proper.endsInSlash_rootPath {parent : Parent} {parameter : List Char}
    (h : parent.Proper parameter) : Path.endsInSlash parent.rootPath = false := by
  obtain ⟨front, last, hroot, hlast⟩ := h.root_plain
  have hother : last ≠ '/' := by
    rintro rfl
    simp [Path.isSegmentCharacter] at hlast
  simp [Path.endsInSlash, hroot, hother]

theorem Parent.Proper.endsInSlash_instancePath {parent : Parent} {parameter : List Char}
    (h : parent.Proper parameter) : Path.endsInSlash parent.instancePath = false := by
  have hbrace : parent.instancePath.toList =
      (parent.rootPath.toList ++ '/' :: '{' :: parameter) ++ ['}'] := by
    simp [h.instancePath]
  rw [Path.endsInSlash, hbrace, List.getLast?_concat]
  rfl

namespace Path

theorem exists_proper_of_mem_parentsOf {before : List Char} {blocks : List Block} {parent : Parent}
    (hblocks : ∀ block ∈ blocks, block.Proper) (h : parent ∈ parentsOf before blocks) :
    ∃ parameter, parent.Proper parameter := by
  induction blocks generalizing before with
  | nil => simp [parentsOf] at h
  | cons block rest ih =>
      rcases List.mem_cons.mp h with rfl | hrest
      · obtain ⟨⟨front, last, hroot, hlast⟩, -, hplain⟩ := hblocks block (List.mem_cons_self ..)
        refine ⟨block.parameter, ⟨before ++ front, last, ?_, hlast⟩, hplain, ?_⟩
        · simp [hroot]
        · simp [Block.text]
      · exact ih (fun other hother => hblocks other (List.mem_cons_of_mem _ hother)) hrest

theorem exists_proper_of_mem_parents {path : String} {parent : Parent}
    (h : parent ∈ parents path) : ∃ parameter, parent.Proper parameter :=
  exists_proper_of_mem_parentsOf (fun _ hblock => proper_of_mem_blocksFrom hblock) h

/-! ## The collection path that belongs to a parent -/

/-- Two texts that end in a plain parameter in braces agree in what stands before it. -/
theorem append_parameter_inj {left right first second : List Char}
    (hfirst : ∀ c ∈ first, isSegmentCharacter c = true)
    (hsecond : ∀ c ∈ second, isSegmentCharacter c = true)
    (h : left ++ '{' :: first ++ ['}'] = right ++ '{' :: second ++ ['}']) : left = right := by
  have hreverse :
      first.reverse ++ '{' :: left.reverse = second.reverse ++ '{' :: right.reverse := by
    simpa using congrArg List.reverse h
  have hdrop := congrArg (List.dropWhile isSegmentCharacter) hreverse
  rw [List.dropWhile_append_of_pos (by simpa using hfirst),
    List.dropWhile_append_of_pos (by simpa using hsecond)] at hdrop
  simpa [isSegmentCharacter] using hdrop

/-- An instance path that is the one of a parent, up to slashes at the end, has the collection path
of the parent as its root. -/
theorem root_eq_of_trimSlashes_eq {path : String} {parent : Parent} {parameter : List Char}
    {parts : InstanceParts} (hparent : parent.Proper parameter)
    (hparts : instanceParts? path.toList = some parts)
    (h : trimSlashes path = trimSlashes parent.instancePath) :
    parts.root = parent.rootPath.toList ++ ['/'] := by
  obtain ⟨hproper, htext⟩ := instanceParts?_eq_some_iff.mp hparts
  have hright : withoutSlashes parent.instancePath.toList = parent.instancePath.toList := by
    simp [hparent.instancePath, withoutSlashes]
  have hplain := congrArg String.toList h
  rw [trimSlashes, trimSlashes, String.toList_ofList, String.toList_ofList, hright, htext] at hplain
  have htail : parts.tail = [] ∨ parts.tail = ['/'] := by
    have hmem := hproper.tail_mem
    simp only [instanceTails, List.mem_cons, List.not_mem_nil, or_false] at hmem
    rcases hmem with htail | htail | htail | htail
    · exact Or.inl htail
    · exact Or.inr htail
    -- a line feed at the end would stay, but the path of the parent ends in a brace
    all_goals
      rw [hparent.instancePath] at hplain
      have hreverse := congrArg List.reverse hplain
      simp [withoutSlashes, InstanceParts.text, htail] at hreverse
  rw [withoutSlashes_text htail, hparent.instancePath, InstanceParts.text] at hplain
  exact append_parameter_inj hproper.parameter_plain hparent.parameter_plain
    (by simpa using hplain)

/-- **Where the collection of a parent is found.**  For an instance path that is the one of a
parent, the collection path is the one of the parent with a slash if this is declared, and without
it otherwise. -/
theorem findRoot_of_mem_parents {declared : String → Bool} {path nested rootPath : String}
    {parent : Parent} (hparent : parent ∈ parents nested)
    (hpath : trimSlashes path = trimSlashes parent.instancePath)
    (h : findRoot declared path = .ok rootPath) :
    rootPath = parent.rootPath ++ "/" ∨
      declared (parent.rootPath ++ "/") = false ∧ rootPath = parent.rootPath := by
  obtain ⟨parameter, hproper⟩ := exists_proper_of_mem_parents hparent
  obtain ⟨-, root, hroot, hcases⟩ := findRoot_eq_ok h
  obtain ⟨⟨parts, hparts, rfl⟩, -, -⟩ := rootOf_eq_ok hroot
  have hslash : String.ofList parts.root = parent.rootPath ++ "/" := by
    rw [root_eq_of_trimSlashes_eq hproper hparts hpath, ← String.toList_inj]
    simp
  rw [hslash, trimSlashes_append hproper.endsInSlash_rootPath] at hcases
  exact hcases

end Path

end ResourceGraph
