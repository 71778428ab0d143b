import ResourceGraph.Proofs.Order.Shuffled
import ResourceGraph.Proofs.ParentName

/-!
# A slash at the end of a path

A slash at the end of a path is read by four grammars, and none of them makes a difference of it.
The grammar of instance paths passes it over, so the root in front of the parameter stays the same
(`map_root_instanceParts?_slashed`).  A block of the grammar of parents ends in a brace, so no block
is found or lost (`parents_slashed`).  The last segment of a name is looked for among those that are
not empty (`resourceName_slashed`).  And the templates of parents never end in a slash themselves.
-/

namespace ResourceGraph

/-- Two rejections are reported under the same name. -/
def Rejection.SameKind (rejection other : Rejection) : Prop := other.kind = rejection.kind

namespace Path

/-- A path with a slash at its end if this is wanted and there is none yet. -/
def slashed (wanted : String → Bool) (path : String) : String :=
  if wanted path && !endsInSlash path then path ++ "/" else path

theorem slashed_eq (wanted : String → Bool) (path : String) :
    slashed wanted path = path ∨
      endsInSlash path = false ∧ slashed wanted path = path ++ "/" := by
  unfold slashed
  split
  · next hwanted => exact Or.inr ⟨by simpa using (Bool.and_eq_true_iff.mp hwanted).2, rfl⟩
  · exact Or.inl rfl

theorem slashed_append (wanted : String → Bool) (path : String) :
    slashed wanted (path ++ "/") = path ++ "/" := by
  rcases slashed_eq wanted (path ++ "/") with hsame | ⟨hslash, -⟩
  · exact hsame
  · rw [endsInSlash_append] at hslash
    cases hslash

/-! ## Instance paths -/

/-- The tail stands after a closing brace. -/
theorem InstanceParts.text_eq_append (parts : InstanceParts) :
    parts.text = (parts.root ++ '{' :: parts.parameter) ++ ['}'] ++ parts.tail := by
  simp [InstanceParts.text]

/-- The root of an instance path stays the same when a slash is put at the end. -/
theorem map_root_instanceParts?_append {path : String} (hslash : endsInSlash path = false)
    (hfeed : '\n' ∉ path.toList) :
    (instanceParts? (path ++ "/").toList).map InstanceParts.root =
      (instanceParts? path.toList).map InstanceParts.root := by
  have hpath : (path ++ "/").toList = path.toList ++ ['/'] := String.toList_append
  ext root
  simp only [Option.map_eq_some_iff, instanceParts?_eq_some_iff, hpath]
  constructor
  · rintro ⟨parts, ⟨hparts, htext⟩, rfl⟩
    refine ⟨{ parts with tail := [] }, ⟨hparts.withTail (by simp [instanceTails]), ?_⟩, rfl⟩
    have hcases := hparts.tail_eq (by simpa [← htext] using hfeed)
    rw [InstanceParts.text_eq_append] at htext ⊢
    rcases hcases with htail | htail
    · -- without a tail the path would end in a brace
      rw [htail, List.append_nil] at htext
      cases (List.append_inj' htext rfl).2
    · rw [htail] at htext
      rw [List.append_nil]
      exact (List.append_inj' htext rfl).1
  · rintro ⟨parts, ⟨hparts, htext⟩, rfl⟩
    refine ⟨{ parts with tail := ['/'] }, ⟨hparts.withTail (by simp [instanceTails]), ?_⟩, rfl⟩
    have hcases := hparts.tail_eq (htext ▸ hfeed)
    rw [InstanceParts.text_eq_append] at htext ⊢
    rcases hcases with htail | htail
    · rw [htext, htail, List.append_nil]
    · rw [endsInSlash, htext, htail, List.getLast?_concat] at hslash
      cases hslash

theorem map_root_instanceParts?_slashed (wanted : String → Bool) {path : String}
    (hfeed : '\n' ∉ path.toList) :
    (instanceParts? (slashed wanted path).toList).map InstanceParts.root =
      (instanceParts? path.toList).map InstanceParts.root := by
  rcases slashed_eq wanted path with hsame | ⟨hslash, hmoved⟩
  · rw [hsame]
  · rw [hmoved]
    exact map_root_instanceParts?_append hslash hfeed

theorem isInstance_slashed (wanted : String → Bool) {path : String} (hfeed : '\n' ∉ path.toList) :
    isInstance (slashed wanted path) = isInstance path := by
  have hroot := congrArg Option.isSome (map_root_instanceParts?_slashed wanted hfeed)
  rw [Option.isSome_map, Option.isSome_map] at hroot
  exact hroot

/-! ## Roots -/

theorem rootOf_slashed (wanted : String → Bool) {path : String} (hfeed : '\n' ∉ path.toList) :
    Matches Rejection.SameKind (· = ·) (rootOf path) (rootOf (slashed wanted path)) := by
  have hroot := map_root_instanceParts?_slashed wanted hfeed
  unfold rootOf
  generalize instanceParts? path.toList = parts at hroot ⊢
  generalize instanceParts? (slashed wanted path).toList = other at hroot ⊢
  cases parts with
  | none =>
      obtain rfl := Option.map_eq_none_iff.mp hroot
      exact .error rfl
  | some parts =>
      obtain ⟨other, rfl, hsame⟩ := Option.map_eq_some_iff.mp hroot
      simp only [hsame]
      split
      · exact .error rfl
      · exact .ok rfl

/-- The root of an instance path without doubled slashes is a path with one slash after it. -/
theorem exists_stem_of_rootOf_eq_ok {path root : String} (h : rootOf path = .ok root)
    (hdouble : ¬ ['/', '/'] <:+: path.toList) :
    ∃ stem, root = stem ++ "/" ∧ endsInSlash stem = false := by
  obtain ⟨⟨parts, hparts, rfl⟩, -, -⟩ := rootOf_eq_ok h
  obtain ⟨hproper, htext⟩ := instanceParts?_eq_some_iff.mp hparts
  obtain ⟨front, hfront⟩ := hproper.root_slash
  refine ⟨String.ofList front, by rw [← String.toList_inj]; simp [hfront], ?_⟩
  rw [Bool.eq_false_iff]
  intro hslash
  obtain ⟨before, hbefore⟩ := List.getLast?_eq_some_iff.mp (by simpa [endsInSlash] using hslash)
  refine hdouble ⟨before, '{' :: parts.parameter ++ '}' :: parts.tail, ?_⟩
  rw [htext, InstanceParts.text, hfront, hbefore]
  simp

/-! ## Parents -/

/-- A block is read where its text stands in front, and only there. -/
theorem blockAt?_eq_some_iff {path : List Char} {block : Block} :
    blockAt? path = some block ↔ block.Stable ∧ ∃ rest, path = block.text ++ rest := by
  constructor
  · intro h
    refine ⟨stable_of_blockAt? h, ?_⟩
    obtain ⟨hslash, -, hroot, rest, hdrop, -, hparameter⟩ := exists_of_blockAt?_eq_some h
    rw [blockAt?, if_pos hslash] at h
    simp only [hdrop] at h
    split at h
    · cases h
    next hcondition =>
    simp only [Bool.or_eq_true, not_or, bne_iff_ne, ne_eq, not_not] at hcondition
    obtain ⟨further, hfurther⟩ := List.head?_eq_some_iff.mp hcondition.2
    refine ⟨further, ?_⟩
    calc path = path.take (plainLength path) ++ path.drop (plainLength path) :=
          (List.take_append_drop _ _).symm
      _ = block.root ++ '/' :: '{' :: (rest.takeWhile isSegmentCharacter ++
            rest.dropWhile isSegmentCharacter) := by
          rw [hdrop, ← hroot, List.takeWhile_append_dropWhile]
      _ = block.text ++ further := by simp [Block.text, hparameter, hfurther]
  · rintro ⟨hstable, rest, rfl⟩
    exact hstable rest

theorem blockAt?_append_slash (path : List Char) : blockAt? (path ++ ['/']) = blockAt? path := by
  ext block
  rw [blockAt?_eq_some_iff, blockAt?_eq_some_iff]
  refine and_congr_right fun _ => ⟨?_, ?_⟩
  · rintro ⟨rest, hpath⟩
    rcases List.eq_nil_or_concat' rest with rfl | ⟨front, last, rfl⟩
    · -- a block ends in a brace
      rw [List.append_nil, Block.text] at hpath
      cases (List.append_inj' hpath rfl).2
    · rw [← List.append_assoc] at hpath
      exact ⟨front, (List.append_inj' hpath rfl).1⟩
  · rintro ⟨rest, rfl⟩
    exact ⟨rest ++ ['/'], List.append_assoc ..⟩

theorem blocksFrom_append_slash (skipped : ℕ) (path : List Char) :
    blocksFrom skipped (path ++ ['/']) = blocksFrom skipped path := by
  induction path generalizing skipped with
  | nil =>
      cases skipped with
      | zero => exact blocksFrom_eq_nil (by simp)
      | succ skipped => cases skipped <;> rfl
  | cons c rest ih =>
      cases skipped with
      | succ skipped => exact ih skipped
      | zero =>
          have hblock := blockAt?_append_slash (c :: rest)
          rw [List.cons_append] at hblock ⊢
          rw [blocksFrom, blocksFrom, hblock]
          cases blockAt? (c :: rest) with
          | none => exact ih 0
          | some block => simp only [ih]

/-- A collection path has the same parents with a slash at its end. -/
theorem parents_append_slash (path : String) : parents (path ++ "/") = parents path := by
  have hpath : (path ++ "/").toList = path.toList ++ ['/'] := String.toList_append
  rw [parents, parents, hpath, blocksFrom_append_slash]

theorem parents_slashed (wanted : String → Bool) (path : String) :
    parents (slashed wanted path) = parents path := by
  rcases slashed_eq wanted path with hsame | ⟨-, hmoved⟩
  · rw [hsame]
  · rw [hmoved, parents_append_slash]

theorem resourceName_slashed (wanted : String → Bool) (path : String)
    (preferred : Option String) :
    resourceName (slashed wanted path) preferred = resourceName path preferred := by
  rcases slashed_eq wanted path with hsame | ⟨-, hmoved⟩
  · rw [hsame]
  · rw [hmoved, resourceName_append_slash]

end Path

end ResourceGraph
