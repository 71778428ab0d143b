import ResourceGraph.Proofs.InstancePath
import ResourceGraph.Proofs.PatternLanguage

/-!
# The pattern of instance paths

An instance path can also be told by a pattern: a root of any characters but line feeds up to a
slash, a parameter in braces, perhaps a slash, and the end of the text.  The root of the pattern
takes as many characters as it can and gives them back one by one, and its end passes over a line
feed.  Reading the path from its end comes to the same (`marks_instancePattern`), because the
parts that the pattern leads past make up an instance path and there is only one way to make it
up.

* **Decomposition.**  `InstanceParts.Splits` says that parts make up a path; they are the only
  ones (`InstanceParts.Splits.unique`).
* **Roots.**  The root of a decomposition is refused or returned for what it is
  (`InstanceParts.Splits.rootOf_eq`), and then looked up with its slash and without
  (`findRoot_of_rootOf_eq_ok`).
-/

namespace ResourceGraph.Path

open Pattern

/-! ## Decompositions -/

/-- Parts that make up a path. -/
structure InstanceParts.Splits (parts : InstanceParts) (path : String) : Prop where
  proper : parts.Proper
  text_eq : path.toList = parts.text

variable {path root rootPath : String} {parts other : InstanceParts} {declared : String → Bool}

theorem instanceParts?_eq_some_iff_splits :
    instanceParts? path.toList = some parts ↔ parts.Splits path := by
  rw [instanceParts?_eq_some_iff]
  exact ⟨fun h => ⟨h.1, h.2⟩, fun h => ⟨h.proper, h.text_eq⟩⟩

theorem isInstance_iff_splits :
    isInstance path = true ↔ ∃ parts : InstanceParts, parts.Splits path := by
  simp only [isInstance, Option.isSome_iff_exists, instanceParts?_eq_some_iff_splits]

/-- A path is made up in one way only. -/
theorem InstanceParts.Splits.unique (h : parts.Splits path) (hother : other.Splits path) :
    parts = other := by
  have hparts := instanceParts?_eq_some_iff_splits.mpr h
  rw [instanceParts?_eq_some_iff_splits.mpr hother] at hparts
  exact (Option.some.inj hparts).symm

/-! ## The pattern -/

/-- Any characters but line feeds, and a slash. -/
def rootPattern : Pattern := row [many (one (· != '\n')), only '/']

/-- A parameter in braces, and perhaps a slash. -/
def parameterPattern : Pattern :=
  row [only '{', atLeastOne (one isSegmentCharacter), only '}', optional (only '/')]

/-- The pattern of instance paths, whose root is marked. -/
def instancePattern : Pattern := row [marked rootPattern, parameterPattern, textEnd]

/-- The roots that the pattern leads past. -/
def roots : Language Char := {text | (∃ front, text = front ++ ['/']) ∧ '\n' ∉ text}

/-- The parameters that the pattern leads past, with their braces. -/
def bracedParameters : Language Char :=
  {text | ∃ parameter slash, text = '{' :: parameter ++ '}' :: slash ∧ parameter ≠ [] ∧
    (∀ c ∈ parameter, isSegmentCharacter c = true) ∧ (slash = [] ∨ slash = ['/'])}

open scoped Computability in
theorem spells_rootPattern : rootPattern.Spells roots := by
  have hlanguage : roots = (singles (· != '\n'))∗ * {['/']} := by
    ext text
    rw [Language.mem_mul]
    simp only [mem_singles_kstar]
    constructor
    · rintro ⟨⟨front, rfl⟩, hfeed⟩
      refine ⟨front, fun c hc => ?_, ['/'], rfl, rfl⟩
      rw [bne_iff_ne]
      rintro rfl
      exact hfeed (List.mem_append_left _ hc)
    · rintro ⟨front, hfront, _, rfl, rfl⟩
      refine ⟨⟨front, rfl⟩, fun hfeed => ?_⟩
      rcases List.mem_append.mp hfeed with hfeed | hfeed
      · simpa using hfront _ hfeed
      · simp at hfeed
  rw [hlanguage]
  exact (spells_one _).many.chain (spells_only '/')

theorem spells_parameterPattern : parameterPattern.Spells bracedParameters := by
  have hlanguage : bracedParameters = {['{']} * (singles isSegmentCharacter *
      KStar.kstar (singles isSegmentCharacter) * ({['}']} * ({['/']} + 1))) := by
    ext text
    constructor
    · rintro ⟨parameter, slash, rfl, hne, hplain, hslash⟩
      refine Language.append_mem_mul (a := ['{']) rfl (Language.append_mem_mul
        (mem_singles_mul_kstar.mpr ⟨hne, hplain⟩) (Language.append_mem_mul (a := ['}']) rfl ?_))
      exact hslash.symm
    · intro htext
      obtain ⟨_, rfl, _, hopened, rfl⟩ := Language.mem_mul.mp htext
      obtain ⟨parameter, hparameter, _, hclosed, rfl⟩ := Language.mem_mul.mp hopened
      obtain ⟨_, rfl, slash, hslash, rfl⟩ := Language.mem_mul.mp hclosed
      obtain ⟨hne, hplain⟩ := mem_singles_mul_kstar.mp hparameter
      exact ⟨parameter, slash, rfl, hne, hplain, hslash.symm⟩
  rw [hlanguage]
  exact (spells_only '{').chain ((spells_one _).atLeastOne.chain
    ((spells_only '}').chain (spells_only '/').optional))

/-- The pattern leads past parts of the path, and marks their root. -/
theorem exists_splits_of_takes {stop : Place}
    (h : instancePattern.Takes (Place.start path.toList) stop) :
    ∃ parts : InstanceParts, parts.Splits path ∧ stop.marks = [⟨0, parts.root.length⟩] := by
  obtain ⟨middle, ⟨unmarked, hroot, hmarked⟩, behind, hparameter, hend⟩ := h
  obtain ⟨root, ⟨⟨front, hfront⟩, hfeed⟩, hrest, hunmarked⟩ := (spells_rootPattern _ _).mp hroot
  obtain ⟨_, ⟨parameter, slash, rfl, hne, hplain, hslash⟩, hafter, hbehind⟩ :=
    (spells_parameterPattern _ _).mp hparameter
  obtain ⟨hfinal, hstop⟩ := takes_textEnd_iff.mp hend
  rw [hmarked, Place.rest_mark] at hafter
  refine ⟨⟨root, parameter, slash ++ behind.rest⟩,
    ⟨⟨⟨front, hfront⟩, hfeed, hne, hplain, ?_⟩, ?_⟩, ?_⟩
  · rcases hslash with rfl | rfl <;> rcases hfinal with hfinal | hfinal <;>
      simp [hfinal, instanceTails]
  · show (Place.start path.toList).rest = _
    rw [hrest, hafter, InstanceParts.text]
    simp
  · have hposition : unmarked.position = root.length := by
      rw [hunmarked]
      exact Nat.zero_add _
    have hlt : 0 < unmarked.position := by
      rw [hposition, hfront, List.length_append]
      exact Nat.succ_pos _
    calc stop.marks = (unmarked.mark 0).marks := by rw [hstop, hbehind, hmarked]; rfl
      _ = ⟨0, unmarked.position⟩ :: unmarked.marks := Place.marks_mark hlt
      _ = [⟨0, root.length⟩] := by rw [hposition, hunmarked]; rfl

/-- The pattern leads somewhere if the path is made up of parts. -/
theorem InstanceParts.Splits.exists_takes (h : parts.Splits path) :
    ∃ stop, instancePattern.Takes (Place.start path.toList) stop := by
  obtain ⟨slash, final, htail, hslash, hfinal⟩ : ∃ slash final, parts.tail = slash ++ final ∧
      (slash = [] ∨ slash = ['/']) ∧ (final = [] ∨ final = ['\n']) := by
    have hmem := h.proper.tail_mem
    simp only [instanceTails, List.mem_cons, List.not_mem_nil, or_false] at hmem
    rcases hmem with hmem | hmem | hmem | hmem
    · exact ⟨[], [], hmem, Or.inl rfl, Or.inl rfl⟩
    · exact ⟨['/'], [], hmem, Or.inr rfl, Or.inl rfl⟩
    · exact ⟨[], ['\n'], hmem, Or.inl rfl, Or.inr rfl⟩
    · exact ⟨['/'], ['\n'], hmem, Or.inr rfl, Or.inr rfl⟩
  have hparameter : '{' :: parts.parameter ++ '}' :: slash ∈ bracedParameters :=
    ⟨parts.parameter, slash, rfl, h.proper.parameter_ne_nil, h.proper.parameter_plain, hslash⟩
  generalize htext : '{' :: parts.parameter ++ '}' :: slash = text at hparameter
  have hpath : (Place.start path.toList).rest = parts.root ++ (text ++ final) := by
    show path.toList = _
    rw [h.text_eq, InstanceParts.text, htail, ← htext]
    simp
  have hunmarked := Place.rest_past hpath
  obtain ⟨middle, hmiddle⟩ : ∃ middle,
      middle = ((Place.start path.toList).past parts.root).mark
        (Place.start path.toList).position :=
    ⟨_, rfl⟩
  have hrest : middle.rest = text ++ final := by rw [hmiddle, Place.rest_mark, hunmarked]
  have hbehind := Place.rest_past hrest
  refine ⟨_, middle, ⟨_, (spells_rootPattern _ _).mpr ⟨parts.root,
      ⟨h.proper.root_slash, h.proper.root_feed⟩, ?_, rfl⟩, hmiddle⟩,
    middle.past text, (spells_parameterPattern _ _).mpr ⟨text, hparameter, ?_, rfl⟩,
    takes_textEnd_iff.mpr ⟨?_, rfl⟩⟩
  · rw [hunmarked]
    exact hpath
  · rw [hbehind, hrest]
  · rwa [hbehind]

/-- **The pattern finds what reading from the end finds**: it fits the same paths, and it marks the
root that they are split into. -/
theorem marks_instancePattern (path : String) :
    (instancePattern.end? (Place.start path.toList)).map Place.marks =
      (instanceParts? path.toList).map fun parts => [⟨0, parts.root.length⟩] := by
  cases hparts : instanceParts? path.toList with
  | none =>
      have hnone : ¬ (instancePattern.end? (Place.start path.toList)).isSome := by
        rw [isSome_end?_iff]
        rintro ⟨stop, hstop⟩
        obtain ⟨parts, hsplits, -⟩ := exists_splits_of_takes hstop
        rw [instanceParts?_eq_some_iff_splits.mpr hsplits] at hparts
        cases hparts
      rw [Option.not_isSome_iff_eq_none.mp hnone]
      rfl
  | some parts =>
      have hsplits := instanceParts?_eq_some_iff_splits.mp hparts
      have hsome : (instancePattern.end? (Place.start path.toList)).isSome :=
        isSome_end?_iff.mpr hsplits.exists_takes
      obtain ⟨stop, hstop⟩ := Option.isSome_iff_exists.mp hsome
      obtain ⟨found, hfound, hmarks⟩ := exists_splits_of_takes (takes_of_end?_eq_some hstop)
      rw [hstop, Option.map_some, hmarks, hfound.unique hsplits]
      rfl

/-! ## Roots and collection paths -/

/-- A root that names no collection: nothing but a slash, or an instance path once its slashes are
taken off. -/
def NamesNothing (root : String) : Prop := root = "/" ∨ isInstance (trimSlashes root) = true

instance (root : String) : Decidable (NamesNothing root) := inferInstanceAs (Decidable (_ ∨ _))

theorem rootOf_of_not_splits (h : ¬ ∃ parts : InstanceParts, parts.Splits path) :
    rootOf path = .error ⟨path, .notInstancePath⟩ := by
  have hnone : instanceParts? path.toList = none := by
    rw [← Option.not_isSome_iff_eq_none]
    intro hsome
    exact h (isInstance_iff_splits.mp hsome)
  rw [rootOf, hnone]

/-- The root of a decomposition is returned unless it names nothing. -/
theorem InstanceParts.Splits.rootOf_eq (h : parts.Splits path) :
    rootOf path = if NamesNothing (String.ofList parts.root) then
        .error ⟨path, .ambiguousRootPath (String.ofList parts.root)⟩
      else .ok (String.ofList parts.root) := by
  unfold rootOf
  rw [instanceParts?_eq_some_iff_splits.mpr h]
  by_cases hroot : NamesNothing (String.ofList parts.root)
  · rw [if_pos hroot]
    refine if_pos ?_
    rw [Bool.or_eq_true, beq_iff_eq]
    exact hroot
  · rw [if_neg hroot]
    refine if_neg ?_
    rw [Bool.or_eq_true, beq_iff_eq]
    exact hroot

/-- A root is looked up with its slash, and then without. -/
theorem findRoot_of_rootOf_eq_ok (h : rootOf path = .ok root) :
    findRoot declared path = if declared root then .ok root
      else if declared (trimSlashes root) then .ok (trimSlashes root)
      else .error ⟨path, .noMatchingRootPath⟩ := by
  rw [findRoot, h]
  rfl

theorem findRoot_of_rootOf_eq_error {rejection : Rejection} (h : rootOf path = .error rejection) :
    findRoot declared path = .error rejection := by
  rw [findRoot, h]
  rfl

theorem trimSlashes_idem (path : String) : trimSlashes (trimSlashes path) = trimSlashes path := by
  unfold trimSlashes
  rw [String.toList_ofList, withoutSlashes_idem]

/-- A collection path that is found is no instance path once its slashes are taken off either. -/
theorem isInstance_trimSlashes_findRoot (h : findRoot declared path = .ok rootPath) :
    isInstance (trimSlashes rootPath) = false := by
  obtain ⟨-, root, hroot, rfl | ⟨-, rfl⟩⟩ := findRoot_eq_ok h
  · exact (rootOf_eq_ok hroot).2.2
  · rw [trimSlashes_idem]
    exact (rootOf_eq_ok hroot).2.2

/-- **The grammar of instance paths.**

* A path is one of an instance exactly if it is made up of a root that ends in a slash, a
  parameter in braces and a tail; it is made up in one way only, and the pattern of instance paths
  fits the same paths and marks their root.
* The root is returned unless it names nothing, that is, unless it is a mere slash or an instance
  path but for its slashes.  A path that is not made up like this has none.
* The collection path is the root with its slash if this is declared, else the root without
  slashes if this is declared, and else there is none.  Without a root there is none either.
* A collection path that is found is not an instance path, neither as it is nor without slashes. -/
theorem instance_grammar (path : String) :
    (isInstance path = true ↔ ∃ parts : InstanceParts, parts.Splits path) ∧
    (∀ parts other : InstanceParts, parts.Splits path → other.Splits path → parts = other) ∧
    instancePattern.fits path.toList = isInstance path ∧
    ((¬ ∃ parts : InstanceParts, parts.Splits path) →
      rootOf path = .error ⟨path, .notInstancePath⟩) ∧
    (∀ (declared : String → Bool) (rejection : Rejection), rootOf path = .error rejection →
      findRoot declared path = .error rejection) ∧
    (∀ parts : InstanceParts, parts.Splits path → ∀ root, root = String.ofList parts.root →
      (instancePattern.end? (Place.start path.toList)).map Place.marks =
        some [⟨0, root.toList.length⟩] ∧
      (NamesNothing root → rootOf path = .error ⟨path, .ambiguousRootPath root⟩) ∧
      (¬ NamesNothing root → rootOf path = .ok root ∧ ∀ declared : String → Bool,
        (declared root = true → findRoot declared path = .ok root) ∧
        (declared root = false → declared (trimSlashes root) = true →
          findRoot declared path = .ok (trimSlashes root)) ∧
        (declared root = false → declared (trimSlashes root) = false →
          findRoot declared path = .error ⟨path, .noMatchingRootPath⟩))) ∧
    ∀ (declared : String → Bool) (rootPath : String), findRoot declared path = .ok rootPath →
      isInstance rootPath = false ∧ isInstance (trimSlashes rootPath) = false := by
  refine ⟨isInstance_iff_splits, fun parts other h hother => h.unique hother, ?_,
    rootOf_of_not_splits, fun declared rejection h => findRoot_of_rootOf_eq_error h, ?_,
    fun declared rootPath h => ⟨isInstance_findRoot h, isInstance_trimSlashes_findRoot h⟩⟩
  · have hmarks := congrArg Option.isSome (marks_instancePattern path)
    rwa [Option.isSome_map, Option.isSome_map] at hmarks
  · rintro parts h root rfl
    have hroot := h.rootOf_eq
    refine ⟨?_, fun hnothing => by rw [hroot, if_pos hnothing], fun hnamed => ?_⟩
    · rw [marks_instancePattern, instanceParts?_eq_some_iff_splits.mpr h, Option.map_some,
        String.toList_ofList]
    · rw [if_neg hnamed] at hroot
      refine ⟨hroot, fun declared => ?_⟩
      rw [findRoot_of_rootOf_eq_ok hroot]
      refine ⟨fun hslash => if_pos hslash, fun hslash htrimmed => ?_, fun hslash htrimmed => ?_⟩
      · rw [hslash, htrimmed]
        rfl
      · rw [hslash, htrimmed]
        rfl

end ResourceGraph.Path

/-! ## A lantern and its lamps -/

namespace ResourceGraph.Sample

open ResourceGraph.Path

/-- The path of one lantern, with a slash and a line feed behind it. -/
def lanternPath : String := "/v1/lanterns/{id}/\n"

theorem lanternPath_splits :
    InstanceParts.Splits ⟨"/v1/lanterns/".toList, "id".toList, ['/', '\n']⟩ lanternPath :=
  instanceParts?_eq_some_iff_splits.mp (by decide +kernel)

/-- Lanterns are found under their path without slash, and this is no instance path.  Two parameters
in a row leave no root. -/
theorem lanterns_grammar :
    lanternPath ≠ "/v1/lanterns" ∧
      findRoot (· == "/v1/lanterns") lanternPath = .ok "/v1/lanterns" ∧
      isInstance "/v1/lanterns" = false ∧
      rootOf "/v1/lanterns/{lantern}/{id}" = .error ⟨"/v1/lanterns/{lantern}/{id}",
        .ambiguousRootPath "/v1/lanterns/{lantern}/"⟩ := by
  obtain ⟨-, -, -, -, -, hparts, hfound⟩ := instance_grammar lanternPath
  obtain ⟨-, -, hnamed⟩ := hparts _ lanternPath_splits "/v1/lanterns/" (by decide +kernel)
  obtain ⟨-, hdeclared⟩ := hnamed (by decide +kernel)
  have hroot := (hdeclared (· == "/v1/lanterns")).2.1 (by decide +kernel) (by decide +kernel)
  have htrimmed : trimSlashes "/v1/lanterns/" = "/v1/lanterns" := by decide +kernel
  rw [htrimmed] at hroot
  obtain ⟨-, -, -, -, -, hlamps, -⟩ := instance_grammar "/v1/lanterns/{lantern}/{id}"
  have hsplits : InstanceParts.Splits ⟨"/v1/lanterns/{lantern}/".toList, "id".toList, []⟩
      "/v1/lanterns/{lantern}/{id}" :=
    instanceParts?_eq_some_iff_splits.mp (by decide +kernel)
  obtain ⟨-, hambiguous, -⟩ := hlamps _ hsplits "/v1/lanterns/{lantern}/" (by decide +kernel)
  exact ⟨by decide +kernel, hroot, (hfound _ _ hroot).1, hambiguous (by decide +kernel)⟩

end ResourceGraph.Sample
