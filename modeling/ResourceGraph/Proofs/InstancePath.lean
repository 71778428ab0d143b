import ResourceGraph.Path.Instance
import ResourceGraph.Proofs.Except

/-!
# The grammar of instance paths

`instanceParts?` accepts a path exactly when it is a root that ends in a slash, a parameter in
braces, and a tail that is at most a slash and a line feed.  The parts it returns are those of the
only such decomposition, because it reads the path from its end and every step is forced.

The root of an instance path is refused when it is an instance path itself.  This leaves the root
with its slash and the root without slashes as the two places where a collection may be declared,
and neither of them is an instance path (`isInstance_findRoot`).
-/

namespace ResourceGraph.Path

/-- The characters of the path that some parts make up. -/
def InstanceParts.text (parts : InstanceParts) : List Char :=
  parts.root ++ '{' :: parts.parameter ++ '}' :: parts.tail

/-- The tails that an instance path may have. -/
def instanceTails : List (List Char) := [[], ['/'], ['\n'], ['/', '\n']]

/-- Parts that make up an instance path. -/
structure InstanceParts.Proper (parts : InstanceParts) : Prop where
  root_slash : ∃ front, parts.root = front ++ ['/']
  root_feed : '\n' ∉ parts.root
  parameter_ne_nil : parts.parameter ≠ []
  parameter_plain : ∀ c ∈ parts.parameter, isSegmentCharacter c = true
  tail_mem : parts.tail ∈ instanceTails

/-- Whether a path ends in a slash. -/
def endsInSlash (path : String) : Bool := path.toList.getLast? == some '/'

theorem endsInSlash_append (path : String) : endsInSlash (path ++ "/") = true := by
  simp [endsInSlash]

/-! ## Splitting a path from its end -/

theorem splitLast_append (last : Char) (reversed : List Char) :
    (splitLast last reversed).1 ++ (splitLast last reversed).2 = reversed := by
  unfold splitLast
  split
  · rfl
  · split <;> simp

theorem splitLast_fst (last : Char) (reversed : List Char) :
    (splitLast last reversed).1 = [] ∨ (splitLast last reversed).1 = [last] := by
  unfold splitLast
  split
  · exact Or.inl rfl
  · split
    · next heq => exact Or.inr (by rw [heq])
    · exact Or.inl rfl

/-- What `splitParameter?` reads before a tail is a proper root and parameter. -/
theorem splitParameter?_eq_some {tail reversed : List Char} {parts : InstanceParts}
    (h : splitParameter? tail reversed = some parts) :
    (∃ front, parts.root = front ++ ['/']) ∧ '\n' ∉ parts.root ∧ parts.parameter ≠ [] ∧
      (∀ c ∈ parts.parameter, isSegmentCharacter c = true) ∧ parts.tail = tail ∧
      reversed.reverse = parts.root ++ '{' :: parts.parameter ++ ['}'] := by
  unfold splitParameter? at h
  split at h
  · next rest =>
      simp only at h
      split at h
      · next root hdrop =>
          split at h
          · simp at h
          · next hnot =>
              simp only [Bool.or_eq_true, List.isEmpty_iff, List.contains_iff_mem,
                not_or] at hnot
              have hrest : rest.takeWhile isSegmentCharacter ++ '{' :: '/' :: root = rest := by
                rw [← hdrop]
                exact List.takeWhile_append_dropWhile
              rw [Option.some.injEq] at h
              subst h
              refine ⟨⟨root.reverse, by simp⟩, by simpa using hnot.2, by simpa using hnot.1, ?_,
                rfl, ?_⟩
              · intro c hc
                exact List.mem_takeWhile_imp (List.mem_reverse.mp hc)
              · calc ('}' :: rest).reverse
                    = (rest.takeWhile isSegmentCharacter ++ '{' :: '/' :: root).reverse ++
                        ['}'] := by rw [hrest, List.reverse_cons]
                  _ = _ := by simp
      · simp at h
  · simp at h

theorem splitParameter?_of_proper {parts : InstanceParts} (hparts : parts.Proper)
    (tail : List Char) :
    splitParameter? tail (parts.root ++ '{' :: parts.parameter ++ ['}']).reverse =
      some { parts with tail := tail } := by
  obtain ⟨front, hroot⟩ := hparts.root_slash
  have hplain : ∀ c ∈ parts.parameter.reverse, isSegmentCharacter c = true :=
    fun c hc => hparts.parameter_plain c (List.mem_reverse.mp hc)
  have hreverse : (parts.root ++ '{' :: parts.parameter ++ ['}']).reverse =
      '}' :: (parts.parameter.reverse ++ '{' :: '/' :: front.reverse) := by
    simp [hroot]
  have htake : (parts.parameter.reverse ++ '{' :: '/' :: front.reverse).takeWhile
      isSegmentCharacter = parts.parameter.reverse := by
    rw [List.takeWhile_append_of_pos hplain]
    simp [isSegmentCharacter]
  have hdrop : (parts.parameter.reverse ++ '{' :: '/' :: front.reverse).dropWhile
      isSegmentCharacter = '{' :: '/' :: front.reverse := by
    rw [List.dropWhile_append_of_pos hplain]
    simp [isSegmentCharacter]
  have hfeed : '\n' ∉ front := fun hmem => hparts.root_feed (by simp [hroot, hmem])
  simp only [hreverse, splitParameter?, htake, hdrop]
  rw [if_neg (by simpa [hfeed] using hparts.parameter_ne_nil)]
  simp [hroot]

/-! ## The grammar -/

/-- **A path is accepted exactly when it has the form of an instance path**, and the parts are
those of its only decomposition. -/
theorem instanceParts?_eq_some_iff {path : List Char} {parts : InstanceParts} :
    instanceParts? path = some parts ↔ parts.Proper ∧ path = parts.text := by
  constructor
  · intro h
    unfold instanceParts? at h
    simp only at h
    obtain ⟨hslash, hfeed, hne, hplain, htail, hreverse⟩ := splitParameter?_eq_some h
    have hpath := splitLast_append '\n' path.reverse
    rw [← splitLast_append '/' (splitLast '\n' path.reverse).2] at hpath
    have htails : parts.tail ∈ instanceTails := by
      rw [htail]
      rcases splitLast_fst '\n' path.reverse with hf | hf <;>
        rcases splitLast_fst '/' (splitLast '\n' path.reverse).2 with hs | hs <;>
        simp [hf, hs, instanceTails]
    refine ⟨⟨hslash, hfeed, hne, hplain, htails⟩, ?_⟩
    have hsplit := congrArg List.reverse hpath
    rw [List.reverse_append, List.reverse_append, hreverse, List.reverse_reverse] at hsplit
    rw [← hsplit, InstanceParts.text, htail]
    rcases splitLast_fst '\n' path.reverse with hf | hf <;>
      rcases splitLast_fst '/' (splitLast '\n' path.reverse).2 with hs | hs <;>
      simp [hf, hs]
  · rintro ⟨hparts, rfl⟩
    have hbody := splitParameter?_of_proper hparts parts.tail
    have htails := hparts.tail_mem
    obtain ⟨root, parameter, tail⟩ := parts
    simp only [List.reverse_append, List.reverse_cons, List.reverse_nil, List.nil_append,
      List.append_assoc, List.cons_append] at hbody
    simp only [instanceTails, List.mem_cons, List.not_mem_nil, or_false] at htails
    unfold instanceParts? InstanceParts.text
    -- In each of the four cases the end of the path tells which tail was written.
    rcases htails with rfl | rfl | rfl | rfl <;> simpa [splitLast] using hbody

theorem withoutSlashes_idem (path : List Char) :
    withoutSlashes (withoutSlashes path) = withoutSlashes path := by
  rw [withoutSlashes, withoutSlashes, List.reverse_reverse, List.dropWhile_idempotent]

/-- The text of parts without slash at the end, when the tail holds no line feed. -/
theorem withoutSlashes_text {parts : InstanceParts}
    (htail : parts.tail = [] ∨ parts.tail = ['/']) :
    withoutSlashes parts.text = { parts with tail := [] }.text := by
  unfold withoutSlashes InstanceParts.text
  rcases htail with htail | htail <;> simp [htail]

theorem isInstance_iff {path : String} :
    isInstance path ↔ ∃ parts : InstanceParts, parts.Proper ∧ path.toList = parts.text := by
  simp only [isInstance, Option.isSome_iff_exists, instanceParts?_eq_some_iff]

/-! ## Roots and collection paths -/

/-- A path without line feed is read up to a slash at its end. -/
theorem InstanceParts.Proper.tail_eq {parts : InstanceParts} (hparts : parts.Proper)
    (hfeed : '\n' ∉ parts.text) :
    parts.tail = [] ∨ parts.tail = ['/'] := by
  have hmem := hparts.tail_mem
  have hclean : '\n' ∉ parts.tail := fun h => hfeed (by simp [InstanceParts.text, h])
  simp only [instanceTails, List.mem_cons, List.not_mem_nil, or_false] at hmem
  rcases hmem with h | h | h | h
  · exact Or.inl h
  · exact Or.inr h
  · simp [h] at hclean
  · simp [h] at hclean

theorem InstanceParts.Proper.withTail {parts : InstanceParts} (h : parts.Proper) {tail : List Char}
    (htail : tail ∈ instanceTails) : InstanceParts.Proper { parts with tail } :=
  ⟨h.root_slash, h.root_feed, h.parameter_ne_nil, h.parameter_plain, htail⟩

/-- An instance path without line feed stays one when its slashes are taken off. -/
theorem isInstance_trimSlashes {path : String} (hpath : isInstance path)
    (hfeed : '\n' ∉ path.toList) : isInstance (trimSlashes path) := by
  obtain ⟨parts, hparts, htext⟩ := isInstance_iff.mp hpath
  have htail := hparts.tail_eq (htext ▸ hfeed)
  refine isInstance_iff.mpr
    ⟨{ parts with tail := [] }, hparts.withTail (by simp [instanceTails]), ?_⟩
  rw [trimSlashes, String.toList_ofList, htext, withoutSlashes_text htail]

/-- A single slash at the end is all that is taken off. -/
theorem trimSlashes_append {stem : String} (h : endsInSlash stem = false) :
    trimSlashes (stem ++ "/") = stem := by
  rw [← String.toList_inj, trimSlashes, String.toList_ofList, String.toList_append]
  rcases List.eq_nil_or_concat' stem.toList with hnil | ⟨front, last, hlast⟩
  · simp [hnil, withoutSlashes]
  · have hother : last ≠ '/' := by simpa [endsInSlash, hlast] using h
    simp [hlast, withoutSlashes, hother]

/-- What `rootOf` returns is the root of a decomposition, and neither with nor without its slashes
is it an instance path. -/
theorem rootOf_eq_ok {path root : String} (h : rootOf path = .ok root) :
    (∃ parts, instanceParts? path.toList = some parts ∧ root = String.ofList parts.root) ∧
      isInstance root = false ∧ isInstance (trimSlashes root) = false := by
  unfold rootOf at h
  split at h
  · cases h
  · next parts hparts =>
      simp only at h
      split at h
      · cases h
      · next hcondition =>
          simp only [Bool.or_eq_true, not_or, Bool.not_eq_true] at hcondition
          cases h
          have hproper := (instanceParts?_eq_some_iff.mp hparts).1
          refine ⟨⟨parts, hparts, rfl⟩, ?_, hcondition.2⟩
          rw [Bool.eq_false_iff]
          intro hroot
          have htrimmed := isInstance_trimSlashes hroot (by simpa using hproper.root_feed)
          simp [hcondition.2] at htrimmed

theorem rootOf_eq_error {path : String} {rejection : Rejection}
    (h : rootOf path = .error rejection) : rejection.path = path := by
  unfold rootOf at h
  split at h
  · cases h
    rfl
  · simp only at h
    split at h
    · cases h
      rfl
    · cases h

/-- A collection path is declared, and is the root of the instance path with or without its
slashes. -/
theorem findRoot_eq_ok {declared : String → Bool} {path rootPath : String}
    (h : findRoot declared path = .ok rootPath) :
    declared rootPath ∧ ∃ root, rootOf path = .ok root ∧
      (rootPath = root ∨ declared root = false ∧ rootPath = trimSlashes root) := by
  obtain ⟨root, hroot, hnext⟩ := bind_eq_ok.mp h
  refine (?_ : declared rootPath ∧ _).imp_right fun hcases => ⟨root, hroot, hcases⟩
  split at hnext
  · next hdeclared =>
      cases hnext
      exact ⟨hdeclared, Or.inl rfl⟩
  · next hundeclared =>
      split at hnext
      · next hdeclared =>
          cases hnext
          exact ⟨hdeclared, Or.inr ⟨by simpa using hundeclared, rfl⟩⟩
      · cases hnext

/-- Collection paths that are found have no line feed. -/
theorem feed_not_mem_of_findRoot {declared : String → Bool} {path rootPath : String}
    (h : findRoot declared path = .ok rootPath) : '\n' ∉ rootPath.toList := by
  obtain ⟨-, root, hroot, hcases⟩ := findRoot_eq_ok h
  obtain ⟨⟨parts, hparts, rfl⟩, -, -⟩ := rootOf_eq_ok hroot
  have hfeed := (instanceParts?_eq_some_iff.mp hparts).1.root_feed
  rcases hcases with rfl | ⟨-, rfl⟩
  · rwa [String.toList_ofList]
  · intro hmem
    rw [trimSlashes, String.toList_ofList, String.toList_ofList, withoutSlashes,
      List.mem_reverse] at hmem
    exact hfeed (List.mem_reverse.mp ((List.dropWhile_sublist _).subset hmem))

/-- **A collection path is never an instance path.** -/
theorem isInstance_findRoot {declared : String → Bool} {path rootPath : String}
    (h : findRoot declared path = .ok rootPath) : isInstance rootPath = false := by
  obtain ⟨-, root, hroot, rfl | ⟨-, rfl⟩⟩ := findRoot_eq_ok h
  · exact (rootOf_eq_ok hroot).2.1
  · exact (rootOf_eq_ok hroot).2.2

theorem findRoot_eq_error {declared : String → Bool} {path : String} {rejection : Rejection}
    (h : findRoot declared path = .error rejection) : rejection.path = path := by
  rcases bind_eq_error.mp h with hroot | ⟨root, -, hnext⟩
  · exact rootOf_eq_error hroot
  · split at hnext
    · cases hnext
    · split at hnext
      · cases hnext
      · cases hnext
        rfl

end ResourceGraph.Path
