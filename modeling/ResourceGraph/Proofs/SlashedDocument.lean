import ResourceGraph.Proofs.Rearrangement
import ResourceGraph.Proofs.Stages
import ResourceGraph.Proofs.TrailingSlash

/-!
# Documents that differ in slashes at the end

Let the paths of a document be plainly spelt: no two slashes stand side by side, there is no line
feed, and no path is declared both with and without a slash at its end.  Then slashes may be put at
the end of any of its paths, and the resources stay the same up to these slashes.

Every look-up is made for a path without a slash at its end, once as it stands and once with a
slash, and since only one of the two is declared, the order does not matter (`lookedUpTo?_slashed`).
This settles the collection of an instance path (`findRoot_slashed`) and its parents
(`fault?_slashed`), so each candidate has the corresponding outcome (`outcome_slashed`).  The
candidates are gone through in another order, though, because a slash is sorted among other
characters.  A run that reports no duplicate name does not notice this
(`Document.resources_rearranged`).
-/

namespace ResourceGraph

/-! ## Slashes at the end -/

/-- A document with slashes at the end of the wanted paths. -/
def Document.slashed (document : Document) (wanted : String → Bool) : Document :=
  { document with
    paths := document.paths.map fun entry => (Path.slashed wanted entry.1, entry.2) }

/-- The paths of a document are plainly spelt: no slash stands beside another one, there is no line
feed, and no path is declared with and without a slash at its end. -/
structure Document.PlainlySpelt (document : Document) : Prop where
  no_double : ∀ path, document.declares path → ¬ ['/', '/'] <:+: path.toList
  no_feed : ∀ path, document.declares path → '\n' ∉ path.toList
  one_spelling : ∀ path, document.declares path → document.declares (path ++ "/") = false

/-- An operation whose path is spelt as in the document with the slashes. -/
def ResourceOperation.slashed (wanted : String → Bool) (operation : ResourceOperation) :
    ResourceOperation :=
  { operation with path := Path.slashed wanted operation.path }

/-- A resource whose own paths are spelt as in the document with the slashes. -/
def ResourceDescriptor.slashed (wanted : String → Bool) (resource : ResourceDescriptor) :
    ResourceDescriptor :=
  { resource with
    rootPath := Path.slashed wanted resource.rootPath
    instancePath := Path.slashed wanted resource.instancePath
    operations := {
      create := resource.operations.create.slashed wanted
      read := resource.operations.read.slashed wanted
      update := resource.operations.update.map (ResourceOperation.slashed wanted)
      delete := resource.operations.delete.map (ResourceOperation.slashed wanted) } }

/-- A candidate whose paths are spelt as in the document with the slashes. -/
def Candidate.slashed (wanted : String → Bool) (candidate : Candidate) : Candidate :=
  { candidate with
    rootPath := Path.slashed wanted candidate.rootPath
    instancePath := Path.slashed wanted candidate.instancePath }

/-! ## Declared paths -/

section Slashed

variable {document : Document} {wanted : String → Bool} {path stem : String}

namespace Document

theorem declares_iff_mem : document.declares path ↔ path ∈ document.paths.map Prod.fst :=
  Table.has_iff_mem

theorem declares_slashed_iff : (document.slashed wanted).declares path ↔
    ∃ original, document.declares original ∧ Path.slashed wanted original = path := by
  have hnames : (document.slashed wanted).paths.map Prod.fst =
      (document.paths.map Prod.fst).map (Path.slashed wanted) := by
    rw [slashed, List.map_map, List.map_map]
    rfl
  rw [declares_iff_mem, hnames, List.mem_map]
  simp only [declares_iff_mem]

/-- No two declared paths are spelt alike with slashes. -/
theorem PlainlySpelt.slashed_inj (h : document.PlainlySpelt) {other : String}
    (hpath : document.declares path) (hother : document.declares other)
    (hsame : Path.slashed wanted path = Path.slashed wanted other) : path = other := by
  -- if only one of them gets a slash, the other one is its second spelling
  rcases Path.slashed_eq wanted path with hp | ⟨-, hp⟩ <;>
    rcases Path.slashed_eq wanted other with ho | ⟨-, ho⟩ <;> rw [hp, ho] at hsame
  · exact hsame
  · rw [hsame, h.one_spelling other hother] at hpath
    cases hpath
  · rw [← hsame, h.one_spelling path hpath] at hother
    cases hother
  · exact (String.append_left_inj "/").mp hsame

theorem PlainlySpelt.get?_slashed (h : document.PlainlySpelt) (hpath : document.declares path) :
    (document.slashed wanted).paths.get? (Path.slashed wanted path) =
      document.paths.get? path := by
  refine Table.get?_map_names fun entry hentry hsame => ?_
  exact h.slashed_inj (declares_iff_mem.mpr (List.mem_map_of_mem hentry)) hpath hsame

/-! ## Look-ups -/

/-- A path that does not end in a slash is declared with the slashes if it has been and gets
none. -/
theorem declares_slashed_stem (hstem : Path.endsInSlash stem = false) :
    (document.slashed wanted).declares stem ↔
      document.declares stem ∧ Path.slashed wanted stem = stem := by
  rw [declares_slashed_iff]
  constructor
  · rintro ⟨original, hdeclared, rfl⟩
    rcases Path.slashed_eq wanted original with hsame | ⟨-, hmoved⟩
    · rw [hsame]
      exact ⟨hdeclared, hsame⟩
    · rw [hmoved, Path.endsInSlash_append] at hstem
      cases hstem
  · rintro ⟨hdeclared, hsame⟩
    exact ⟨stem, hdeclared, hsame⟩

/-- It is declared with a slash at its end if it has been, or if it gets one. -/
theorem declares_slashed_append : (document.slashed wanted).declares (stem ++ "/") ↔
    document.declares (stem ++ "/") ∨
      document.declares stem ∧ Path.slashed wanted stem = stem ++ "/" := by
  rw [declares_slashed_iff]
  constructor
  · rintro ⟨original, hdeclared, hmoved⟩
    rcases Path.slashed_eq wanted original with hsame | ⟨-, happended⟩
    · rw [← hmoved, hsame]
      exact Or.inl hdeclared
    · rw [happended] at hmoved
      obtain rfl := (String.append_left_inj "/").mp hmoved
      exact Or.inr ⟨hdeclared, happended⟩
  · rintro (hdeclared | ⟨hdeclared, hmoved⟩)
    · exact ⟨_, hdeclared, Path.slashed_append wanted stem⟩
    · exact ⟨stem, hdeclared, hmoved⟩

/-- The document with the slashes has one spelling of each path as well. -/
theorem PlainlySpelt.one_spelling_slashed (h : document.PlainlySpelt)
    (hstem : Path.endsInSlash stem = false) (hdeclared : (document.slashed wanted).declares stem) :
    (document.slashed wanted).declares (stem ++ "/") = false := by
  obtain ⟨hplain, hsame⟩ := (declares_slashed_stem hstem).mp hdeclared
  have hlonger : stem ++ "/" ≠ stem := by simp
  rw [Bool.eq_false_iff, ne_eq, declares_slashed_append, h.one_spelling stem hplain, hsame]
  simp [hlonger.symm]

/-- **One look-up, two spellings.**  A path that does not end in a slash is looked up to the same
declared path, however this is spelt. -/
theorem lookedUpTo?_slashed (hstem : Path.endsInSlash stem = false) :
    (document.slashed wanted).lookedUpTo? stem =
      (document.lookedUpTo? stem).map (Path.slashed wanted) := by
  have hplain : (document.slashed wanted).declares stem ↔
      document.declares stem ∧ Path.slashed wanted stem = stem := declares_slashed_stem hstem
  have hslash : (document.slashed wanted).declares (stem ++ "/") ↔
      document.declares (stem ++ "/") ∨
        document.declares stem ∧ Path.slashed wanted stem = stem ++ "/" :=
    declares_slashed_append
  have hlonger : stem ++ "/" ≠ stem := by simp
  unfold lookedUpTo?
  by_cases hdeclared : document.declares stem
  · -- the path itself is declared, and it is found at once or with the slash that it gets
    rw [if_pos hdeclared, Option.map_some]
    rcases Path.slashed_eq wanted stem with hsame | ⟨-, hmoved⟩
    · rw [if_pos (hplain.mpr ⟨hdeclared, hsame⟩), hsame]
    · have hundeclared : ¬ (document.slashed wanted).declares stem := fun h =>
        hlonger (hmoved.symm.trans (hplain.mp h).2)
      rw [if_neg hundeclared, if_pos (hslash.mpr (Or.inr ⟨hdeclared, hmoved⟩)), hmoved]
  · -- without it there is nothing to find but the path with a slash, which stays as it is
    rw [if_neg hdeclared, if_neg fun h => hdeclared (hplain.mp h).1]
    by_cases hother : document.declares (stem ++ "/")
    · rw [if_pos hother, if_pos (hslash.mpr (Or.inl hother)), Option.map_some,
        Path.slashed_append]
    · have hundeclared : ¬ (document.slashed wanted).declares (stem ++ "/") := fun h =>
        (hslash.mp h).elim hother fun hboth => hdeclared hboth.1
      rw [if_neg hother, if_neg hundeclared]
      rfl

theorem PlainlySpelt.findPath?_slashed (h : document.PlainlySpelt)
    (hstem : Path.endsInSlash stem = false) :
    (document.slashed wanted).findPath? stem = document.findPath? stem := by
  rw [findPath?_eq, findPath?_eq, lookedUpTo?_slashed hstem]
  cases hfound : document.lookedUpTo? stem with
  | none => rfl
  | some found => exact h.get?_slashed (declares_of_lookedUpTo? hfound)

/-- Where only one spelling of a collection is declared, its two look-ups agree. -/
theorem findRoot_eq_lookedUpTo? (hroot : Path.rootOf path = .ok (stem ++ "/"))
    (hstem : Path.endsInSlash stem = false)
    (hsingle : document.declares stem → document.declares (stem ++ "/") = false) :
    Path.findRoot document.declares path = match document.lookedUpTo? stem with
      | some rootPath => .ok rootPath
      | none => .error ⟨path, .noMatchingRootPath⟩ := by
  unfold Path.findRoot lookedUpTo?
  rw [hroot]
  simp only [bind, Except.bind, Path.trimSlashes_append hstem]
  by_cases hdeclared : document.declares stem
  · rw [hsingle hdeclared, if_pos hdeclared, if_pos hdeclared]
    rfl
  · rw [if_neg hdeclared, if_neg hdeclared]
    split <;> rfl

/-- **The collection of an instance path** is the same, however both are spelt. -/
theorem PlainlySpelt.findRoot_slashed (h : document.PlainlySpelt)
    (hpath : document.declares path) :
    Matches Rejection.SameKind
      (fun rootPath moved => document.declares rootPath ∧ moved = Path.slashed wanted rootPath)
      (Path.findRoot document.declares path)
      (Path.findRoot (document.slashed wanted).declares (Path.slashed wanted path)) := by
  have hroots := Path.rootOf_slashed wanted (h.no_feed path hpath)
  cases hroot : Path.rootOf path with
  | error rejection =>
      rw [hroot] at hroots
      simp only [Path.findRoot, hroot]
      generalize Path.rootOf (Path.slashed wanted path) = other at hroots ⊢
      cases hroots with
      | error hkind => exact .error hkind
  | ok root =>
      rw [hroot] at hroots
      obtain ⟨_, hother, rfl⟩ := hroots.exists_of_ok_left
      obtain ⟨stem, rfl, hstem⟩ := Path.exists_stem_of_rootOf_eq_ok hroot (h.no_double path hpath)
      rw [findRoot_eq_lookedUpTo? hroot hstem (h.one_spelling stem),
        findRoot_eq_lookedUpTo? hother hstem (h.one_spelling_slashed hstem),
        lookedUpTo?_slashed hstem]
      cases hfound : document.lookedUpTo? stem with
      | none => exact .error rfl
      | some found => exact .ok ⟨declares_of_lookedUpTo? hfound, rfl⟩

end Document

/-! ## Candidates -/

/-- What is wrong with a candidate is reported under the same name, however its paths are spelt. -/
theorem Document.PlainlySpelt.validate_slashed (h : document.PlainlySpelt) {rootPath : String}
    (hroot : document.declares rootPath) (item : PathItem) :
    Matches (fun cause other : RejectionCause => other.kind = cause.kind)
      (fun candidate other => other = candidate.slashed wanted)
      (Candidate.validate document rootPath path item)
      (Candidate.validate (document.slashed wanted) (Path.slashed wanted rootPath)
        (Path.slashed wanted path) item) := by
  unfold Candidate.validate
  rw [h.get?_slashed hroot]
  cases item.get with
  | none => exact .error rfl
  | some read =>
  cases document.paths.get? rootPath with
  | none => exact .error rfl
  | some root =>
  simp only
  cases root.post with
  | none => exact .error rfl
  | some create =>
  simp only
  cases Compliance.payload create with
  | error fault => exact .error rfl
  | ok payload =>
  simp only [Except.mapError, bind, Except.bind]
  cases Compliance.identifierOf payload.1 with
  | error cause => exact .error rfl
  | ok identifier => exact .ok rfl

theorem Document.PlainlySpelt.candidate_slashed (h : document.PlainlySpelt)
    (hpath : document.declares path) :
    Matches Rejection.SameKind (fun candidate other => other = candidate.slashed wanted)
      (document.candidate path)
      ((document.slashed wanted).candidate (Path.slashed wanted path)) := by
  unfold Document.candidate
  refine (h.findRoot_slashed hpath).bind ?_
  rintro rootPath _ ⟨hroot, rfl⟩
  rw [h.get?_slashed hpath]
  cases document.paths.get? path with
  | none => exact .error rfl
  | some item => exact (h.validate_slashed hroot item).mapError_imp fun _ _ hkind => hkind

theorem Operation.timeout_matches (operation : Operation) (path other : String) :
    Matches Rejection.SameKind (· = ·) (operation.timeout path) (operation.timeout other) := by
  unfold Operation.timeout
  cases operation.extensions.lookup? Extension.resourceTimeout.name with
  | none => exact .ok rfl
  | some value =>
      simp only
      cases Duration.ofValue value with
      | error fault => exact .error rfl
      | ok seconds => exact .ok rfl

theorem Operation.descriptor_slashed (operation : Operation) (method : Method) :
    Matches Rejection.SameKind (fun described other => other = described.slashed wanted)
      (operation.descriptor document method path)
      (operation.descriptor (document.slashed wanted) method (Path.slashed wanted path)) := by
  unfold Operation.descriptor
  refine (operation.timeout_matches path (Path.slashed wanted path)).bind ?_
  rintro timeout _ rfl
  exact .ok rfl

theorem Operation.optionalDescriptor_slashed (operation : Option Operation) (method : Method) :
    Matches Rejection.SameKind
      (fun described other => other = described.map (ResourceOperation.slashed wanted))
      (Operation.optionalDescriptor operation document method path)
      (Operation.optionalDescriptor operation (document.slashed wanted) method
        (Path.slashed wanted path)) := by
  cases operation with
  | none => exact .ok rfl
  | some operation =>
      refine (operation.descriptor_slashed method).map fun described other hother => ?_
      rw [hother]
      rfl

theorem PathItem.resourceName_slashed (item : PathItem) (rootPath : String) :
    item.resourceName (Path.slashed wanted rootPath) = item.resourceName rootPath := by
  rw [PathItem.resourceName_eq, PathItem.resourceName_eq, Path.parents_slashed,
    Path.resourceName_slashed]

/-- A candidate is described in the same way, up to its own paths. -/
theorem Candidate.descriptor_slashed (candidate : Candidate) :
    Matches Rejection.SameKind (fun descriptor other => other = descriptor.slashed wanted)
      (candidate.descriptor document)
      ((candidate.slashed wanted).descriptor (document.slashed wanted)) := by
  unfold Candidate.descriptor
  refine (candidate.create.descriptor_slashed .post).bind ?_
  rintro create _ rfl
  refine (candidate.read.descriptor_slashed .get).bind ?_
  rintro read _ rfl
  refine (Operation.optionalDescriptor_slashed candidate.instanceItem.put .put).bind ?_
  rintro update _ rfl
  refine (Operation.optionalDescriptor_slashed candidate.instanceItem.delete .delete).bind ?_
  rintro delete _ rfl
  refine .ok ?_
  simp only [Candidate.slashed, ResourceDescriptor.slashed, PathItem.resourceName_slashed,
    Path.parents_slashed]

/-! ## Outcomes -/

/-- The parents of a collection are looked up in the same way, whatever is spelt with a slash. -/
theorem Document.PlainlySpelt.fault?_slashed (h : document.PlainlySpelt) (rootPath : String) :
    Parent.fault? (document.slashed wanted) (Path.parents rootPath) =
      Parent.fault? document (Path.parents rootPath) := by
  have hinstances : Parent.instanceFault? (document.slashed wanted) (Path.parents rootPath) =
      Parent.instanceFault? document (Path.parents rootPath) := by
    refine findSome?_congr fun parent hparent => ?_
    obtain ⟨parameter, hproper⟩ := Path.exists_proper_of_mem_parents hparent
    rw [h.findPath?_slashed hproper.endsInSlash_instancePath]
  have hroots : (Path.parents rootPath).findSome? (Parent.rootFault? (document.slashed wanted)) =
      (Path.parents rootPath).findSome? (Parent.rootFault? document) := by
    refine findSome?_congr fun parent hparent => ?_
    obtain ⟨parameter, hproper⟩ := Path.exists_proper_of_mem_parents hparent
    unfold Parent.rootFault?
    rw [h.findPath?_slashed hproper.endsInSlash_rootPath]
  rw [Parent.fault?_eq, Parent.fault?_eq, hinstances, hroots]

theorem ResourceDescriptor.spread_slashed (descriptor : ResourceDescriptor)
    (extensions : Extensions) : (descriptor.slashed wanted).spread extensions =
      (descriptor.spread extensions).map (List.map (ResourceDescriptor.slashed wanted)) :=
  spread_change rfl fun _ => rfl

/-- **What becomes of an instance path** does not depend on the slashes, up to the paths of its
descriptors. -/
theorem Document.PlainlySpelt.outcome_slashed (h : document.PlainlySpelt)
    (hpath : document.declares path) :
    (document.outcome path).Corresponds (ResourceDescriptor.slashed wanted)
      ((document.slashed wanted).outcome (Path.slashed wanted path)) := by
  have hdescribed : Matches Rejection.SameKind
      (fun descriptor other => other = descriptor.slashed wanted)
      (document.described path)
      ((document.slashed wanted).described (Path.slashed wanted path)) := by
    refine (h.candidate_slashed hpath).bind ?_
    rintro candidate _ rfl
    exact candidate.descriptor_slashed
  cases hdescriptor : document.described path with
  | error rejection =>
      rw [hdescriptor] at hdescribed
      generalize hother : (document.slashed wanted).described (Path.slashed wanted path) = other
        at hdescribed
      cases hdescribed with
      | error hkind =>
          rw [outcome_eq_of_described_eq_error hdescriptor,
            outcome_eq_of_described_eq_error hother]
          exact .rejected hkind
  | ok descriptor =>
      rw [hdescriptor] at hdescribed
      obtain ⟨_, hother, rfl⟩ := hdescribed.exists_of_ok_left
      obtain ⟨rootPath, hparents⟩ := exists_parents_of_described hdescriptor
      have hfault : Parent.fault? (document.slashed wanted) (descriptor.slashed wanted).parents =
          Parent.fault? document descriptor.parents := by
        have hsame : (descriptor.slashed wanted).parents = descriptor.parents := rfl
        rw [hsame, hparents, h.fault?_slashed]
      have hextensions : (document.slashed wanted).extensions = document.extensions := rfl
      rw [outcome_eq_of_described_eq_ok hdescriptor, outcome_eq_of_described_eq_ok hother, hfault,
        hextensions, ResourceDescriptor.spread_slashed]
      cases Parent.fault? document descriptor.parents with
      | some cause => exact .rejected rfl
      | none =>
          cases descriptor.spread document.extensions with
          | error error => exact .failed error
          | ok resources => exact .accepted resources

/-! ## Runs -/

/-- The candidates are the same up to the slashes, though perhaps in another order. -/
theorem Document.PlainlySpelt.candidatePaths_slashed (h : document.PlainlySpelt) :
    ((document.slashed wanted).candidatePaths {}).Perm
      ((document.candidatePaths {}).map (Path.slashed wanted)) := by
  have hall : ∀ path, Selection.selects {} path = true := fun _ => rfl
  have hnodup : ((document.candidatePaths {}).map (Path.slashed wanted)).Nodup := by
    refine List.Nodup.map_on ?_ ((pairwise_candidatePaths document {}).imp ne_of_lt)
    intro path hpath other hother hsame
    exact h.slashed_inj (mem_candidatePaths.mp hpath).1 (mem_candidatePaths.mp hother).1 hsame
  refine (List.perm_ext_iff_of_nodup
    ((pairwise_candidatePaths (document.slashed wanted) {}).imp ne_of_lt) hnodup).mpr fun path => ?_
  simp only [List.mem_map, mem_candidatePaths, declares_slashed_iff, hall, true_and]
  constructor
  · rintro ⟨⟨original, hdeclared, rfl⟩, hform⟩
    rw [Path.isInstance_slashed wanted (h.no_feed original hdeclared)] at hform
    exact ⟨original, ⟨hdeclared, hform⟩, rfl⟩
  · rintro ⟨original, ⟨hdeclared, hform⟩, rfl⟩
    rw [← Path.isInstance_slashed wanted (h.no_feed original hdeclared)] at hform
    exact ⟨⟨original, hdeclared, rfl⟩, hform⟩

/-- **Slashes at the end do not matter.**  Let the paths of a document be plainly spelt, and let a
run on all of them report no duplicate name.  If slashes are put at the end of any of the paths, the
run returns as well and reports no duplicate name.  It finds the same resources, perhaps in another
order, and these differ in nothing but the slashes at the end of their own paths and of those of
their operations. -/
theorem Document.slashes_immaterial (h : document.PlainlySpelt) (wanted : String → Bool)
    {findings : Findings} (hrun : document.resources {} = .ok findings)
    (hsingle : findings.NoDuplicate) :
    ∃ found, (document.slashed wanted).resources {} = .ok found ∧ found.NoDuplicate ∧
      found.resources.Perm (findings.resources.map (ResourceDescriptor.slashed wanted)) := by
  have houtcome : ∀ path ∈ document.candidatePaths {},
      (document.outcome path).Corresponds (ResourceDescriptor.slashed wanted)
        ((document.slashed wanted).outcome (Path.slashed wanted path)) := fun path hpath =>
    h.outcome_slashed (mem_candidatePaths.mp hpath).1
  exact resources_rearranged h.candidatePaths_slashed houtcome (fun _ => rfl) hrun hsingle

end Slashed

/-! ## A document with slashes -/

namespace Sample

/-- Quays, and cranes nested under them, of which one collection is declared with a slash. -/
def quays : Document :=
  { paths := [("/v1/quays", collection []), ("/v1/quays/{id}", readable),
      ("/v1/quays/{id}-cranes/", collection []), ("/v1/quays/{id}-cranes/{crane}", readable)] }

theorem quays_plainlySpelt : quays.PlainlySpelt := by
  have hpaths : ∀ path ∈ quays.paths.map Prod.fst, ¬ ['/', '/'] <:+: path.toList ∧
      '\n' ∉ path.toList ∧ quays.declares (path ++ "/") = false := by
    decide +kernel
  exact ⟨fun path h => (hpaths path (Document.declares_iff_mem.mp h)).1,
    fun path h => (hpaths path (Document.declares_iff_mem.mp h)).2.1,
    fun path h => (hpaths path (Document.declares_iff_mem.mp h)).2.2⟩

/-- With slashes at the end of all paths the cranes are found before the quays. -/
theorem quays_slashes_immaterial :
    ∃ findings found, quays.PlainlySpelt ∧ quays.resources {} = .ok findings ∧
      findings.NoDuplicate ∧
      findings.resources.map ResourceDescriptor.instancePath =
        ["/v1/quays/{id}", "/v1/quays/{id}-cranes/{crane}"] ∧
      (quays.slashed fun _ => true).resources {} = .ok found ∧ found.NoDuplicate ∧
      found.resources.Perm
        (findings.resources.map (ResourceDescriptor.slashed fun _ => true)) ∧
      found.resources.map ResourceDescriptor.instancePath =
        ["/v1/quays/{id}-cranes/{crane}/", "/v1/quays/{id}/"] := by
  have hrun : (quays.resources {}).toOption.map (fun findings =>
      (findings.resources.map ResourceDescriptor.instancePath, findings.diagnostics)) =
      some (["/v1/quays/{id}", "/v1/quays/{id}-cranes/{crane}"], []) := by
    decide +kernel
  have hother : ((quays.slashed fun _ => true).resources {}).toOption.map (fun findings =>
      findings.resources.map ResourceDescriptor.instancePath) =
      some ["/v1/quays/{id}-cranes/{crane}/", "/v1/quays/{id}/"] := by
    decide +kernel
  obtain ⟨findings, hfindings, hresult⟩ := exists_of_toOption_map_eq_some hrun
  obtain ⟨hpaths, hnone⟩ := Prod.mk.inj hresult
  have hsingle : findings.NoDuplicate := by
    intro diagnostic hmem
    rw [hnone] at hmem
    cases hmem
  obtain ⟨found, hfound, hothers, hperm⟩ :=
    Document.slashes_immaterial quays_plainlySpelt (fun _ => true) hfindings hsingle
  obtain ⟨_, hsame, hmoved⟩ := exists_of_toOption_map_eq_some hother
  cases hfound.symm.trans hsame
  exact ⟨findings, found, quays_plainlySpelt, hfindings, hsingle, hpaths, hfound, hothers, hperm,
    hmoved⟩

end Sample

end ResourceGraph
