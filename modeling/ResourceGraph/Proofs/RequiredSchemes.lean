import ResourceGraph.Proofs.DeclaredKeys

/-!
# Required schemes

The requirements of a document are alternatives, and a scheme may stand in several of them.  Two
passes go over their entries.  One notes the names; it serves single operations as well and asks for
no declared keys.  The other collects the schemes of the whole document with their scopes, and stops
at the first name that is unknown.

* `note` and `collect` are what the passes do with one more entry, and a pass does nothing else
  (`requirementNames_eq_foldl`, `resolveGlobal_eq_foldlM`).
* `Collected` relates the entries that a pass has gone through to the schemes that it has collected.
  A scheme is collected when its name is noted, so that neither pass gets ahead of the other
  (`Collected.step`).
* There is only one list of schemes that is collected from some entries (`Collected.eq`).

That a name is skipped when it has been met before does not hide that it is unknown: a name that has
been met is a known one, or else the pass would have stopped there.
-/

namespace ResourceGraph

/-! ## What a document requires -/

namespace Document

/-- A scheme stands in one of the requirements. -/
def Requires (document : Document) (name : String) : Prop :=
  ∃ requirement ∈ document.security, requirement.has name

/-- The first requirement with a scheme lists it with some scopes. -/
def FirstRequires (document : Document) (name : String) (scopes : List String) : Prop :=
  ∃ before requirement after, document.security = before ++ requirement :: after ∧
    requirement.get? name = some scopes ∧ ∀ earlier ∈ before, ¬ earlier.has name

/-- A scheme is unknown, and all schemes before it are known: those of the requirements before, and
those that its own requirement lists before it. -/
def FirstMissing (document : Document) (known : List SecurityDefinition) (name : String) : Prop :=
  ∃ before requirement after, document.security = before ++ requirement :: after ∧
    ∃ earlier scopes later, requirement = earlier ++ (name, scopes) :: later ∧
      name ∉ known.map SecurityDefinition.name ∧
      (∀ passed ∈ before, ∀ entry ∈ passed, entry.1 ∈ known.map SecurityDefinition.name) ∧
      ∀ entry ∈ earlier, entry.1 ∈ known.map SecurityDefinition.name

variable {document : Document} {known : List SecurityDefinition} {name : String}
  {scopes : List String}

theorem requires_iff : document.Requires name ↔ name ∈ document.security.flatten.map Prod.fst := by
  simp only [Requires, Table.has_iff_mem, List.mem_map, List.mem_flatten]
  constructor
  · rintro ⟨requirement, hrequirement, entry, hentry, hname⟩
    exact ⟨entry, ⟨requirement, hrequirement, hentry⟩, hname⟩
  · rintro ⟨entry, ⟨requirement, hrequirement, hentry⟩, hname⟩
    exact ⟨requirement, hrequirement, entry, hentry, hname⟩

theorem forall_requires_iff {holds : String → Prop} :
    (∀ name, document.Requires name → holds name) ↔
      ∀ entry ∈ document.security.flatten, holds entry.1 := by
  simp only [requires_iff, List.mem_map]
  constructor
  · exact fun h entry hentry => h entry.1 ⟨entry, hentry, rfl⟩
  · rintro h _ ⟨entry, hentry, rfl⟩
    exact h entry hentry

theorem firstRequires_iff :
    document.FirstRequires name scopes ↔ document.security.flatten.lookup name = some scopes := by
  unfold FirstRequires
  induction document.security with
  | nil => simp
  | cons first rest ih =>
      rw [List.flatten_cons, List.lookup_append, Option.or_eq_some_iff, ← ih]
      constructor
      · rintro ⟨before, requirement, after, hsplit, hscopes, hbefore⟩
        rcases List.cons_eq_append_iff.mp hsplit with ⟨rfl, hhead⟩ | ⟨others, rfl, hrest⟩
        · cases hhead
          exact Or.inl hscopes
        · have hnone : first.lookup name = none :=
            Option.not_isSome_iff_eq_none.mp (hbefore first (List.mem_cons_self ..))
          exact Or.inr ⟨hnone, others, requirement, after, hrest, hscopes, fun earlier hearlier =>
            hbefore earlier (List.mem_cons_of_mem _ hearlier)⟩
      · rintro (hscopes | ⟨hnone, before, requirement, after, rfl, hscopes, hbefore⟩)
        · exact ⟨[], first, rest, rfl, hscopes, fun _ hearlier => by cases hearlier⟩
        · refine ⟨first :: before, requirement, after, rfl, hscopes, fun earlier hearlier => ?_⟩
          rcases List.mem_cons.mp hearlier with rfl | hearlier
          · simp [Table.has, Table.get?, hnone]
          · exact hbefore earlier hearlier

theorem firstMissing_iff : document.FirstMissing known name ↔
    ∃ before scopes after, document.security.flatten = before ++ (name, scopes) :: after ∧
      name ∉ known.map SecurityDefinition.name ∧
      ∀ entry ∈ before, entry.1 ∈ known.map SecurityDefinition.name := by
  constructor
  · rintro ⟨before, _, after, hsplit, earlier, scopes, later, rfl, hname, hbefore, hearlier⟩
    refine ⟨before.flatten ++ earlier, scopes, later ++ after.flatten, ?_, hname, ?_⟩
    · rw [hsplit, List.flatten_append, List.flatten_cons]
      simp only [List.append_assoc, List.cons_append]
    · intro entry hentry
      rcases List.mem_append.mp hentry with hentry | hentry
      · obtain ⟨passed, hpassed, hentry⟩ := List.mem_flatten.mp hentry
        exact hbefore passed hpassed entry hentry
      · exact hearlier entry hentry
  · rintro ⟨passed, scopes, rest, hsplit, hname, hpassed⟩
    rcases List.flatten_eq_append_iff.mp hsplit with
      ⟨before, others, hsecurity, rfl, hrest⟩ |
      ⟨before, earlier, _, later, after, hsecurity, rfl, hrest⟩
    · -- the entry is the first one of the requirements that follow, apart from empty ones
      obtain ⟨empty, later, after, rfl, hempty, -⟩ := List.flatten_eq_cons_iff.mp hrest.symm
      refine ⟨before ++ empty, _, after, ?_, [], scopes, later, rfl, hname, ?_, ?_⟩
      · rw [hsecurity, List.append_assoc]
        rfl
      · intro requirement hrequirement entry hentry
        rcases List.mem_append.mp hrequirement with hrequirement | hrequirement
        · exact hpassed entry (List.mem_flatten.mpr ⟨requirement, hrequirement, hentry⟩)
        · rw [hempty requirement hrequirement] at hentry
          cases hentry
      · exact fun entry hentry => by cases hentry
    · obtain ⟨rfl, -⟩ := List.cons_eq_cons.mp hrest
      refine ⟨before, _, after, hsecurity, earlier, scopes, later, rfl, hname, ?_, ?_⟩
      · intro requirement hrequirement entry hentry
        exact hpassed entry
          (List.mem_append_left _ (List.mem_flatten.mpr ⟨requirement, hrequirement, hentry⟩))
      · exact fun entry hentry => hpassed entry (List.mem_append_right _ hentry)

end Document

namespace Security

variable {document : Document} {known : List SecurityDefinition} {error : AnalysisError}
  {entries : List (String × List String)} {entry : String × List String}
  {schemes later : List GlobalScheme}

/-! ## Noting names -/

/-- Names with one more that is noted, unless it is among them. -/
def note (names : List String) (name : String) : List String :=
  if name ∈ names then names else names ++ [name]

theorem eraseDups_append_singleton (names : List String) (name : String) :
    (names ++ [name]).eraseDups = note names.eraseDups name := by
  rw [List.eraseDups_append, note]
  by_cases hname : name ∈ names
  · rw [if_pos (List.mem_eraseDups.mpr hname)]
    simp [List.removeAll, hname]
  · rw [if_neg (mt List.mem_eraseDups.mp hname)]
    simp [List.removeAll, hname, List.eraseDups_cons]

theorem eraseDups_eq_foldl (names : List String) : names.eraseDups = names.foldl note [] := by
  induction names using List.reverseRecOn with
  | nil => rfl
  | append_singleton names name ih =>
      rw [eraseDups_append_singleton, List.foldl_append, ← ih]
      rfl

theorem requirementNames_eq_eraseDups (requirements : List SecurityRequirement) :
    requirementNames requirements = (requirements.flatten.map Prod.fst).eraseDups := by
  rw [requirementNames, List.flatMap_def, List.map_flatten]

/-- **The names are noted one entry after another.** -/
theorem requirementNames_eq_foldl (requirements : List SecurityRequirement) :
    requirementNames requirements = (requirements.flatten.map Prod.fst).foldl note [] := by
  rw [requirementNames_eq_eraseDups, eraseDups_eq_foldl]

/-- Names that are noted stand in the order in which they have been met first. -/
theorem pairwise_eraseDups (names : List String) :
    names.eraseDups.Pairwise fun earlier later => names.idxOf earlier < names.idxOf later := by
  induction names using List.reverseRecOn with
  | nil => exact List.Pairwise.nil
  | append_singleton names name ih =>
      have hkept : names.eraseDups.Pairwise fun earlier later =>
          (names ++ [name]).idxOf earlier < (names ++ [name]).idxOf later := by
        refine ih.imp_of_mem fun hearlier hlater hless => ?_
        rw [List.idxOf_append_of_mem (List.mem_eraseDups.mp hearlier),
          List.idxOf_append_of_mem (List.mem_eraseDups.mp hlater)]
        exact hless
      rw [eraseDups_append_singleton, note]
      split
      · exact hkept
      · next hname =>
          refine List.pairwise_append.mpr ⟨hkept, List.pairwise_singleton _ _, ?_⟩
          intro earlier hearlier last hlast
          have hmet : earlier ∈ names := List.mem_eraseDups.mp hearlier
          rw [List.mem_singleton.mp hlast, List.idxOf_append_of_mem hmet,
            List.idxOf_append_of_notMem (mt List.mem_eraseDups.mpr hname)]
          exact Nat.lt_add_right _ (List.idxOf_lt_length_iff.mpr hmet)

/-! ## Collecting schemes -/

/-- Schemes with that of one more entry, unless one of them has its name. -/
def collect (known : List SecurityDefinition) (schemes : List GlobalScheme)
    (entry : String × List String) : Except AnalysisError (List GlobalScheme) :=
  if entry.1 ∉ known.map SecurityDefinition.name then .error (.unresolvedScheme entry.1)
  else if entry.1 ∈ schemes.map GlobalScheme.name then .ok schemes
  else .ok (schemes ++ [⟨entry.1, entry.2⟩])

theorem collect_eq_ok_iff : collect known schemes entry = .ok later ↔
    entry.1 ∈ known.map SecurityDefinition.name ∧
      later = if entry.1 ∈ schemes.map GlobalScheme.name then schemes
        else schemes ++ [⟨entry.1, entry.2⟩] := by
  unfold collect
  split_ifs with hunknown <;> simp [hunknown, eq_comm]

/-- Schemes are collected from entries: they have the noted names, each with the scopes of the first
entry of its name. -/
structure Collected (entries : List (String × List String)) (schemes : List GlobalScheme) :
    Prop where
  names : schemes.map GlobalScheme.name = (entries.map Prod.fst).foldl note []
  scopes : ∀ scheme ∈ schemes, entries.lookup scheme.name = some scheme.scopes

theorem Collected.mem_names (h : Collected entries schemes) {name : String} :
    name ∈ schemes.map GlobalScheme.name ↔ name ∈ entries.map Prod.fst := by
  rw [h.names, ← eraseDups_eq_foldl, List.mem_eraseDups]

/-- One more entry is noted and collected, or neither. -/
theorem Collected.step (h : Collected entries schemes)
    (hcollect : collect known schemes entry = .ok later) :
    Collected (entries ++ [entry]) later := by
  obtain ⟨-, rfl⟩ := collect_eq_ok_iff.mp hcollect
  refine ⟨?_, fun scheme hscheme => ?_⟩
  · rw [List.map_append, List.foldl_append, ← h.names]
    show _ = note (schemes.map GlobalScheme.name) entry.1
    rw [note]
    split
    · rfl
    · rw [List.map_append]
      rfl
  · have hkept : ∀ scheme ∈ schemes,
        (entries ++ [entry]).lookup scheme.name = some scheme.scopes := by
      intro scheme hscheme
      rw [List.lookup_append, h.scopes scheme hscheme]
      rfl
    split at hscheme
    · exact hkept scheme hscheme
    · next hnew =>
        rcases List.mem_append.mp hscheme with hscheme | hscheme
        · exact hkept scheme hscheme
        · -- no entry before has the name, so that the new one is the first with it
          have hnone : entries.lookup entry.1 = none := by
            refine List.lookup_eq_none_iff.mpr fun other hother => ?_
            refine bne_iff_ne.mpr fun hsame => hnew (h.mem_names.mpr ?_)
            exact hsame ▸ List.mem_map_of_mem hother
          obtain rfl := List.mem_singleton.mp hscheme
          rw [List.lookup_append, hnone, Option.none_or, List.lookup_cons_self]

/-- Only one list of schemes is collected from some entries. -/
theorem Collected.eq (h : Collected entries schemes) (hlater : Collected entries later) :
    schemes = later := by
  have hdetermined {schemes : List GlobalScheme} (h : Collected entries schemes) :
      schemes = (schemes.map GlobalScheme.name).map fun name =>
        ⟨name, (entries.lookup name).getD []⟩ := by
    rw [List.map_map]
    refine (List.map_id _).symm.trans (List.map_congr_left fun scheme hscheme => ?_)
    simp only [Function.comp_apply, h.scopes scheme hscheme, Option.getD_some, id_eq]
  rw [hdetermined h, hdetermined hlater, h.names, hlater.names]

/-! ## Whole passes -/

/-- Schemes that are known are collected to the end. -/
theorem exists_collected (h : ∀ entry ∈ entries, entry.1 ∈ known.map SecurityDefinition.name) :
    ∃ schemes, entries.foldlM (collect known) [] = .ok schemes ∧ Collected entries schemes := by
  induction entries using List.reverseRecOn with
  | nil => exact ⟨[], rfl, rfl, fun _ hscheme => by cases hscheme⟩
  | append_singleton entries entry ih =>
      obtain ⟨schemes, hschemes, hcollected⟩ := ih fun other hother =>
        h other (List.mem_append_left _ hother)
      have hentry : entry.1 ∈ known.map SecurityDefinition.name := h entry (by simp)
      obtain ⟨later, hlater⟩ : ∃ later, collect known schemes entry = .ok later :=
        ⟨_, collect_eq_ok_iff.mpr ⟨hentry, rfl⟩⟩
      refine ⟨later, ?_, hcollected.step hlater⟩
      rw [List.foldlM_append, hschemes]
      show (collect known schemes entry >>= pure) = _
      rw [hlater]
      rfl

/-- The first scheme that is unknown is reported. -/
theorem foldlM_collect_eq_error {before after : List (String × List String)}
    (hbefore : ∀ other ∈ before, other.1 ∈ known.map SecurityDefinition.name)
    (hentry : entry.1 ∉ known.map SecurityDefinition.name) :
    (before ++ entry :: after).foldlM (collect known) [] = .error (.unresolvedScheme entry.1) := by
  obtain ⟨schemes, hschemes, -⟩ := exists_collected hbefore
  rw [List.foldlM_append, hschemes]
  show (collect known schemes entry >>= _) = _
  rw [collect, if_pos hentry]
  rfl

theorem map_name_filterMap {names : List String}
    (h : ∀ name ∈ names, (entries.lookup name).isSome) :
    (names.filterMap fun name => (entries.lookup name).map (GlobalScheme.mk name ·)).map
      GlobalScheme.name = names := by
  induction names with
  | nil => rfl
  | cons name rest ih =>
      obtain ⟨scopes, hscopes⟩ := Option.isSome_iff_exists.mp (h name (List.mem_cons_self ..))
      rw [List.filterMap_cons, hscopes, Option.map_some, List.map_cons,
        ih fun other hother => h other (List.mem_cons_of_mem _ hother)]

/-- **The schemes are collected one entry after another.** -/
theorem resolveGlobal_eq_foldlM (document : Document) (known : List SecurityDefinition) :
    resolveGlobal document known = document.security.flatten.foldlM (collect known) [] := by
  have hknown : ∀ name, (known.any fun definition => definition.name == name) = true ↔
      name ∈ known.map SecurityDefinition.name := by
    simp
  unfold resolveGlobal
  simp only
  split
  · next name scopes hfind =>
      obtain ⟨hunknown, before, after, hsplit, hbefore⟩ := List.find?_eq_some_iff_append.mp hfind
      rw [hsplit, foldlM_collect_eq_error (fun other hother => ?_) fun hname => ?_]
      · have hother := hbefore other hother
        rw [Bool.not_not] at hother
        exact (hknown _).mp hother
      · rw [(hknown name).mpr hname] at hunknown
        cases hunknown
  · next hfind =>
      obtain ⟨schemes, hschemes, hcollected⟩ := exists_collected fun entry hentry =>
        (hknown entry.1).mp (by simpa using List.find?_eq_none.mp hfind entry hentry)
      rw [hschemes, Except.ok.injEq]
      refine Collected.eq ⟨?_, fun scheme hscheme => ?_⟩ hcollected
      · rw [requirementNames_eq_foldl, map_name_filterMap fun name hname => ?_]
        rw [← eraseDups_eq_foldl, List.mem_eraseDups] at hname
        exact Table.has_iff_mem.mpr hname
      · obtain ⟨name, -, hscheme⟩ := List.mem_filterMap.mp hscheme
        obtain ⟨scopes, hscopes, rfl⟩ := Option.map_eq_some_iff.mp hscheme
        exact hscopes

/-- Schemes that have been collected are known, and they are all that was to be collected. -/
theorem collected_of_foldlM (h : entries.foldlM (collect known) [] = .ok schemes) :
    (∀ entry ∈ entries, entry.1 ∈ known.map SecurityDefinition.name) ∧
      Collected entries schemes := by
  induction entries using List.reverseRecOn generalizing schemes with
  | nil =>
      obtain rfl : schemes = [] := (Except.ok.inj h).symm
      exact ⟨fun _ hentry => (by cases hentry), rfl, fun _ hscheme => (by cases hscheme)⟩
  | append_singleton entries entry ih =>
      rw [List.foldlM_append] at h
      obtain ⟨passed, hpassed, hnext⟩ := bind_eq_ok.mp h
      obtain ⟨last, hlast, hdone⟩ := bind_eq_ok.mp hnext
      obtain rfl : last = schemes := Except.ok.inj hdone
      obtain ⟨hknown, hcollected⟩ := ih hpassed
      refine ⟨fun other hother => ?_, hcollected.step hlast⟩
      rcases List.mem_append.mp hother with hother | hother
      · exact hknown other hother
      · rw [List.mem_singleton.mp hother]
        exact (collect_eq_ok_iff.mp hlast).1

theorem resolveGlobal_eq_ok_iff_collected : resolveGlobal document known = .ok schemes ↔
    (∀ name, document.Requires name → name ∈ known.map SecurityDefinition.name) ∧
      Collected document.security.flatten schemes := by
  rw [resolveGlobal_eq_foldlM, Document.forall_requires_iff]
  constructor
  · exact collected_of_foldlM
  · rintro ⟨hknown, hfacts⟩
    obtain ⟨collected, hcollected, hsame⟩ := exists_collected hknown
    rw [hcollected, hfacts.eq hsame]

theorem exists_resolveGlobal_iff : (∃ schemes, resolveGlobal document known = .ok schemes) ↔
    ∀ name, document.Requires name → name ∈ known.map SecurityDefinition.name := by
  constructor
  · rintro ⟨schemes, hschemes⟩
    exact (resolveGlobal_eq_ok_iff_collected.mp hschemes).1
  · intro hknown
    obtain ⟨schemes, hschemes, -⟩ := exists_collected (Document.forall_requires_iff.mp hknown)
    exact ⟨schemes, (resolveGlobal_eq_foldlM document known).trans hschemes⟩

theorem resolveGlobal_eq_error_iff_firstMissing : resolveGlobal document known = .error error ↔
    ∃ name, error = .unresolvedScheme name ∧ document.FirstMissing known name := by
  have hreported {name : String} (h : document.FirstMissing known name) :
      resolveGlobal document known = .error (.unresolvedScheme name) := by
    obtain ⟨before, scopes, after, hsplit, hname, hbefore⟩ := Document.firstMissing_iff.mp h
    rw [resolveGlobal_eq_foldlM, hsplit]
    exact foldlM_collect_eq_error hbefore hname
  constructor
  · intro h
    have hunknown : ∃ entry ∈ document.security.flatten,
        entry.1 ∉ known.map SecurityDefinition.name := by
      by_contra hnone
      simp only [not_exists, not_and, not_not] at hnone
      obtain ⟨schemes, hschemes⟩ :=
        exists_resolveGlobal_iff.mpr (Document.forall_requires_iff.mpr hnone)
      rw [h] at hschemes
      cases hschemes
    obtain ⟨before, ⟨name, scopes⟩, after, hsplit, hbefore, hname⟩ :=
      exists_split_at_first hunknown
    have hmissing : document.FirstMissing known name := Document.firstMissing_iff.mpr
      ⟨before, scopes, after, hsplit, hname, fun other hother => not_not.mp (hbefore other hother)⟩
    rw [hreported hmissing] at h
    exact ⟨name, (Except.error.inj h).symm, hmissing⟩
  · rintro ⟨name, rfl, hmissing⟩
    exact hreported hmissing

/-- **Required schemes are resolved in step with their names.**  For every document and definitions,
such as the ones of its declared keys,

* the required schemes are resolved exactly if each of them is among the definitions;
* they are then the noted names, each with the scopes of the first requirement that lists it;
* otherwise the first unknown one is reported, in the order of the requirements and of the schemes
  in each.

The noted names are all required ones, without repetition, in the order in which they come first. -/
theorem schemes_resolved_in_step (document : Document) (known : List SecurityDefinition) :
    ((∃ schemes, resolveGlobal document known = .ok schemes) ↔
      ∀ name, document.Requires name → ∃ definition ∈ known, definition.name = name) ∧
    (∀ schemes, resolveGlobal document known = .ok schemes ↔
      (∀ name, document.Requires name → ∃ definition ∈ known, definition.name = name) ∧
      schemes.map GlobalScheme.name = requirementNames document.security ∧
      ∀ scheme ∈ schemes, document.FirstRequires scheme.name scheme.scopes) ∧
    (∀ error, resolveGlobal document known = .error error ↔
      ∃ name, error = .unresolvedScheme name ∧ document.FirstMissing known name) ∧
    (requirementNames document.security).Nodup ∧
    (∀ name, name ∈ requirementNames document.security ↔ document.Requires name) ∧
    (requirementNames document.security).Pairwise fun earlier later =>
      (document.security.flatten.map Prod.fst).idxOf earlier <
        (document.security.flatten.map Prod.fst).idxOf later := by
  simp only [← List.mem_map]
  refine ⟨exists_resolveGlobal_iff, fun schemes => ?_,
    fun _ => resolveGlobal_eq_error_iff_firstMissing, ?_⟩
  · rw [resolveGlobal_eq_ok_iff_collected, requirementNames_eq_foldl]
    refine and_congr_right fun _ => ⟨fun h => ⟨h.names, fun scheme hscheme => ?_⟩, fun h => ?_⟩
    · exact Document.firstRequires_iff.mpr (h.scopes scheme hscheme)
    · exact ⟨h.1, fun scheme hscheme => Document.firstRequires_iff.mp (h.2 scheme hscheme)⟩
  · rw [requirementNames_eq_eraseDups]
    refine ⟨nodup_eraseDups _, fun name => ?_, pairwise_eraseDups _⟩
    rw [List.mem_eraseDups, Document.requires_iff]

end Security

namespace Sample

/-- The definitions of the keys that open the gate. -/
def gateKeys : List SecurityDefinition :=
  [⟨"badge", "badge", .queryKey⟩, ⟨"token", "Authorization", .headerBearer⟩]

/-- The gate with two requirements, which list the same schemes in different orders. -/
def guardedGate : Document :=
  { gate with security :=
      [[("token", ["enter"]), ("badge", ["leave"])], [("badge", ["enter"]), ("token", [])]] }

/-- The gate with a requirement of a password behind the others. -/
def lockedGate : Document :=
  { gate with security := guardedGate.security ++ [[("badge", []), ("password", [])]] }

/-- The token and the badge are resolved once, with the scopes of the first requirement.  The
password is no key, and it is reported although the badge before it has been resolved already. -/
theorem gate_resolved : Security.definitions guardedGate = .ok gateKeys ∧
    guardedGate.FirstRequires "badge" ["leave"] ∧ lockedGate.FirstMissing gateKeys "password" := by
  obtain ⟨-, hresolved, -⟩ := Security.schemes_resolved_in_step guardedGate gateKeys
  obtain ⟨-, -, hreported, -⟩ := Security.schemes_resolved_in_step lockedGate gateKeys
  have hschemes : Security.resolveGlobal guardedGate gateKeys =
      .ok [⟨"token", ["enter"]⟩, ⟨"badge", ["leave"]⟩] := by rfl
  have hmissing : Security.resolveGlobal lockedGate gateKeys =
      .error (.unresolvedScheme "password") := by rfl
  refine ⟨by rfl, ?_, ?_⟩
  · exact ((hresolved _).mp hschemes).2.2 ⟨"badge", ["leave"]⟩ (by decide)
  · obtain ⟨name, hname, hfirst⟩ := (hreported _).mp hmissing
    cases hname
    exact hfirst

end Sample

end ResourceGraph
