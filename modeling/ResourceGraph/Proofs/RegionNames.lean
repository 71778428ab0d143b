import ResourceGraph.Proofs.Lists
import ResourceGraph.Proofs.RegionFault

/-!
# Decoding lists of regions

What a document declares as the regions of a keyword is decoded in three steps, and each of them
is described here without the function that takes it.

* `Extensions.Declares`: the first extension whose name is the wanted one, up to case, has the
  value.
* `Region.Tokens`: the value falls into tokens, a text at its commas and a list into its items.
* `Text.Surrounds`: a name is what is left of a token without the blank characters around it.

A list of regions is refused for one of three reasons, or else decoded to its names
(`Region.resolve_decodes`).  There is a fourth reason, which no error reports: an integer in the
list may be too long to be written.
-/

namespace ResourceGraph

/-! ## Extensions -/

namespace Extensions

/-- The first extension with a name, up to case, has a value. -/
def Declares (extensions : Extensions) (wanted : String) (value : Value) : Prop :=
  ∃ before name after, extensions = before ++ (name, value) :: after ∧
    Text.lower name = Text.lower wanted ∧
    ∀ entry ∈ before, Text.lower entry.1 ≠ Text.lower wanted

variable {extensions : Extensions} {wanted : String} {value : Value}

theorem lookup?_eq_some_iff : extensions.lookup? wanted = some value ↔
    extensions.Declares wanted value := by
  rw [lookup?, Option.map_eq_some_iff]
  constructor
  · rintro ⟨⟨name, _⟩, hfound, rfl⟩
    obtain ⟨hname, before, after, hextensions, hbefore⟩ := List.find?_eq_some_iff_append.mp hfound
    refine ⟨before, name, after, hextensions, beq_iff_eq.mp hname, fun entry hentry hsame => ?_⟩
    have hskipped := hbefore entry hentry
    rw [beq_iff_eq.mpr hsame] at hskipped
    cases hskipped
  · rintro ⟨before, name, after, hextensions, hname, hbefore⟩
    refine ⟨(name, value), List.find?_eq_some_iff_append.mpr ⟨beq_iff_eq.mpr hname, before, after,
      hextensions, fun entry hentry => ?_⟩, rfl⟩
    rw [beq_eq_false_iff_ne.mpr (hbefore entry hentry)]
    rfl

end Extensions

namespace Region

/-! ## Names in a value -/

/-- The tokens of a value: the pieces of a text between its commas, or the items of a list as they
are written.  Other values have none. -/
inductive Tokens : Value → List String → Prop
  | text {tokens : List String} (hne : tokens ≠ [])
      (hcommas : ∀ token ∈ tokens, ',' ∉ token.toList) :
      Tokens (.text (",".intercalate tokens)) tokens
  | list (items : List Value) : Tokens (.list items) (items.map Value.shown)
  | other {value : Value} (htext : value.asText? = none) (hlist : ∀ items, value ≠ .list items) :
      Tokens value []

/-- Names are what is left of tokens, each without the blank characters around it. -/
def TrimTo (tokens names : List String) : Prop :=
  List.Forall₂ (fun token name => Text.Surrounds Text.isBlank token.toList name.toList) tokens names

/-- A value lists names: they are its tokens but for the blank characters around them. -/
def Lists (value : Value) (names : List String) : Prop :=
  ∃ tokens, Tokens value tokens ∧ TrimTo tokens names

variable {keyword text : String} {extensions : Extensions} {value : Value}
  {names tokens : List String}

theorem trimTo_iff : TrimTo tokens names ↔ tokens.map Text.trim = names := by
  simp only [TrimTo, ← Text.trim_eq_iff]
  rw [← List.forall₂_map_left_iff (R := Eq), List.forall₂_eq_eq_eq]

theorem tokens_text_iff :
    Tokens (.text text) tokens ↔ (text.toList.splitOn ',').map String.ofList = tokens := by
  have hcomma : ",".toList = [','] := rfl
  constructor
  · intro h
    generalize hvalue : Value.text text = value at h
    cases h with
    | text hne hcommas =>
        cases hvalue
        have hpieces : ∀ piece ∈ tokens.map String.toList, ',' ∉ piece :=
          List.forall_mem_map.mpr hcommas
        rw [String.toList_intercalate, hcomma,
          List.splitOn_intercalate _ hpieces (by simpa using hne), List.map_map]
        simp
    | list items => cases hvalue
    | other htext hlist =>
        subst hvalue
        cases htext
  · rintro rfl
    have htext : ",".intercalate ((text.toList.splitOn ',').map String.ofList) = text := by
      rw [← String.toList_inj, String.toList_intercalate, hcomma, List.map_map]
      simp [List.intercalate_splitOn]
    have htokens : Tokens (.text (",".intercalate ((text.toList.splitOn ',').map String.ofList)))
        ((text.toList.splitOn ',').map String.ofList) := by
      refine .text ?_ (List.forall_mem_map.mpr fun piece hpiece hmem => ?_)
      · rw [ne_eq, List.map_eq_nil_iff]
        exact List.splitOn_ne_nil ',' text.toList
      · rw [String.toList_ofList] at hmem
        exact (ne_and_mem_of_mem_splitOn hpiece hmem).1 rfl
    rwa [htext] at htokens

/-- **The names that a value lists** are those that are read from it. -/
theorem lists_iff : Lists value names ↔ namesOf value = names := by
  have htokens {tokens : List String} (hall : ∀ other, Tokens value other ↔ tokens = other) :
      Lists value names ↔ tokens.map Text.trim = names := by
    unfold Lists
    simp only [hall, trimTo_iff]
    exact exists_eq_left'
  unfold namesOf
  split
  · exact htokens fun other => tokens_text_iff
  · next items =>
      refine htokens fun other => ⟨fun h => ?_, ?_⟩
      · cases h with
        | list => rfl
        | other htext hlist => exact absurd rfl (hlist items)
      · rintro rfl
        exact .list items
  · next htext hlist =>
      refine htokens fun other => ⟨fun h => ?_, ?_⟩
      · cases h with
        | text hne hcommas => exact absurd rfl (htext _)
        | list items => exact absurd rfl (hlist items)
        | other _ _ => rfl
      · rintro rfl
        refine .other ?_ hlist
        unfold Value.asText?
        split
        · next found => exact absurd rfl (htext found)
        · rfl

/-! ## What a list of regions decodes to -/

theorem exists_value_of_resolve_eq_ok (h : resolve keyword extensions = .ok names) :
    ∃ value, extensions.lookup? (Extension.regionsName keyword) = some value ∧
      value.isWritable = true ∧ namesOf value = names ∧ "" ∉ names := by
  unfold resolve at h
  simp only at h
  split at h
  · cases h
  next value hvalue =>
  split at h
  · cases h
  next hwritable =>
  split at h
  · cases h
  split at h
  · cases h
  next hsolid =>
  split at h
  · cases h
  · cases h
    exact ⟨value, hvalue, by simpa using hwritable, rfl, mt any_isEmpty_iff.mpr hsolid⟩

/-- **The regions of a keyword are the names that are listed**, at least one, none of them blank
and no two the same. -/
theorem resolve_eq_ok_iff : resolve keyword extensions = .ok names ↔
    ∃ value, extensions.lookup? (Extension.regionsName keyword) = some value ∧
      value.isWritable = true ∧ namesOf value = names ∧ names ≠ [] ∧ "" ∉ names ∧ names.Nodup := by
  constructor
  · intro h
    obtain ⟨value, hvalue, hwritable, hnames, hsolid⟩ := exists_value_of_resolve_eq_ok h
    obtain ⟨hne, hnodup⟩ := resolve_eq_ok h
    exact ⟨value, hvalue, hwritable, hnames, hne, hsolid, hnodup⟩
  · rintro ⟨value, hvalue, hwritable, rfl, hne, hsolid, hnodup⟩
    have hsame {other : Value}
        (hother : extensions.lookup? (Extension.regionsName keyword) = some other) :
        other = value :=
      Option.some.inj (hother.symm.trans hvalue)
    cases hresult : resolve keyword extensions with
    | ok found =>
        obtain ⟨other, hother, -, rfl, -⟩ := exists_value_of_resolve_eq_ok hresult
        rw [hsame hother]
    | error error =>
        -- nothing is wrong with the list
        cases resolve_eq_error_iff.mp hresult with
        | missing hnone => cases hnone.symm.trans hvalue
        | unwritable hother hlong =>
            rw [hsame hother, hwritable] at hlong
            cases hlong
        | empty hother _ hblank =>
            rw [hsame hother] at hblank
            obtain ⟨name, hname⟩ := List.exists_mem_of_ne_nil _ hne
            exact absurd (hblank name hname ▸ hname) hsolid
        | blank hother _ _ hblank =>
            rw [hsame hother] at hblank
            exact absurd hblank hsolid
        | repeated hother _ _ hrepeated =>
            rw [hsame hother] at hrepeated
            exact absurd hnodup hrepeated

/-- A list of regions with a blank or a repeated name. -/
inductive InvalidList (keyword : String) : AnalysisError → Prop
  | blank (shown : String) :
      InvalidList keyword (.blankRegion keyword (Extension.regionsName keyword) shown)
  | duplicated (names : List String) :
      InvalidList keyword (.duplicatedRegions keyword (Extension.regionsName keyword) names)

theorem resolve_eq_missing_iff :
    resolve keyword extensions = .error (.missingRegions keyword (Extension.regionsName keyword)) ↔
      extensions.lookup? (Extension.regionsName keyword) = none := by
  rw [resolve_eq_error_iff]
  constructor
  · intro h
    cases h with
    | missing hnone => exact hnone
  · exact .missing

theorem exists_resolve_eq_empty_iff :
    (∃ shown, resolve keyword extensions =
        .error (.emptyRegions keyword (Extension.regionsName keyword) shown)) ↔
      ∃ value, extensions.lookup? (Extension.regionsName keyword) = some value ∧
        value.isWritable = true ∧ ∀ name ∈ namesOf value, name = "" := by
  simp only [resolve_eq_error_iff]
  constructor
  · rintro ⟨shown, h⟩
    cases h with
    | empty hvalue hwritable hblank => exact ⟨_, hvalue, hwritable, hblank⟩
  · rintro ⟨value, hvalue, hwritable, hblank⟩
    exact ⟨value.shown, .empty hvalue hwritable hblank⟩

theorem exists_resolve_eq_invalid_iff :
    (∃ error, resolve keyword extensions = .error error ∧ InvalidList keyword error) ↔
      ∃ value, extensions.lookup? (Extension.regionsName keyword) = some value ∧
        value.isWritable = true ∧ (∃ name ∈ namesOf value, name ≠ "") ∧
        ("" ∈ namesOf value ∨ ¬ (namesOf value).Nodup) := by
  simp only [resolve_eq_error_iff]
  constructor
  · rintro ⟨error, h, hinvalid⟩
    cases hinvalid with
    | blank shown =>
        cases h with
        | blank hvalue hwritable hsome hblank =>
            exact ⟨_, hvalue, hwritable, hsome, Or.inl hblank⟩
    | duplicated names =>
        cases h with
        | @repeated value hvalue hwritable hsolid hrepeated =>
            -- a repeated name is there, and it is not the blank one
            have hne : namesOf value ≠ [] := by
              intro hnil
              rw [hnil] at hrepeated
              exact hrepeated List.nodup_nil
            obtain ⟨name, hname⟩ := List.exists_mem_of_ne_nil _ hne
            refine ⟨value, hvalue, hwritable, ⟨name, hname, ?_⟩, Or.inr hrepeated⟩
            rintro rfl
            exact hsolid hname
  · rintro ⟨value, hvalue, hwritable, hsome, hcases⟩
    by_cases hblank : "" ∈ namesOf value
    · exact ⟨_, .blank hvalue hwritable hsome hblank, .blank _⟩
    · have hrepeated := hcases.resolve_left hblank
      exact ⟨_, .repeated hvalue hwritable hblank hrepeated, .duplicated _⟩

theorem resolve_eq_unwritable_iff :
    resolve keyword extensions = .error .unwritableRegions ↔
      ∃ value, extensions.lookup? (Extension.regionsName keyword) = some value ∧
        value.isWritable = false := by
  rw [resolve_eq_error_iff]
  constructor
  · intro h
    cases h with
    | unwritable hvalue hlong => exact ⟨_, hvalue, hlong⟩
  · rintro ⟨value, hvalue, hlong⟩
    exact .unwritable hvalue hlong

/-- Names with blank characters around them and commas between them are listed. -/
theorem lists_intercalate (hne : names ≠ []) (hcommas : ∀ name ∈ names, ',' ∉ name.toList)
    (htokens : TrimTo tokens names) :
    Lists (.text (",".intercalate tokens)) names := by
  refine ⟨tokens, .text ?_ fun token htoken hcomma => ?_, htokens⟩
  · rintro rfl
    cases htokens
    exact hne rfl
  · obtain ⟨name, hname, hsurrounds⟩ := exists_of_mem_left htokens htoken
    obtain ⟨before, after, hsplit, hbefore, hafter⟩ := hsurrounds.around
    have hblank : Text.isBlank ',' = false := by decide
    rw [hsplit, List.mem_append, List.mem_append] at hcomma
    rcases hcomma with (hmem | hmem) | hmem
    · rw [hbefore ',' hmem] at hblank
      cases hblank
    · exact hcommas name hname hmem
    · rw [hafter ',' hmem] at hblank
      cases hblank

/-- **What a list of regions decodes to.**  For a keyword and the extensions of a document,

* the regions are names exactly if these are listed by the value of the extension, at least one,
  none of them blank and no two the same;
* the extension is missing, the list is empty or it is invalid exactly if no extension has the
  name, all listed names are blank, or some are not, but one is blank or repeated;
* the only other way to fail is that the value has an integer that is too long to be written.

Names without commas and blank ends are listed by a text that has commas between them and any
blank characters around them, so they are decoded from it. -/
theorem resolve_decodes (keyword : String) (extensions : Extensions) :
    (∀ names, resolve keyword extensions = .ok names ↔
      ∃ value, extensions.Declares (Extension.regionsName keyword) value ∧
        value.isWritable = true ∧ Lists value names ∧ names ≠ [] ∧ "" ∉ names ∧ names.Nodup) ∧
    (resolve keyword extensions = .error (.missingRegions keyword (Extension.regionsName keyword)) ↔
      ∀ value, ¬ extensions.Declares (Extension.regionsName keyword) value) ∧
    ((∃ shown, resolve keyword extensions =
        .error (.emptyRegions keyword (Extension.regionsName keyword) shown)) ↔
      ∃ value names, extensions.Declares (Extension.regionsName keyword) value ∧
        value.isWritable = true ∧ Lists value names ∧ ∀ name ∈ names, name = "") ∧
    ((∃ error, resolve keyword extensions = .error error ∧ InvalidList keyword error) ↔
      ∃ value names, extensions.Declares (Extension.regionsName keyword) value ∧
        value.isWritable = true ∧ Lists value names ∧ (∃ name ∈ names, name ≠ "") ∧
        ("" ∈ names ∨ ¬ names.Nodup)) ∧
    (resolve keyword extensions = .error .unwritableRegions ↔
      ∃ value, extensions.Declares (Extension.regionsName keyword) value ∧
        value.isWritable = false) ∧
    ∀ tokens names, names ≠ [] → names.Nodup → (∀ name ∈ names, name ≠ "" ∧ ',' ∉ name.toList) →
      TrimTo tokens names →
      extensions.Declares (Extension.regionsName keyword) (.text (",".intercalate tokens)) →
      resolve keyword extensions = .ok names := by
  have hlists (value : Value) (holds : List String → Prop) :
      (∃ names, Lists value names ∧ holds names) ↔ holds (namesOf value) := by
    simp only [lists_iff]
    exact exists_eq_left'
  simp only [exists_and_left, hlists, ← Extensions.lookup?_eq_some_iff]
  refine ⟨fun names => ?_, ?_, exists_resolve_eq_empty_iff, exists_resolve_eq_invalid_iff,
    resolve_eq_unwritable_iff, fun tokens names hne hnodup hnames htokens hvalue => ?_⟩
  · simp only [lists_iff]
    exact resolve_eq_ok_iff
  · rw [resolve_eq_missing_iff, Option.eq_none_iff_forall_ne_some]
  · have hlisted : Lists (.text (",".intercalate tokens)) names :=
      lists_intercalate hne (fun name hname => (hnames name hname).2) htokens
    refine resolve_eq_ok_iff.mpr
      ⟨_, hvalue, rfl, lists_iff.mp hlisted, hne, fun hblank => ?_, hnodup⟩
    exact (hnames "" hblank).1 rfl

end Region

/-! ## The regions of some quays -/

namespace Sample

/-- The extensions of a document that lists the regions of its quays. -/
def quayRegions (value : Value) : Extensions :=
  [("x-terraform-id", .text "quay"), ("X-Terraform-Resource-Regions-Region", value)]

theorem quayRegions_declares (value : Value) :
    (quayRegions value).Declares (Extension.regionsName "region") value := by
  refine ⟨[("x-terraform-id", .text "quay")], _, [], rfl, by decide +kernel, fun entry hentry => ?_⟩
  rw [List.mem_singleton.mp hentry]
  decide +kernel

/-- Two regions are decoded from a text with blank characters around them, and a region that is
listed twice is refused. -/
theorem quayRegions_decodes :
    (quayRegions (.text " us ,eu\t")).Declares (Extension.regionsName "region")
        (.text " us ,eu\t") ∧
      Region.resolve "region" (quayRegions (.text " us ,eu\t")) = .ok ["us", "eu"] ∧
      ∃ error, Region.resolve "region" (quayRegions (.text "us, us")) = .error error ∧
        Region.InvalidList "region" error := by
  obtain ⟨-, -, -, -, -, hdecoded⟩ :=
    Region.resolve_decodes "region" (quayRegions (.text " us ,eu\t"))
  obtain ⟨-, -, -, hinvalid, -⟩ := Region.resolve_decodes "region" (quayRegions (.text "us, us"))
  have hjoined : ",".intercalate [" us ", "eu\t"] = " us ,eu\t" := by decide +kernel
  have hlisted : Region.Lists (.text "us, us") ["us", "us"] :=
    Region.lists_iff.mpr (by decide +kernel)
  refine ⟨quayRegions_declares _, hdecoded [" us ", "eu\t"] ["us", "eu"] (by decide) (by decide)
    (by decide +kernel) (Region.trimTo_iff.mpr (by decide +kernel)) ?_, ?_⟩
  · rw [hjoined]
    exact quayRegions_declares _
  · exact hinvalid.mpr ⟨.text "us, us", ["us", "us"], quayRegions_declares _, rfl, hlisted,
      ⟨"us", by decide, by decide⟩, Or.inr (by decide)⟩

/-- **A list of regions may be neither decoded nor refused for what it lists.**  Its region is an
integer that is too long to be written. -/
theorem exists_undecoded : ¬ ∀ (keyword : String) (extensions : Extensions),
    (∃ names, Region.resolve keyword extensions = .ok names) ∨
    Region.resolve keyword extensions =
      .error (.missingRegions keyword (Extension.regionsName keyword)) ∨
    (∃ shown, Region.resolve keyword extensions =
      .error (.emptyRegions keyword (Extension.regionsName keyword) shown)) ∨
    ∃ error, Region.resolve keyword extensions = .error error ∧
      Region.InvalidList keyword error := by
  intro hall
  have hvalue := Extensions.lookup?_eq_some_iff.mpr
    (quayRegions_declares (.list [.scalar (.int Number.leastLong)]))
  have hresult : Region.resolve "region" (quayRegions (.list [.scalar (.int Number.leastLong)])) =
      .error .unwritableRegions :=
    Region.resolve_eq_unwritable_iff.mpr ⟨_, hvalue, by decide +kernel⟩
  rcases hall "region" (quayRegions (.list [.scalar (.int Number.leastLong)])) with
    ⟨names, hnames⟩ | hmissing | ⟨shown, hempty⟩ | ⟨error, herror, hinvalid⟩
  · cases hresult.symm.trans hnames
  · cases hresult.symm.trans hmissing
  · cases hresult.symm.trans hempty
  · cases hresult.symm.trans herror
    cases hinvalid

end Sample

end ResourceGraph
