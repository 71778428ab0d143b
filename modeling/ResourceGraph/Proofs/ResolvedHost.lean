import ResourceGraph.Proofs.RegionalCopy

/-!
# Hosts of copies

A copy of a resource in a region should have a host without a placeholder.  The region is put in the
place of one placeholder, once and as it is written, and this can leave another one for two reasons
(`Placeholder.Reopens`): the placeholder stood within the braces of what would be a placeholder
itself, as in `a.${${region}}.b`, or the region has a dollar sign or a brace of its own.  The host
of a copy then has a keyword again, whose regions nobody has asked for.

For regions without such characters a placeholder of the new host has nowhere to begin or to end but
in the text around the region (`mark_around`), so it encloses the region (`standsIn_insert`).
-/

namespace ResourceGraph

namespace Region

/-! ## A region between two texts -/

/-- A character that a region does not have stands before the region or after it. -/
theorem mark_around {mark : Char} {front back before region after : List Char}
    (hmark : mark ∉ region) (h : front ++ mark :: back = before ++ region ++ after) :
    (∃ rest, before = front ++ mark :: rest ∧ back = rest ++ region ++ after) ∨
      ∃ rest, front = before ++ region ++ rest ∧ after = rest ++ mark :: back := by
  rw [List.append_assoc, List.append_eq_append_iff] at h
  rcases h with ⟨middle, rfl, hmiddle⟩ | ⟨middle, rfl, hmiddle⟩
  · rcases List.cons_eq_append_iff.mp hmiddle with ⟨rfl, hregion⟩ | ⟨rest, rfl, hback⟩
    · -- the region would begin with the mark, so it is empty
      rcases List.append_eq_cons_iff.mp hregion with ⟨rfl, hafter⟩ | ⟨rest, rfl, -⟩
      · exact Or.inr ⟨[], by simp, hafter⟩
      · exact absurd (List.mem_cons_self ..) hmark
    · exact Or.inl ⟨rest, rfl, by rw [hback, List.append_assoc]⟩
  · rcases List.append_eq_append_iff.mp hmiddle with ⟨rest, rfl, hafter⟩ | ⟨rest, rfl, hback⟩
    · exact Or.inr ⟨rest, by simp, hafter⟩
    · rcases List.cons_eq_append_iff.mp hback with ⟨rfl, hafter⟩ | ⟨tail, rfl, -⟩
      · exact Or.inr ⟨[], by simp, hafter⟩
      · simp at hmark

/-- A text splits in one way at the first occurrence of a mark. -/
theorem append_mark_inj {mark : Char} {front front' back back' : List Char} (hfront : mark ∉ front)
    (hfront' : mark ∉ front') (h : front ++ mark :: back = front' ++ mark :: back') :
    front = front' ∧ back = back' := by
  rcases List.append_eq_append_iff.mp h with ⟨middle, rfl, hmiddle⟩ | ⟨middle, rfl, hmiddle⟩
  · rcases List.cons_eq_append_iff.mp hmiddle with ⟨rfl, hback⟩ | ⟨rest, rfl, -⟩
    · exact ⟨by simp, (List.cons.inj hback).2.symm⟩
    · simp at hfront'
  · rcases List.cons_eq_append_iff.mp hmiddle with ⟨rfl, hback⟩ | ⟨rest, rfl, -⟩
    · exact ⟨by simp, (List.cons.inj hback).2⟩
    · simp at hfront

theorem Plain.not_mem {characters : List Char} (h : Plain characters) :
    '$' ∉ characters ∧ '{' ∉ characters ∧ '}' ∉ characters := by
  refine ⟨fun hmem => ?_, fun hmem => ?_, fun hmem => ?_⟩
  all_goals exact absurd (h _ hmem) (by decide)

theorem plain_append {first second : List Char} :
    Plain (first ++ second) ↔ Plain first ∧ Plain second := List.forall_mem_append

namespace Placeholder

/-- A placeholder encloses a region between two texts: it begins in the text before the region and
ends in the one after it. -/
def Encloses (outer : Placeholder) (before region after : List Char) : Prop :=
  ∃ opening closing, before = outer.before ++ '$' :: '{' :: opening ∧
    after = closing ++ '}' :: outer.after ∧ outer.keyword = opening ++ region ++ closing

variable {placeholder outer : Placeholder} {host before region after : List Char}

/-- **A placeholder around a plain region.**  Where neither of two texts has a placeholder, the only
ones that a plain region makes between them enclose it. -/
theorem standsIn_insert (hne : region ≠ []) (hregion : Plain region)
    (hbefore : ∀ other : Placeholder, ¬ other.StandsIn before)
    (hafter : ∀ other : Placeholder, ¬ other.StandsIn after) :
    outer.StandsIn (before ++ region ++ after) ↔
      outer.Encloses before region after ∧ Plain outer.keyword := by
  obtain ⟨hdollar, hopening, hclosing⟩ := hregion.not_mem
  constructor
  · rintro ⟨htext, hkeyword, hplain⟩
    refine ⟨?_, hplain⟩
    have hdollars : outer.before ++ '$' :: ('{' :: outer.keyword ++ '}' :: outer.after) =
        before ++ region ++ after := by
      rw [htext, text]
      simp
    rcases mark_around hdollar hdollars with ⟨rest, rfl, hrest⟩ | ⟨rest, -, rfl⟩
    · rcases mark_around hclosing hrest with ⟨tail, rfl, -⟩ | ⟨closing, hkey, rfl⟩
      · -- the placeholder would end before the region
        exact absurd ⟨by simp [text], hkeyword, hplain⟩
          (hbefore ⟨outer.before, outer.keyword, tail⟩)
      · rw [List.append_assoc] at hkey
        rcases List.cons_eq_append_iff.mp hkey with ⟨-, hbrace⟩ | ⟨opening, rfl, hinner⟩
        · -- the region would begin with a brace
          rcases List.append_eq_cons_iff.mp hbrace with ⟨hnil, -⟩ | ⟨tail, rfl, -⟩
          · exact absurd hnil hne
          · exact absurd (List.mem_cons_self ..) hopening
        · exact ⟨opening, closing, rfl, rfl, by rw [hinner, List.append_assoc]⟩
    · -- the placeholder would begin after the region
      exact absurd ⟨by simp [text], hkeyword, hplain⟩
        (hafter ⟨rest, outer.keyword, outer.after⟩)
  · rintro ⟨⟨opening, closing, rfl, rfl, hkey⟩, hplain⟩
    refine ⟨by simp [text, hkey], ?_, hplain⟩
    rw [hkey]
    simp [hne]

/-- Only one placeholder encloses a region. -/
theorem Encloses.unique {other : Placeholder} (houter : outer.Encloses before region after)
    (hplain : Plain outer.keyword) (hother : other.Encloses before region after)
    (hplain' : Plain other.keyword) : other = outer := by
  obtain ⟨opening, closing, rfl, rfl, hkey⟩ := houter
  obtain ⟨opening', closing', hbefore, hafter, hkey'⟩ := hother
  rw [hkey, plain_append, plain_append] at hplain
  rw [hkey', plain_append, plain_append] at hplain'
  -- the text before is split at its last dollar sign, the one after at its first closing brace
  have hlast : (opening.reverse ++ ['{']) ++ '$' :: outer.before.reverse =
      (opening'.reverse ++ ['{']) ++ '$' :: other.before.reverse := by
    simpa using congrArg List.reverse hbefore
  obtain ⟨hopening, hfront⟩ := append_mark_inj (by simp [hplain.1.1.not_mem.1])
    (by simp [hplain'.1.1.not_mem.1]) hlast
  obtain ⟨hclosing, hback⟩ :=
    append_mark_inj hplain.2.not_mem.2.2 hplain'.2.not_mem.2.2 hafter
  have hopening : opening = opening' := by simpa using hopening
  have hfront : outer.before = other.before := by simpa using hfront
  have hkeyword : other.keyword = outer.keyword := by rw [hkey, hkey', hopening, hclosing]
  cases outer
  cases other
  rw [Placeholder.mk.injEq]
  exact ⟨hfront.symm, hkeyword, hback.symm⟩

/-! ## Regions that leave a placeholder -/

/-- A placeholder stands within the braces of what would be a placeholder itself. -/
def Nested (placeholder : Placeholder) : Prop :=
  ∃ front opening closing back, placeholder.before = front ++ '$' :: '{' :: opening ∧
    placeholder.after = closing ++ '}' :: back ∧ Plain opening ∧ Plain closing

/-- A host has a keyword again after a region has taken the place of its placeholder. -/
inductive Reopens (placeholder : Placeholder) (region : List Char) : Prop
  /-- The placeholder was nested, and the one around it now has a keyword. -/
  | enclosed {outer : Placeholder} (hregion : Plain region)
      (hencloses : outer.Encloses placeholder.before region placeholder.after)
      (hplain : Plain outer.keyword) (hbefore : Solid outer.before)
      (hkeyword : Solid outer.keyword) (hafter : SolidBeforeFeed outer.after)
  /-- The region has a dollar sign or a brace, and makes a placeholder with the text around it. -/
  | marked {other : Placeholder} (hregion : ¬ Plain region)
      (hserves : other.Serves (placeholder.before ++ region ++ placeholder.after))

/-- No placeholder stands in the text before the only one of a host. -/
theorem Serves.not_standsIn_before (h : placeholder.Serves host) (other : Placeholder) :
    ¬ other.StandsIn placeholder.before := by
  rintro ⟨htext, hne, hplain⟩
  have hsame := h.unique ⟨other.before, other.keyword,
    other.after ++ '$' :: '{' :: placeholder.keyword ++ '}' :: placeholder.after⟩
    ⟨by rw [h.stands.text_eq, text, htext]; simp [text], hne, hplain⟩
  have hlength := congrArg List.length htext
  rw [← hsame] at hlength
  simp [text] at hlength

/-- No placeholder stands in the text after the only one of a host. -/
theorem Serves.not_standsIn_after (h : placeholder.Serves host) (other : Placeholder) :
    ¬ other.StandsIn placeholder.after := by
  rintro ⟨htext, hne, hplain⟩
  have hsame := h.unique ⟨placeholder.before ++ '$' :: '{' :: placeholder.keyword ++
    '}' :: other.before, other.keyword, other.after⟩
    ⟨by rw [h.stands.text_eq, text, htext]; simp [text], hne, hplain⟩
  have hlength := congrArg List.length htext
  rw [← hsame] at hlength
  simp [text] at hlength
  omega

/-- **When a region leaves a placeholder.**  The new host serves several regions exactly if a
placeholder of it encloses the region, or the region has a dollar sign or a brace. -/
theorem Serves.exists_serves_insert_iff (h : placeholder.Serves host) (hne : region ≠ []) :
    (∃ other : Placeholder,
        other.Serves (placeholder.before ++ region ++ placeholder.after)) ↔
      placeholder.Reopens region := by
  by_cases hregion : Plain region
  · have hstands (outer : Placeholder) :
        outer.StandsIn (placeholder.before ++ region ++ placeholder.after) ↔
          outer.Encloses placeholder.before region placeholder.after ∧ Plain outer.keyword :=
      standsIn_insert hne hregion h.not_standsIn_before h.not_standsIn_after
    constructor
    · rintro ⟨outer, houter⟩
      obtain ⟨hencloses, hplain⟩ := (hstands outer).mp houter.stands
      exact .enclosed hregion hencloses hplain houter.before_solid houter.keyword_solid
        houter.after_solid
    · intro hreopens
      cases hreopens with
      | @enclosed outer _ hencloses hplain hbefore hkeyword hafter =>
          refine ⟨outer, (hstands outer).mpr ⟨hencloses, hplain⟩, ?_, hbefore, hkeyword, hafter⟩
          intro other hother
          obtain ⟨hother, hplain'⟩ := (hstands other).mp hother
          exact hencloses.unique hplain hother hplain'
      | marked hmarked => exact absurd hregion hmarked
  · constructor
    · rintro ⟨other, hserves⟩
      exact .marked hregion hserves
    · intro hreopens
      cases hreopens with
      | enclosed hplain => exact absurd hplain hregion
      | @marked other _ hserves => exact ⟨other, hserves⟩

/-- A plain region leaves no placeholder unless it takes the place of a nested one. -/
theorem nested_of_reopens (hregion : Plain region) (h : placeholder.Reopens region) :
    placeholder.Nested := by
  cases h with
  | @enclosed outer _ hencloses hplain =>
      obtain ⟨opening, closing, hbefore, hafter, hkey⟩ := hencloses
      rw [hkey, plain_append, plain_append] at hplain
      exact ⟨outer.before, opening, closing, outer.after, hbefore, hafter, hplain.1.1, hplain.2⟩
  | marked hmarked => exact absurd hregion hmarked

end Placeholder

/-- A host has no keyword after a region has been put in exactly if the region leaves no
placeholder. -/
theorem keyword?_substitute_eq_none_iff {host region : String} {placeholder : Placeholder}
    (h : placeholder.Serves host.toList) (hne : region ≠ "") :
    keyword? (substitute host region) = none ↔ ¬ placeholder.Reopens region.toList := by
  have hregion : region.toList ≠ [] := by simpa using hne
  rw [keyword?_eq_none_iff, h.substitute_eq, String.toList_ofList,
    ← h.exists_serves_insert_iff hregion, not_exists]

end Region

/-! ## Descriptors that are spread again -/

namespace ResourceDescriptor

variable {descriptor : ResourceDescriptor} {extensions : Extensions}

theorem inRegion_ne_self (descriptor : ResourceDescriptor) (region : String) :
    descriptor.inRegion region ≠ descriptor := by
  intro h
  have hname : descriptor.name ++ "_" ++ region = descriptor.name :=
    congrArg ResourceDescriptor.name h
  have hlength := congrArg String.length hname
  have hseparator : "_".length = 1 := rfl
  rw [String.length_append, String.length_append] at hlength
  omega

/-- **Spreading changes nothing** exactly where the host has no keyword. -/
theorem spread_eq_self_iff : descriptor.spread extensions = .ok [descriptor] ↔
    descriptor.host.bind Region.keyword? = none := by
  refine ⟨fun h => ?_, spread_of_keyword?_eq_none⟩
  by_contra hsome
  obtain ⟨keyword, hkeyword⟩ := Option.ne_none_iff_exists'.mp hsome
  rw [spread, Region.ofHost?, hkeyword] at h
  obtain ⟨found, hfound, hcopies⟩ := map_eq_ok.mp h
  obtain ⟨regions, -, rfl⟩ := map_eq_ok.mp hfound
  obtain ⟨region, others, -, hcopy, -⟩ := List.map_eq_cons_iff.mp hcopies
  exact descriptor.inRegion_ne_self region hcopy

end ResourceDescriptor

/-! ## Hosts of a run -/

/-- The regions of a document have no dollar signs and no braces. -/
def Document.PlainRegions (document : Document) : Prop :=
  ∀ keyword regions, Region.DeclaredFor regions keyword document.extensions →
    ∀ region ∈ regions, Region.Plain region.toList

/-- No candidate asks for a host in which a placeholder is nested. -/
def Document.FlatHosts (document : Document) : Prop :=
  ∀ path candidate, document.candidate path = .ok candidate →
    ∀ host, candidate.create.extensions.text? .resourceHost = some host →
      ∀ placeholder : Region.Placeholder, placeholder.Serves host.toList → ¬ placeholder.Nested

/-- A resource is a copy with a region that leaves a placeholder in the host of its candidate. -/
def ResourceDescriptor.Reopened (resource : ResourceDescriptor) (document : Document) : Prop :=
  ∃ (candidate : Candidate) (host : String) (placeholder : Region.Placeholder) (region : String),
    document.candidate resource.instancePath = .ok candidate ∧
      candidate.create.extensions.text? .resourceHost = some host ∧
      placeholder.Serves host.toList ∧ resource.region = some region ∧
      (∃ regions, Region.DeclaredFor regions (String.ofList placeholder.keyword)
        document.extensions ∧ region ∈ regions) ∧
      placeholder.Reopens region.toList

/-- The regions of a document are plain if those of all its extensions are. -/
theorem Document.plainRegions_of_forall {document : Document} (h : ∀ entry ∈ document.extensions,
    ∀ region ∈ Region.namesOf entry.2, Region.Plain region.toList) : document.PlainRegions := by
  rintro keyword regions ⟨⟨value, hvalue, rfl⟩, -, -, -⟩
  obtain ⟨entry, hentry, rfl⟩ := Option.map_eq_some_iff.mp hvalue
  exact h entry (List.mem_of_find?_eq_some hentry)

/-- A placeholder that has none of the openings of a placeholder before it is not nested. -/
theorem Document.flatHosts_of_forall {document : Document} (h : ∀ entry ∈ document.paths.sorted,
    ∀ create ∈ entry.2.post, ∀ host ∈ create.extensions.text? .resourceHost,
      ∀ placeholder ∈ Region.placeholders host.toList, ¬ ['$', '{'] <:+: placeholder.before) :
    document.FlatHosts := by
  rintro path candidate hcandidate host hhost placeholder hserves
    ⟨front, opening, -, -, hbefore, -⟩
  obtain ⟨-, -, hdeclared⟩ := candidate_eq_ok hcandidate
  refine h ⟨_, _⟩ (Table.mem_sorted.mpr hdeclared.root) _ hdeclared.create host hhost placeholder
    (Region.mem_placeholders_iff.mpr hserves.stands) ⟨front, opening, ?_⟩
  simp [hbefore]

section Run

variable {document : Document} {selection : Selection} {findings : Findings}
  {resource : ResourceDescriptor}

/-- The host of a resource has a keyword exactly if its region has left a placeholder. -/
theorem Document.keyword?_eq_none_iff (h : document.resources selection = .ok findings)
    (hmem : resource ∈ findings.resources) :
    resource.host.bind Region.keyword? = none ↔ ¬ resource.Reopened document := by
  obtain ⟨accepted, houtcome, haccepted, -⟩ := exists_accepted_of_mem_resources h hmem
  obtain ⟨descriptor, hdescriptor, hspread⟩ := outcome_eq_accepted_iff.mp houtcome
  obtain ⟨candidate, hcandidate, hdescribed, -⟩ := resource_eq_ok_iff.mp hdescriptor
  obtain ⟨-, -, hhost, hregion⟩ := Candidate.descriptor_eq_ok_iff.mp hdescribed
  cases hkeyword : descriptor.host.bind Region.keyword? with
  | none =>
      cases hspread.symm.trans (ResourceDescriptor.spread_of_keyword?_eq_none hkeyword)
      obtain rfl := List.mem_singleton.mp haccepted
      refine iff_of_true hkeyword ?_
      rintro ⟨_, _, _, region, -, -, -, hsome, -⟩
      rw [hregion] at hsome
      cases hsome
  | some keyword =>
      obtain ⟨host, htext, hserved⟩ := Option.bind_eq_some_iff.mp hkeyword
      obtain ⟨placeholder, hserves, -⟩ := Region.keyword?_eq_some_iff.mp hserved
      obtain ⟨regions, hregions, rfl⟩ :=
        ResourceDescriptor.exists_regions_of_spread_eq_ok htext hserves hspread
      obtain ⟨region, hlisted, rfl⟩ := List.mem_map.mp haccepted
      have hne : region ≠ "" := by
        rintro rfl
        exact hregions.not_blank hlisted
      rw [ResourceDescriptor.copyAt, Option.bind_some, ← hserves.substitute_eq,
        Region.keyword?_substitute_eq_none_iff hserves hne, not_iff_not]
      constructor
      · intro hreopens
        exact ⟨candidate, host, placeholder, region, hcandidate, hhost ▸ htext, hserves, rfl,
          ⟨regions, hregions, hlisted⟩, hreopens⟩
      · rintro ⟨found, text, other, inserted, hfound, hwanted, hother, hinserted, -, hreopens⟩
        cases hfound.symm.trans hcandidate
        cases (hwanted.symm.trans hhost.symm).trans htext
        cases hinserted
        rwa [← hserves.unique other hother.stands]

/-- **When the hosts of a run have no placeholder left.**  The host of a resource has a keyword
exactly if the region of the resource has left a placeholder in the host of its candidate, and only
then does spreading the resource again change it.  So all hosts are resolved, and spreading the
result again gives the result, exactly if no region leaves a placeholder; in particular if no region
has a dollar sign or a brace and no candidate asks for a host with a nested placeholder. -/
theorem Document.hosts_resolved (h : document.resources selection = .ok findings) :
    (∀ resource ∈ findings.resources,
        (resource.host.bind Region.keyword? = none ↔ ¬ resource.Reopened document) ∧
        (resource.spread document.extensions = .ok [resource] ↔
          ¬ resource.Reopened document)) ∧
      ((findings.resources.mapM (fun resource => resource.spread document.extensions) =
          .ok (findings.resources.map fun resource => [resource])) ↔
        ∀ resource ∈ findings.resources, resource.host.bind Region.keyword? = none) ∧
      (document.PlainRegions → document.FlatHosts →
        ∀ resource ∈ findings.resources, resource.host.bind Region.keyword? = none) := by
  refine ⟨fun resource hmem => ⟨keyword?_eq_none_iff h hmem, ?_⟩, ?_, ?_⟩
  · rw [ResourceDescriptor.spread_eq_self_iff, keyword?_eq_none_iff h hmem]
  · rw [mapM_eq_ok_iff, List.forall₂_map_right_iff, List.forall₂_same]
    simp only [ResourceDescriptor.spread_eq_self_iff]
  · intro hplain hflat resource hmem
    rw [keyword?_eq_none_iff h hmem]
    rintro ⟨candidate, host, placeholder, region, hcandidate, hhost, hserves, -,
      ⟨regions, hregions, hlisted⟩, hreopens⟩
    have hregion := hplain _ regions hregions region hlisted
    exact hflat _ candidate hcandidate host hhost placeholder hserves
      (Region.Placeholder.nested_of_reopens hregion hreopens)

end Run

namespace Sample

/-- A placeholder that stands within the braces of another one. -/
def relayHost : String := "relays.$\x7b$\x7bregion\x7d\x7d.api"

/-- Ferries and relays in two regions. -/
def crossings : Document :=
  { paths := [("/v1/ferries",
        collection [("x-terraform-resource-host", .text "ferries.$\x7bregion\x7d.api")]),
      ("/v1/ferries/{id}", readable),
      ("/v1/relays", collection [("x-terraform-resource-host", .text relayHost)]),
      ("/v1/relays/{id}", readable)]
    extensions := [("x-terraform-resource-regions-region", .text "us, eu")] }

/-- The copies of the ferries have hosts without a keyword, those of the relays do not. -/
theorem exists_findings_crossings : ∃ findings, crossings.resources {} = .ok findings ∧
    findings.resources.map (fun resource => (resource.instancePath, resource.host)) =
      [("/v1/ferries/{id}", some "ferries.us.api"), ("/v1/ferries/{id}", some "ferries.eu.api"),
        ("/v1/relays/{id}", some "relays.$\x7bus\x7d.api"),
        ("/v1/relays/{id}", some "relays.$\x7beu\x7d.api")] ∧
    ∀ resource ∈ findings.resources,
      (resource.host.bind Region.keyword? = none ↔ resource.instancePath ≠ "/v1/relays/{id}") := by
  have hrun : (crossings.resources {}).toOption.map (fun findings =>
      (findings.resources.map fun resource => (resource.instancePath, resource.host),
        decide (∀ resource ∈ findings.resources, (resource.host.bind Region.keyword? = none ↔
          resource.instancePath ≠ "/v1/relays/{id}")))) =
      some ([("/v1/ferries/{id}", some "ferries.us.api"),
        ("/v1/ferries/{id}", some "ferries.eu.api"),
        ("/v1/relays/{id}", some "relays.$\x7bus\x7d.api"),
        ("/v1/relays/{id}", some "relays.$\x7beu\x7d.api")], true) := by
    decide +kernel
  obtain ⟨findings, hfindings, hresult⟩ := exists_of_toOption_map_eq_some hrun
  obtain ⟨hhosts, hkeywords⟩ := Prod.mk.inj hresult
  exact ⟨findings, hfindings, hhosts, of_decide_eq_true hkeywords⟩

/-- The copies of the relays are those that have a placeholder left; all hosts of the harbours are
resolved. -/
theorem crossings_hosts_resolved :
    (∃ findings, crossings.resources {} = .ok findings ∧ findings.resources.length = 4 ∧
      ∀ resource ∈ findings.resources,
        (resource.Reopened crossings ↔ resource.instancePath = "/v1/relays/{id}")) ∧
    ∃ findings, harbours.resources {} = .ok findings ∧ findings.resources.length = 2 ∧
      harbours.PlainRegions ∧ harbours.FlatHosts ∧
      ∀ resource ∈ findings.resources, resource.host.bind Region.keyword? = none := by
  constructor
  · obtain ⟨findings, hfindings, hhosts, hkeywords⟩ := exists_findings_crossings
    refine ⟨findings, hfindings, by simpa using congrArg List.length hhosts, ?_⟩
    intro resource hmem
    obtain ⟨hreopened, -⟩ := (Document.hosts_resolved hfindings).1 resource hmem
    rw [← not_iff_not, ← hreopened]
    exact hkeywords resource hmem
  · have hrun : (harbours.resources {}).toOption.map (fun findings =>
        findings.resources.length) = some 2 := by
      decide +kernel
    obtain ⟨findings, hfindings, hlength⟩ := exists_of_toOption_map_eq_some hrun
    have hnames : Region.namesOf (.text "north , \\1") = ["north", "\\1"] := by decide +kernel
    have hplain : harbours.PlainRegions := by
      refine Document.plainRegions_of_forall fun entry hentry region hregion => ?_
      rw [List.mem_singleton.mp hentry, hnames] at hregion
      rcases List.mem_pair.mp hregion with rfl | rfl
      all_goals exact List.all_eq_true.mp (by decide +kernel)
    have hflat : harbours.FlatHosts := Document.flatHosts_of_forall (by decide +kernel)
    obtain ⟨-, -, hresolved⟩ := Document.hosts_resolved hfindings
    exact ⟨findings, hfindings, hlength, hplain, hflat, hresolved hplain hflat⟩

/-- The host of a resource may have a placeholder left. -/
theorem exists_unresolved : ¬ ∀ (document : Document) (selection : Selection) (findings : Findings),
    document.resources selection = .ok findings → ∀ resource ∈ findings.resources,
      resource.host.bind Region.keyword? = none := by
  intro h
  obtain ⟨findings, hfindings, hhosts, hkeywords⟩ := exists_findings_crossings
  have hrelay : ("/v1/relays/{id}", some "relays.$\x7bus\x7d.api") ∈
      findings.resources.map fun resource => (resource.instancePath, resource.host) := by
    rw [hhosts]
    decide
  obtain ⟨resource, hmem, hresult⟩ := List.mem_map.mp hrelay
  have hresolved := h crossings {} findings hfindings resource hmem
  exact (hkeywords resource hmem).mp hresolved (Prod.mk.inj hresult).1

end Sample

end ResourceGraph
