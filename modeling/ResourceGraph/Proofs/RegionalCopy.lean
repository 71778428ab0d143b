import ResourceGraph.Proofs.Placeholder
import ResourceGraph.Proofs.RegionFault

/-!
# Copies of a resource in its regions

An accepted instance path adds to the result what its descriptor is spread to
(`outcome_eq_accepted_iff`): the descriptor itself if its host serves a single region, and otherwise
one copy for each region that the document declares for the keyword of the host, in the order of the
list.  The name of the region is put in the place of the placeholder as it is written, so a copy has
what stands before the placeholder, the region, and what stands after it for its host
(`ResourceDescriptor.copyAt`).  Its name and its region are its own as well, and all the rest is
taken over.
-/

namespace ResourceGraph

/-! ## Declared regions -/

namespace Region

/-- The regions that are declared for a keyword: those that its extension lists, at least one, none
of them blank and none listed twice. -/
structure DeclaredFor (regions : List String) (keyword : String) (extensions : Extensions) :
    Prop where
  listed : ∃ value, extensions.lookup? (Extension.regionsName keyword) = some value ∧
    namesOf value = regions
  ne_nil : regions ≠ []
  not_blank : "" ∉ regions
  nodup : regions.Nodup

theorem declaredFor_of_resolve_eq_ok {keyword : String} {extensions : Extensions}
    {regions : List String} (h : resolve keyword extensions = .ok regions) :
    DeclaredFor regions keyword extensions := by
  obtain ⟨hne, hnodup⟩ := resolve_eq_ok h
  unfold resolve at h
  simp only at h
  split at h
  · cases h
  next value hvalue =>
  split at h
  · cases h
  split at h
  · cases h
  split at h
  · cases h
  next hblank =>
  split at h
  · cases h
  cases h
  exact ⟨⟨value, hvalue, rfl⟩, hne, mt any_isEmpty_iff.mpr hblank, hnodup⟩

end Region

/-! ## What a descriptor is spread to -/

namespace ResourceDescriptor

/-- The descriptors that a descriptor is spread to: its copies in the regions that its host serves,
or the descriptor itself if its host serves a single region. -/
def spread (descriptor : ResourceDescriptor) (extensions : Extensions) :
    Except AnalysisError (List ResourceDescriptor) :=
  (Region.ofHost? descriptor.host extensions).map fun
    | none => [descriptor]
    | some regions => regions.map descriptor.inRegion

/-- A descriptor with a region in the place of a placeholder of its host. -/
def copyAt (descriptor : ResourceDescriptor) (placeholder : Region.Placeholder) (region : String) :
    ResourceDescriptor :=
  { descriptor with
    name := descriptor.name ++ "_" ++ region
    host := some (String.ofList (placeholder.before ++ region.toList ++ placeholder.after))
    region := some region }

variable {descriptor : ResourceDescriptor} {extensions : Extensions} {host : String}
  {placeholder : Region.Placeholder} {copies : List ResourceDescriptor}

theorem inRegion_eq_copyAt (hhost : descriptor.host = some host)
    (hserves : placeholder.Serves host.toList) (region : String) :
    descriptor.inRegion region = descriptor.copyAt placeholder region := by
  rw [inRegion, copyAt, hhost, Option.map_some, hserves.substitute_eq]

/-- A change that keeps the host is made before or after a descriptor is spread. -/
theorem spread_change {change : ResourceDescriptor → ResourceDescriptor}
    (hhost : (change descriptor).host = descriptor.host)
    (hregion : ∀ region,
      (change descriptor).inRegion region = change (descriptor.inRegion region)) :
    (change descriptor).spread extensions =
      (descriptor.spread extensions).map (List.map change) := by
  unfold spread
  rw [hhost]
  cases Region.ofHost? descriptor.host extensions with
  | error error => rfl
  | ok regions =>
      cases regions with
      | none => rfl
      | some regions =>
          have hcopies : regions.map (change descriptor).inRegion =
              (regions.map descriptor.inRegion).map change := by
            rw [List.map_map]
            exact List.map_congr_left fun region _ => hregion region
          simp only [Except.map, hcopies]

/-- A descriptor whose host has no keyword is left as it is. -/
theorem spread_of_keyword?_eq_none (h : descriptor.host.bind Region.keyword? = none) :
    descriptor.spread extensions = .ok [descriptor] := by
  rw [spread, Region.ofHost?, h]
  rfl

/-- A descriptor whose host has a keyword is copied into each of the regions declared for it. -/
theorem exists_regions_of_spread_eq_ok (hhost : descriptor.host = some host)
    (hserves : placeholder.Serves host.toList) (h : descriptor.spread extensions = .ok copies) :
    ∃ regions, Region.DeclaredFor regions (String.ofList placeholder.keyword) extensions ∧
      copies = regions.map (descriptor.copyAt placeholder) := by
  have hkeyword : descriptor.host.bind Region.keyword? =
      some (String.ofList placeholder.keyword) := by
    rw [hhost, Option.bind_some, Region.keyword?_eq_some_iff]
    exact ⟨placeholder, hserves, rfl⟩
  rw [spread, Region.ofHost?, hkeyword] at h
  obtain ⟨found, hfound, hcopies⟩ := map_eq_ok.mp h
  obtain ⟨regions, hregions, rfl⟩ := map_eq_ok.mp hfound
  refine ⟨regions, Region.declaredFor_of_resolve_eq_ok hregions, ?_⟩
  rw [← hcopies]
  exact List.map_congr_left fun region _ => inRegion_eq_copyAt hhost hserves region

end ResourceDescriptor

/-! ## Accepted paths -/

namespace Document

variable {document : Document} {selection : Selection} {findings : Findings} {path : String}
  {accepted : List ResourceDescriptor}

/-- **What an accepted path gives**: that to which its descriptor is spread. -/
theorem outcome_eq_accepted_iff : document.outcome path = .accepted accepted ↔
    ∃ descriptor, document.resource path = .ok descriptor ∧
      descriptor.spread document.extensions = .ok accepted := by
  rw [outcome]
  cases document.resource path with
  | error rejection => simp
  | ok descriptor =>
      cases hregions : Region.ofHost? descriptor.host document.extensions with
      | error error => simp [ResourceDescriptor.spread, hregions, Except.map]
      | ok regions => cases regions <;> simp [ResourceDescriptor.spread, hregions, Except.map]

/-- The resources of a run under one path are those that the path gives. -/
theorem exists_accepted_of_mem_resources (h : document.resources selection = .ok findings)
    {resource : ResourceDescriptor} (hmem : resource ∈ findings.resources) :
    ∃ accepted, document.outcome resource.instancePath = .accepted accepted ∧
      resource ∈ accepted ∧
      findings.resources.filter (fun other => other.instancePath == resource.instancePath) =
        accepted := by
  obtain ⟨entries, haccounts⟩ := exists_accounts h
  obtain ⟨verdict, hentry, hverdict⟩ := haccounts.exists_entry_of_mem_resources hmem
  have hsettles := haccounts.ledger.settles_of_mem hentry
  have hfilter := haccounts.filter_resources hentry
  cases verdict with
  | dropped rejection => simp at hverdict
  | kept accepted => exact ⟨accepted, hsettles.1, hverdict, hfilter⟩

end Document

/-- **One faithful copy for each region.**  A host has a keyword exactly if one placeholder stands
in it and no other, between text without blank characters.  An accepted path whose host is such
gives one copy of its descriptor for each region declared for the keyword, in their order, with the
region in the place of the placeholder.  An accepted path whose host has no keyword gives its
descriptor alone. -/
theorem Document.regions_copied :
    (∀ host keyword, Region.keyword? host = some keyword ↔
      ∃ placeholder : Region.Placeholder, placeholder.Serves host.toList ∧
        String.ofList placeholder.keyword = keyword) ∧
    ∀ (document : Document) (selection : Selection) (findings : Findings),
      document.resources selection = .ok findings → ∀ resource ∈ findings.resources,
        ∃ candidate descriptor, document.candidate resource.instancePath = .ok candidate ∧
          candidate.descriptor document = .ok descriptor ∧
          descriptor.host = candidate.create.extensions.text? .resourceHost ∧
          descriptor.region = none ∧
          (∀ host placeholder, descriptor.host = some host → placeholder.Serves host.toList →
            ∃ regions, Region.DeclaredFor regions (String.ofList placeholder.keyword)
                document.extensions ∧
              findings.resources.filter
                  (fun other => other.instancePath == resource.instancePath) =
                regions.map (descriptor.copyAt placeholder)) ∧
          (descriptor.host.bind Region.keyword? = none →
            findings.resources.filter
                (fun other => other.instancePath == resource.instancePath) =
              [descriptor]) := by
  refine ⟨fun host keyword => Region.keyword?_eq_some_iff, ?_⟩
  intro document selection findings h resource hmem
  obtain ⟨accepted, houtcome, -, hfilter⟩ := exists_accepted_of_mem_resources h hmem
  obtain ⟨descriptor, hdescriptor, hspread⟩ := outcome_eq_accepted_iff.mp houtcome
  obtain ⟨candidate, hcandidate, hdescribed, -⟩ := resource_eq_ok_iff.mp hdescriptor
  obtain ⟨-, -, hhost, hregion⟩ := Candidate.descriptor_eq_ok_iff.mp hdescribed
  refine ⟨candidate, descriptor, hcandidate, hdescribed, hhost, hregion, ?_, ?_⟩
  · intro host placeholder hhost hserves
    obtain ⟨regions, hregions, hcopies⟩ :=
      ResourceDescriptor.exists_regions_of_spread_eq_ok hhost hserves hspread
    exact ⟨regions, hregions, hfilter.trans hcopies⟩
  · intro hnone
    cases hspread.symm.trans (ResourceDescriptor.spread_of_keyword?_eq_none hnone)
    exact hfilter

namespace Sample

/-- A host with a placeholder among other dollar signs and braces. -/
def harbourHost : String := "a$b\x7bc.$\x7bregion\x7d.d\x7d$.api"

/-- Harbours in two regions, one of which is named like a group of a pattern. -/
def harbours : Document :=
  { paths := [("/v1/harbours", collection [("x-terraform-resource-host", .text harbourHost)]),
      ("/v1/harbours/{id}", readable)]
    extensions := [("X-Terraform-Resource-Regions-Region", .text "north , \\1")] }

/-- The harbours are copied into both regions, whose names take the place of the placeholder as they
are written. -/
theorem harbours_regions_copied :
    ∃ (findings : Findings) (descriptor : ResourceDescriptor) (placeholder : Region.Placeholder),
      harbours.resources {} = .ok findings ∧ descriptor.host = some harbourHost ∧
        placeholder.Serves harbourHost.toList ∧
        findings.resources.filter (fun other => other.instancePath == "/v1/harbours/{id}") =
          ["north", "\\1"].map (descriptor.copyAt placeholder) ∧
        findings.resources.map (fun resource => (resource.name, resource.host)) =
          [("harbours_v1_north", some "a$b\x7bc.north.d\x7d$.api"),
            ("harbours_v1_\\1", some "a$b\x7bc.\\1.d\x7d$.api")] := by
  have hrun : (harbours.resources {}).toOption.map (fun findings =>
      (findings.resources.map (fun resource => (resource.name, resource.host)),
        findings.resources.map ResourceDescriptor.instancePath)) =
      some ([("harbours_v1_north", some "a$b\x7bc.north.d\x7d$.api"),
        ("harbours_v1_\\1", some "a$b\x7bc.\\1.d\x7d$.api")],
        ["/v1/harbours/{id}", "/v1/harbours/{id}"]) := by
    decide +kernel
  have hdeclared : (harbours.candidate "/v1/harbours/{id}").toOption.map (fun candidate =>
      candidate.create.extensions.text? .resourceHost) = some (some harbourHost) := by
    decide +kernel
  have hkeyword : Region.keyword? harbourHost = some "region" := by decide +kernel
  have hvalue : harbours.extensions.lookup? (Extension.regionsName "region") =
      some (.text "north , \\1") := by
    rfl
  have hnames : Region.namesOf (.text "north , \\1") = ["north", "\\1"] := by decide +kernel
  obtain ⟨findings, hfindings, hresult⟩ := exists_of_toOption_map_eq_some hrun
  obtain ⟨hhosts, hpaths⟩ := Prod.mk.inj hresult
  obtain ⟨first, others, hresources, hpath, -⟩ := List.map_eq_cons_iff.mp hpaths
  obtain ⟨found, hfound, htext⟩ := exists_of_toOption_map_eq_some hdeclared
  obtain ⟨hserved, hcopied⟩ := Document.regions_copied
  obtain ⟨placeholder, hserves, hplaceholder⟩ := (hserved _ _).mp hkeyword
  obtain ⟨candidate, descriptor, hcandidate, -, hhost, -, hcopies, -⟩ :=
    hcopied harbours {} findings hfindings first (by simp [hresources])
  rw [hpath] at hcandidate hcopies
  cases hcandidate.symm.trans hfound
  rw [htext] at hhost
  obtain ⟨regions, ⟨⟨value, hlisted, rfl⟩, -⟩, hfilter⟩ :=
    hcopies harbourHost placeholder hhost hserves
  rw [hplaceholder] at hlisted
  cases hlisted.symm.trans hvalue
  rw [hnames] at hfilter
  exact ⟨findings, descriptor, placeholder, hfindings, hhost, hserves, hfilter, hhosts⟩

end Sample

end ResourceGraph
