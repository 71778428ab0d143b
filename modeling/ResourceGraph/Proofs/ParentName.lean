import ResourceGraph.Proofs.Origin
import ResourceGraph.Proofs.ParentPath

/-!
# Names of nested resources

A nested resource has the joined names of its parents in front of its own.  These are read off its
collection path, whereas the parent, if it is a resource as well, is named by its own collection,
which may ask for a name other than the last segment of its path.

Apart from that the two names are the same, because a collection path reads alike from both ends.
The blocks of a path are read again wherever their texts stand in front (`blocksFrom_texts`), so the
collection of the last parent has the parents before it as its own (`parents_rootPath`).  Thus the
names of the parents are the name of the last one exactly if its collection asks for no other name.
-/

namespace ResourceGraph

namespace Path

/-! ## Reading blocks again -/

/-- A block that is read again wherever its text stands in front. -/
def Block.Stable (block : Block) : Prop := ∀ rest, blockAt? (block.text ++ rest) = some block

/-- The characters of some blocks. -/
def blockTexts (blocks : List Block) : List Char := blocks.flatMap Block.text

/-- The plain segments in front of a parameter end where they ended before. -/
theorem plainLength_take_append (path rest : List Char) :
    plainLength (path.take (plainLength path) ++ '/' :: '{' :: rest) = plainLength path := by
  induction path with
  | nil => simp [plainLength, isSegmentCharacter]
  | cons c path ih =>
      by_cases hc : (isSegmentCharacter c || (c == '/' && path.head?.any isSegmentCharacter)) = true
      · have hlength : plainLength (c :: path) = plainLength path + 1 := by
          rw [plainLength, if_pos hc]
        rw [hlength, List.take_succ_cons, List.cons_append, plainLength, if_pos, ih]
        rw [Bool.or_eq_true] at hc ⊢
        refine hc.imp_right fun hslash => ?_
        -- a slash is passed in front of a plain character, which is passed as well
        rw [Bool.and_eq_true] at hslash ⊢
        refine ⟨hslash.1, ?_⟩
        cases path with
        | nil => simp at hslash
        | cons d path =>
            have hd : isSegmentCharacter d = true := by simpa using hslash.2
            simp [plainLength, hd]
      · have hlength : plainLength (c :: path) = 0 := by rw [plainLength, if_neg hc]
        rw [hlength]
        simp [plainLength, isSegmentCharacter]

theorem brace_not_mem_take_plainLength (path : List Char) :
    '{' ∉ path.take (plainLength path) := by
  induction path with
  | nil => simp
  | cons c path ih =>
      rw [plainLength]
      split
      · next hc =>
          rw [List.take_succ_cons, List.mem_cons, not_or]
          refine ⟨?_, ih⟩
          rintro rfl
          simp [isSegmentCharacter] at hc
      · simp

/-- A block is read where its plain segments end in front of its parameter. -/
theorem blockAt?_append {root parameter : List Char} (hroot : root.head? = some '/')
    (hparameter : parameter ≠ []) (hplain : ∀ c ∈ parameter, isSegmentCharacter c = true)
    {rest : List Char}
    (hcount : plainLength (root ++ '/' :: '{' :: (parameter ++ '}' :: rest)) = root.length) :
    blockAt? (root ++ '/' :: '{' :: (parameter ++ '}' :: rest)) = some ⟨root, parameter⟩ := by
  have hne : root ≠ [] := by
    rintro rfl
    simp at hroot
  have hhead : (root ++ '/' :: '{' :: (parameter ++ '}' :: rest)).head? = some '/' := by
    rw [List.head?_append, hroot, Option.some_or]
  have htake : (parameter ++ '}' :: rest).takeWhile isSegmentCharacter = parameter := by
    rw [List.takeWhile_append_of_pos hplain]
    simp [isSegmentCharacter]
  have hrest : (parameter ++ '}' :: rest).dropWhile isSegmentCharacter = '}' :: rest := by
    rw [List.dropWhile_append_of_pos hplain]
    simp [isSegmentCharacter]
  rw [blockAt?, if_pos hhead]
  simp [hcount, htake, hrest, hne, hparameter]

theorem stable_of_blockAt? {path : List Char} {block : Block} (h : blockAt? path = some block) :
    block.Stable := by
  obtain ⟨hslash, hpositive, hroot, rest, hdrop, -⟩ := exists_of_blockAt?_eq_some h
  obtain ⟨-, hparameter, hplain⟩ := blockAt?_eq_some h
  intro further
  have htext : block.text ++ further =
      block.root ++ '/' :: '{' :: (block.parameter ++ '}' :: further) := by
    simp [Block.text]
  have hlength : block.root.length = plainLength path := by
    have hdropped := congrArg List.length hdrop
    rw [List.length_drop, List.length_cons, List.length_cons] at hdropped
    rw [hroot, List.length_take]
    omega
  have hhead : block.root.head? = some '/' := by
    rw [hroot, List.head?_take, if_neg hpositive, hslash]
  rw [htext]
  refine blockAt?_append hhead hparameter hplain ?_
  rw [hlength, hroot]
  exact plainLength_take_append path _

/-- The blocks that are read are stable, and no brace stands before their parameters. -/
theorem stable_of_mem_blocksFrom {skipped : ℕ} {path : List Char} {block : Block}
    (h : block ∈ blocksFrom skipped path) : block.Stable ∧ '{' ∉ block.root := by
  induction path generalizing skipped with
  | nil => cases skipped <;> simp [blocksFrom] at h
  | cons c rest ih =>
      cases skipped with
      | succ skipped => exact ih h
      | zero =>
          rw [blocksFrom] at h
          split at h
          · next first hfirst =>
              rcases List.mem_cons.mp h with rfl | hrest
              · refine ⟨stable_of_blockAt? hfirst, ?_⟩
                rw [(exists_of_blockAt?_eq_some hfirst).2.2.1]
                exact brace_not_mem_take_plainLength _
              · exact ih hrest
          · exact ih h

theorem blocksFrom_length_append (front rest : List Char) :
    blocksFrom front.length (front ++ rest) = blocksFrom 0 rest := by
  induction front with
  | nil => rfl
  | cons c front ih => exact ih

theorem blocksFrom_eq_nil {path : List Char} (h : '{' ∉ path) : blocksFrom 0 path = [] := by
  induction path with
  | nil => rfl
  | cons c rest ih =>
      have hnone : blockAt? (c :: rest) = none := by
        refine Option.eq_none_iff_forall_ne_some.mpr fun block hblock => h ?_
        obtain ⟨-, -, -, further, hdrop, -⟩ := exists_of_blockAt?_eq_some hblock
        have hbrace : '{' ∈ (c :: rest).drop (plainLength (c :: rest)) := by simp [hdrop]
        exact List.mem_of_mem_drop hbrace
      rw [blocksFrom, hnone]
      exact ih fun hrest => h (List.mem_cons_of_mem _ hrest)

/-- The texts of stable blocks are read as these blocks. -/
theorem blocksFrom_texts {blocks : List Block} (hblocks : ∀ block ∈ blocks, block.Stable)
    (rest : List Char) :
    blocksFrom 0 (blockTexts blocks ++ rest) = blocks ++ blocksFrom 0 rest := by
  induction blocks with
  | nil => rfl
  | cons block blocks ih =>
      have hfirst := hblocks block (List.mem_cons_self ..)
      obtain ⟨c, text, htext⟩ : ∃ c text, block.text = c :: text :=
        List.exists_cons_of_ne_nil (by simp [Block.text])
      have hsplit : blockTexts (block :: blocks) ++ rest =
          c :: (text ++ (blockTexts blocks ++ rest)) := by
        simp [blockTexts, htext]
      have hread : blockAt? (c :: (text ++ (blockTexts blocks ++ rest))) = some block := by
        simpa [htext] using hfirst (blockTexts blocks ++ rest)
      rw [hsplit, blocksFrom, hread]
      simp only [htext, List.length_cons, Nat.add_sub_cancel, List.cons_append]
      rw [blocksFrom_length_append, ih fun other hother =>
        hblocks other (List.mem_cons_of_mem _ hother)]

/-! ## The parents of a parent -/

theorem parentsOf_concat (before : List Char) (front : List Block) (last : Block) :
    ∃ parent, parentsOf before (front ++ [last]) = parentsOf before front ++ [parent] ∧
      parent.rootPath.toList = before ++ blockTexts front ++ last.root ∧
      parent.name = resourceName parent.rootPath none := by
  induction front generalizing before with
  | nil =>
      let root := String.ofList (before ++ last.root)
      refine ⟨⟨root, String.ofList (before ++ last.text), resourceName root none⟩, ?_, ?_, ?_⟩
      · simp only [List.nil_append, parentsOf, root]
      · simp [blockTexts, root]
      · simp only
  | cons block front ih =>
      obtain ⟨parent, hparents, hroot, hname⟩ := ih (before ++ block.text)
      refine ⟨parent, ?_, ?_, hname⟩
      · rw [List.cons_append, parentsOf, hparents, parentsOf, List.cons_append]
      · rw [hroot]
        simp [blockTexts]

/-- **The collection of the last parent** has the parents before it as its own, with and without a
slash at its end, and names the parent. -/
theorem parents_rootPath {nested : String} {parent : Parent}
    (h : (parents nested).getLast? = some parent) :
    parents nested = parents parent.rootPath ++ [parent] ∧
      parents (parent.rootPath ++ "/") = parents parent.rootPath ∧
      parent.name = resourceName parent.rootPath none := by
  have hstable := fun (block : Block) (hblock : block ∈ blocksFrom 0 nested.toList) =>
    stable_of_mem_blocksFrom hblock
  rw [parents] at h ⊢
  rcases List.eq_nil_or_concat' (blocksFrom 0 nested.toList) with hnil | ⟨front, last, hblocks⟩
  · simp [hnil, parentsOf] at h
  rw [hblocks] at h hstable ⊢
  obtain ⟨found, hparents, hroot, hname⟩ := parentsOf_concat [] front last
  rw [hparents, List.getLast?_concat] at h
  cases h
  obtain ⟨-, hbrace⟩ := hstable last (by simp)
  have hread (tail : List Char) (htail : '{' ∉ tail) :
      blocksFrom 0 (parent.rootPath.toList ++ tail) = front := by
    rw [hroot, List.nil_append, List.append_assoc,
      blocksFrom_texts fun block hblock => (hstable block (by simp [hblock])).1,
      blocksFrom_eq_nil (by simp [hbrace, htail]), List.append_nil]
  have hplain : parents parent.rootPath = parentsOf [] front := by
    rw [parents, ← List.append_nil parent.rootPath.toList, hread [] (by simp)]
  have hslash : parents (parent.rootPath ++ "/") = parentsOf [] front := by
    rw [parents, String.toList_append, hread "/".toList (by simp)]
  exact ⟨by rw [hparents, hplain], by rw [hplain, hslash], hname⟩

/-! ## Names of collections -/

/-- A slash at the end of a collection path does not change its segments. -/
theorem segments_lastSection_append_slash (path : List Char) :
    segments (lastSection (path ++ ['/'])) = segments (lastSection path) := by
  have hsection : lastSection (path ++ ['/']) = lastSection path ++ ['/'] := by
    simp [lastSection]
  rw [hsection, segments, segments, List.splitOn_append_cons_self]
  simp

theorem resourceName_append_slash (path : String) (preferred : Option String) :
    resourceName (path ++ "/") preferred = resourceName path preferred := by
  have hsegments : segments (lastSection (path ++ "/").toList) =
      segments (lastSection path.toList) := by
    rw [String.toList_append]
    exact segments_lastSection_append_slash path.toList
  rw [resourceName, resourceName, hsegments]

/-- A name that is asked for changes nothing exactly if it is the last segment. -/
theorem resourceName_some_eq_none_iff {path preferred : String} (hpreferred : preferred ≠ "") :
    resourceName path (some preferred) = resourceName path none ↔
      (segments (lastSection path.toList)).getLast? = some preferred.toList := by
  have hasked : preferred.isEmpty = false := by simpa using hpreferred
  cases hlast : (segments (lastSection path.toList)).getLast? with
  | none => simpa [resourceName, hlast] using hpreferred
  | some last =>
      have hsame : preferred = String.ofList last ↔ some last = some preferred.toList := by
        rw [Option.some.injEq, ← String.toList_inj, String.toList_ofList, eq_comm]
      have hempty : "".isEmpty = true := rfl
      simp only [resourceName, hlast, Option.getD_some, Option.getD_none, hasked, hempty, if_true,
        Bool.false_eq_true, if_false]
      -- a version is appended to either name
      split
      · rw [String.append_left_inj, String.append_left_inj, hsame]
      · exact hsame

end Path

/-- A name with the names of parents in front. -/
def Parent.qualified (parents : List Parent) (name : String) : String :=
  match parents with
  | [] => name
  | parents => Parent.fullName parents ++ "_" ++ name

theorem Parent.fullName_concat (parents : List Parent) (parent : Parent) :
    Parent.fullName (parents ++ [parent]) = Parent.qualified parents parent.name := by
  cases parents with
  | nil => simp [fullName, qualified]
  | cons first rest =>
      rw [qualified, fullName, List.map_append, String.intercalate_append_of_ne_nil (by simp)
        (by simp)]
      · simp [fullName]
      · simp

theorem Parent.qualified_inj {parents : List Parent} {name other : String} :
    Parent.qualified parents name = Parent.qualified parents other ↔ name = other := by
  cases parents with
  | nil => rfl
  | cons first rest => simp only [qualified, String.append_right_inj]

theorem PathItem.resourceName_eq (item : PathItem) (rootPath : String) :
    item.resourceName rootPath = Parent.qualified (Path.parents rootPath)
      (Path.resourceName rootPath item.preferredName?) := by
  cases hparents : Path.parents rootPath with
  | nil => simp only [resourceName, hparents, Parent.qualified]
  | cons first rest => simp only [resourceName, hparents, Parent.qualified]

/-! ## Names that are asked for -/

theorem Extensions.ne_empty_of_text?_eq_some {extensions : Extensions} {extension : Extension}
    {text : String} (h : extensions.text? extension = some text) : text ≠ "" := by
  simp only [text?, textNamed?, Option.bind_eq_bind, Option.bind_eq_some_iff] at h
  obtain ⟨value, -, written, -, htrimmed⟩ := h
  split at htrimmed
  · cases htrimmed
  · next hempty =>
      cases htrimmed
      simpa using hempty

theorem PathItem.ne_empty_of_preferredName?_eq_some {item : PathItem} {preferred : String}
    (h : item.preferredName? = some preferred) : preferred ≠ "" := by
  obtain ⟨create, -, htext⟩ := Option.bind_eq_some_iff.mp h
  exact Extensions.ne_empty_of_text?_eq_some htext

/-- A collection asks for a name other than the last segment of its path. -/
def Document.AsksForName (document : Document) (rootPath : String) : Prop :=
  ∃ item preferred, document.paths.get? rootPath = some item ∧
    item.preferredName? = some preferred ∧
    (Path.segments (Path.lastSection rootPath.toList)).getLast? ≠ some preferred.toList

theorem Document.resourceName_eq_none_iff {document : Document} {rootPath : String}
    {item : PathItem} (hitem : document.paths.get? rootPath = some item) :
    Path.resourceName rootPath item.preferredName? = Path.resourceName rootPath none ↔
      ¬ document.AsksForName rootPath := by
  have hasks : document.AsksForName rootPath ↔ ∃ preferred, item.preferredName? = some preferred ∧
      (Path.segments (Path.lastSection rootPath.toList)).getLast? ≠ some preferred.toList := by
    simp only [AsksForName, hitem, Option.some.injEq, exists_eq_left', exists_and_left]
  rw [hasks]
  cases hpreferred : item.preferredName? with
  | none => simp
  | some preferred =>
      rw [Path.resourceName_some_eq_none_iff (item.ne_empty_of_preferredName?_eq_some hpreferred)]
      simp

/-- A resource has a name, with its region after it if it is a regional copy. -/
def ResourceDescriptor.HasBaseName (resource : ResourceDescriptor) (base : String) : Prop :=
  resource.name = match resource.region with
    | none => base
    | some region => base ++ "_" ++ region

theorem ResourceDescriptor.Copies.hasBaseName_iff {extensions : Extensions}
    {descriptor resource : ResourceDescriptor} {base : String}
    (h : descriptor.Copies extensions resource) (hregion : descriptor.region = none) :
    resource.HasBaseName base ↔ descriptor.name = base := by
  cases h with
  | single => rw [HasBaseName, hregion]
  | regional =>
      simp only [HasBaseName, inRegion]
      rw [String.append_left_inj, String.append_left_inj]

theorem ResourceDescriptor.Copies.eq_of_region_eq_none {extensions : Extensions}
    {descriptor resource : ResourceDescriptor} (h : descriptor.Copies extensions resource)
    (hregion : resource.region = none) : resource = descriptor := by
  cases h with
  | single => rfl
  | regional => cases hregion

/-! ## Names of nested resources -/

namespace Document

variable {document : Document} {selection : Selection} {findings : Findings}
  {nested owner : ResourceDescriptor} {parent : Parent}

/-- The name of a nested resource is the joined names of its parents and its own one. -/
theorem exists_hasBaseName_iff (h : document.resources selection = .ok findings)
    (hnested : nested ∈ findings.resources) (hparents : nested.parents ≠ []) :
    ∃ item, document.paths.get? nested.rootPath = some item ∧ ∀ base, nested.HasBaseName base ↔
      base = Parent.fullName nested.parents ++ "_" ++
        Path.resourceName nested.rootPath item.preferredName? := by
  obtain ⟨candidate, descriptor, hcandidate, hdescribed, -, hcopies⟩ := exists_origin h hnested
  obtain ⟨hdescribes, hname, -, hregion⟩ := Candidate.descriptor_eq_ok_iff.mp hdescribed
  have hresource := hdescribes.of_copies hcopies
  refine ⟨candidate.root, ?_, fun base => ?_⟩
  · rw [hresource.rootPath]
    exact (candidate_eq_ok hcandidate).2.2.root
  · rw [hcopies.hasBaseName_iff hregion, hname, PathItem.resourceName_eq, ← hresource.rootPath,
      hresource.parents, ← hresource.rootPath, eq_comm]
    rw [hresource.parents, ← hresource.rootPath] at hparents
    cases hchain : Path.parents nested.rootPath with
    | nil => exact absurd hchain hparents
    | cons first rest => rfl

/-- **Two names of one parent.**  The joined names of the parents of a nested resource are the name
of the resource that is its last parent exactly if the collection of the latter asks for no other
name. -/
theorem fullName_eq_name_iff (h : document.resources selection = .ok findings)
    (hnested : nested ∈ findings.resources) (howner : owner ∈ findings.resources)
    (hlast : nested.parents.getLast? = some parent)
    (hpath : Path.trimSlashes owner.instancePath = Path.trimSlashes parent.instancePath)
    (hregion : owner.region = none) :
    Parent.fullName nested.parents = owner.name ↔ ¬ document.AsksForName owner.rootPath := by
  obtain ⟨child, -, hchild, -⟩ := exists_candidate_of_mem_resources h hnested
  obtain ⟨candidate, descriptor, hcandidate, hdescribed, -, hcopies⟩ := exists_origin h howner
  obtain rfl := hcopies.eq_of_region_eq_none hregion
  obtain ⟨hdescribes, hname, -⟩ := Candidate.descriptor_eq_ok_iff.mp hdescribed
  obtain ⟨hroot, -, hdeclared⟩ := candidate_eq_ok hcandidate
  rw [hchild.parents] at hlast ⊢
  obtain ⟨hchain, hslash, hparent⟩ := Path.parents_rootPath hlast
  -- the collection of the owner is that of the parent, perhaps with a slash
  have hsame : Path.parents owner.rootPath = Path.parents parent.rootPath ∧
      ∀ preferred, Path.resourceName owner.rootPath preferred =
        Path.resourceName parent.rootPath preferred := by
    have hmem : parent ∈ Path.parents child.rootPath := List.mem_of_getLast? hlast
    rw [hdescribes.rootPath]
    rcases Path.findRoot_of_mem_parents hmem hpath hroot with hroot | ⟨-, hroot⟩
    · rw [hroot]
      exact ⟨hslash, Path.resourceName_append_slash parent.rootPath⟩
    · rw [hroot]
      exact ⟨rfl, fun preferred => rfl⟩
  have hitem := hdeclared.root
  rw [← hdescribes.rootPath] at hitem hname
  calc Parent.fullName (Path.parents child.rootPath) = owner.name
      ↔ Parent.qualified (Path.parents parent.rootPath) (Path.resourceName parent.rootPath none) =
          Parent.qualified (Path.parents parent.rootPath)
            (Path.resourceName parent.rootPath candidate.root.preferredName?) := by
        rw [hchain, Parent.fullName_concat, hparent, hname, PathItem.resourceName_eq, hsame.1,
          hsame.2]
    _ ↔ Path.resourceName owner.rootPath candidate.root.preferredName? =
          Path.resourceName owner.rootPath none := by
        rw [Parent.qualified_inj, hsame.2, hsame.2, eq_comm]
    _ ↔ ¬ document.AsksForName owner.rootPath := resourceName_eq_none_iff hitem

end Document

/-! ## A parent that asks for a name -/

namespace Sample

/-- Networks that ask for a name, rules nested under them, and notes nested under the rules. -/
def zones : Document :=
  { paths := [("/v1/cdns", collection [("x-terraform-resource-name", .text "cdn")]),
      ("/v1/cdns/{id}", readable), ("/v1/cdns/{id}/v2/rules", collection []),
      ("/v1/cdns/{id}/v2/rules/{rule}", readable),
      ("/v1/cdns/{id}/v2/rules/{rule}/notes", collection []),
      ("/v1/cdns/{id}/v2/rules/{rule}/notes/{note}", readable)] }

/-- The networks as a parent. -/
def zonesParent : Parent := ⟨"/v1/cdns", "/v1/cdns/{id}", "cdns_v1"⟩

/-- The rules as a parent. -/
def rulesParent : Parent :=
  ⟨"/v1/cdns/{id}/v2/rules", "/v1/cdns/{id}/v2/rules/{rule}", "rules_v2"⟩

/-- What tells how a resource is named and nested. -/
structure Outline where
  name : String
  region : Option String
  instancePath : String
  parents : List Parent
deriving DecidableEq

/-- The outline of a resource. -/
def outline (resource : ResourceDescriptor) : Outline :=
  ⟨resource.name, resource.region, resource.instancePath, resource.parents⟩

/-- The networks among the resources. -/
def cdnOutline : Outline := ⟨"cdn_v1", none, "/v1/cdns/{id}", []⟩

/-- The rules among the resources. -/
def rulesOutline : Outline :=
  ⟨"cdns_v1_rules_v2", none, "/v1/cdns/{id}/v2/rules/{rule}", [zonesParent]⟩

/-- The notes among the resources. -/
def notesOutline : Outline :=
  ⟨"cdns_v1_rules_v2_notes", none, "/v1/cdns/{id}/v2/rules/{rule}/notes/{note}",
    [zonesParent, rulesParent]⟩

/-- The run on the networks keeps all three. -/
theorem exists_zones_findings : ∃ findings cdn rules notes, zones.resources {} = .ok findings ∧
    cdn ∈ findings.resources ∧ rules ∈ findings.resources ∧ notes ∈ findings.resources ∧
      outline cdn = cdnOutline ∧ outline rules = rulesOutline ∧ outline notes = notesOutline := by
  have hrun : (zones.resources {}).toOption.map (fun findings => findings.resources.map outline) =
      some [cdnOutline, rulesOutline, notesOutline] := by
    decide +kernel
  obtain ⟨findings, hfindings, houtlines⟩ := exists_of_toOption_map_eq_some hrun
  have hkept : ∀ kept ∈ [cdnOutline, rulesOutline, notesOutline],
      ∃ resource ∈ findings.resources, outline resource = kept := by
    intro kept hkept
    exact List.mem_map.mp (houtlines ▸ hkept)
  obtain ⟨cdn, hcdn, hcdnOutline⟩ := hkept cdnOutline (by simp)
  obtain ⟨rules, hrules, hrulesOutline⟩ := hkept rulesOutline (by simp)
  obtain ⟨notes, hnotes, hnotesOutline⟩ := hkept notesOutline (by simp)
  exact ⟨findings, cdn, rules, notes, hfindings, hcdn, hrules, hnotes, hcdnOutline, hrulesOutline,
    hnotesOutline⟩

end Sample

/-- **How a nested resource is named after its parent.**  A nested resource has the joined names of
its parents in front of its own name.  If its last parent is a resource as well, in no particular
region, these are the name of this resource exactly if its collection does not ask for a name other
than the last segment of its path, and otherwise the nested resource is not named after it. -/
theorem Document.nested_named_after_parent {document : Document} {selection : Selection}
    {findings : Findings} (h : document.resources selection = .ok findings) :
    ∀ nested ∈ findings.resources, ∀ owner ∈ findings.resources, ∀ parent,
      nested.parents.getLast? = some parent →
      Path.trimSlashes owner.instancePath = Path.trimSlashes parent.instancePath →
      owner.region = none →
        (Parent.fullName nested.parents = owner.name ↔ ¬ document.AsksForName owner.rootPath) ∧
        ∃ item, document.paths.get? nested.rootPath = some item ∧
          nested.HasBaseName (Parent.fullName nested.parents ++ "_" ++
            Path.resourceName nested.rootPath item.preferredName?) ∧
          (nested.HasBaseName (owner.name ++ "_" ++
              Path.resourceName nested.rootPath item.preferredName?) ↔
            ¬ document.AsksForName owner.rootPath) := by
  intro nested hnested owner howner parent hlast hpath hregion
  have hparents : nested.parents ≠ [] := by
    intro hnil
    simp [hnil] at hlast
  have hiff := fullName_eq_name_iff h hnested howner hlast hpath hregion
  obtain ⟨item, hitem, hbase⟩ := exists_hasBaseName_iff h hnested hparents
  refine ⟨hiff, item, hitem, (hbase _).mpr rfl, ?_⟩
  rw [hbase, String.append_left_inj, String.append_left_inj, eq_comm, hiff]

namespace Sample

/-- The notes are named after the rules, but the rules are not named after the networks. -/
theorem zones_named_after_parent : ∃ findings cdn rules notes,
    zones.resources {} = .ok findings ∧ cdn ∈ findings.resources ∧ rules ∈ findings.resources ∧
      notes ∈ findings.resources ∧ cdn.name = "cdn_v1" ∧
      Parent.fullName notes.parents = rules.name ∧ ¬ zones.AsksForName rules.rootPath ∧
      Parent.fullName rules.parents ≠ cdn.name ∧ zones.AsksForName cdn.rootPath := by
  obtain ⟨findings, cdn, rules, notes, hfindings, hcdn, hrules, hnotes, hcdnOutline, hrulesOutline,
    hnotesOutline⟩ := exists_zones_findings
  obtain ⟨hcdnName, hcdnRegion, hcdnPath, -⟩ := Outline.mk.inj hcdnOutline
  obtain ⟨hrulesName, hrulesRegion, hrulesPath, hrulesParents⟩ := Outline.mk.inj hrulesOutline
  obtain ⟨-, -, -, hnotesParents⟩ := Outline.mk.inj hnotesOutline
  have hnamed := Document.nested_named_after_parent hfindings
  have hnotesRules := (hnamed notes hnotes rules hrules rulesParent (by simp [hnotesParents])
    (by rw [hrulesPath]; rfl) hrulesRegion).1
  have hrulesCdn := (hnamed rules hrules cdn hcdn zonesParent (by simp [hrulesParents])
    (by rw [hcdnPath]; rfl) hcdnRegion).1
  have hagree : Parent.fullName notes.parents = rules.name := by
    rw [hnotesParents, hrulesName]
    decide
  have hdiffer : Parent.fullName rules.parents ≠ cdn.name := by
    rw [hrulesParents, hcdnName]
    decide
  exact ⟨findings, cdn, rules, notes, hfindings, hcdn, hrules, hnotes, hcdnName, hagree,
    hnotesRules.mp hagree, hdiffer, not_not.mp (mt hrulesCdn.mpr hdiffer)⟩

/-- **A nested resource need not be named after its parent.**  The rules are named after the path of
the networks, not after the name that these ask for. -/
theorem exists_named_apart : ¬ ∀ (document : Document) (selection : Selection)
    (findings : Findings), document.resources selection = .ok findings →
      ∀ nested ∈ findings.resources, ∀ owner ∈ findings.resources, ∀ parent,
        nested.parents.getLast? = some parent →
        Path.trimSlashes owner.instancePath = Path.trimSlashes parent.instancePath →
        owner.region = none → Parent.fullName nested.parents = owner.name := by
  intro hall
  obtain ⟨findings, cdn, rules, -, hfindings, hcdn, hrules, -, hcdnOutline, hrulesOutline, -⟩ :=
    exists_zones_findings
  obtain ⟨hcdnName, hcdnRegion, hcdnPath, -⟩ := Outline.mk.inj hcdnOutline
  obtain ⟨-, -, -, hrulesParents⟩ := Outline.mk.inj hrulesOutline
  have hname := hall zones {} findings hfindings rules hrules cdn hcdn zonesParent
    (by simp [hrulesParents]) (by rw [hcdnPath]; rfl) hcdnRegion
  rw [hrulesParents, hcdnName] at hname
  revert hname
  decide

end Sample

end ResourceGraph
