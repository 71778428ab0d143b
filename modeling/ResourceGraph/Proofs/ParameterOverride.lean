import ResourceGraph.Proofs.DocumentFaults
import ResourceGraph.Proofs.Key

/-!
# Parameters that override those of the path

An operation inherits the parameters of its path except those that it declares itself.  Which ones
these are is decided before any parameter has a type, by comparing what is written under `name` and
`in` (`SameAsWritten`).  What a name and a location become afterwards is another matter: a name is
any value as a text, and a parameter without a location is one of the query (`SameAsTyped`).

So the operation overrides its path in the typed document exactly if the two comparisons have the
same outcome for every parameter of the path (`overrides_path_iff`).  They differ in both
directions.  `page` in the query and `page` without a location are two parameters as they are
written and one when they are typed; the names `1` and `true` are the same key and two texts.
Where every location is written, and no name is anything but a text, they agree
(`identitiesAgree_of_plainlyNamed`).
-/

namespace ResourceGraph

/-- Filtering before a map is filtering after it only where the conditions agree on every item. -/
theorem map_filter_eq_filter_map_iff {α β : Type} {f : α → β} {items : List α} {before : α → Bool}
    {after : β → Bool} : (items.filter before).map f = (items.map f).filter after ↔
      ∀ item ∈ items, before item = after (f item) := by
  rw [List.filter_map]
  constructor
  · intro h
    have hkept : ∀ item ∈ items, before item = true → after (f item) = true := by
      intro item hitem hbefore
      have hmem : f item ∈ (items.filter before).map f :=
        List.mem_map_of_mem (List.mem_filter.mpr ⟨hitem, hbefore⟩)
      rw [h] at hmem
      obtain ⟨other, hother, hsame⟩ := List.mem_map.mp hmem
      exact hsame ▸ (List.mem_filter.mp hother).2
    -- the one filter goes further than the other, yet leaves as many items
    have hsublist : (items.filter before).Sublist (items.filter (after ∘ f)) := by
      have hnarrowed : items.filter before = (items.filter (after ∘ f)).filter before := by
        rw [List.filter_filter]
        refine List.filter_congr fun item hitem => ?_
        cases hbefore : before item with
        | false => rfl
        | true => exact (hkept item hitem hbefore).symm
      rw [hnarrowed]
      exact List.filter_sublist
    have hlength : (items.filter before).length = (items.filter (after ∘ f)).length := by
      simpa using congrArg List.length h
    have hsame := hsublist.eq_of_length hlength
    intro item hitem
    rw [Bool.eq_iff_iff]
    refine ⟨hkept item hitem, fun hafter => ?_⟩
    have hmem : item ∈ items.filter (after ∘ f) := List.mem_filter.mpr ⟨hitem, hafter⟩
    rw [← hsame] at hmem
    exact (List.mem_filter.mp hmem).2
  · intro h
    rw [List.filter_congr h]
    rfl

namespace Parameter

/-! ## Two notions of the same parameter -/

/-- The raw parameters that the entries of a path or an operation declare. -/
def declaredIn (entries : List (Scalar × Value)) : List (List (Scalar × Value)) :=
  (Entries.getOrNull entries "parameters").parts.filterMap Value.asMap?

/-- The name of the parameter that raw entries declare. -/
def nameOf (entries : List (Scalar × Value)) : String :=
  ((Entries.get? entries "name").map Value.shown).getD ""

/-- What is written under a key, an empty text if nothing is. -/
def writtenPart (entries : List (Scalar × Value)) (key : String) : Value :=
  (Entries.get? entries key).getD (.text "")

/-- What is written under a key is the same, as a key of a mapping, in two raw parameters. -/
def SamePart (key : String) (left right : List (Scalar × Value)) : Prop :=
  ∃ leftPart rightPart : Scalar, writtenPart left key = .scalar leftPart ∧
    writtenPart right key = .scalar rightPart ∧ leftPart.key = rightPart.key

/-- Two raw parameters have the same name and location as they are written. -/
def SameAsWritten (left right : List (Scalar × Value)) : Prop :=
  SamePart "name" left right ∧ SamePart "in" left right

/-- Two raw parameters declare parameters of the same name and location. -/
def SameAsTyped (left right : List (Scalar × Value)) : Prop :=
  nameOf left = nameOf right ∧
    ∃ location, locationOf? left = some location ∧ locationOf? right = some location

/-- For every raw parameter of a path with a known location, both notions tell whether it is among
those of an operation. -/
def IdentitiesAgree (ofPath own : List (List (Scalar × Value))) : Prop :=
  ∀ entries ∈ ofPath, (locationOf? entries).isSome = true →
    ((∃ other ∈ own, SameAsWritten entries other) ↔ ∃ other ∈ own, SameAsTyped entries other)

/-- A raw parameter writes its location, and has no name that is not a text. -/
def PlainlyNamed (entries : List (Scalar × Value)) : Prop :=
  (∃ name, writtenPart entries "name" = .text name) ∧
    ∃ location, Entries.get? entries "in" = some (.text location)

/-- Two parameters have the same name and location. -/
def isNamesake (left right : Parameter) : Bool :=
  left.name == right.name && left.location == right.location

/-- The parameters of an operation are those of its path that have no namesake among its own, all
of them in order, and then its own. -/
def Overrides (inherited own result : List Parameter) : Prop :=
  result = (inherited.filter fun parameter => !own.any parameter.isNamesake) ++ own

variable {entries other : List (Scalar × Value)} {ofPath raw : List (List (Scalar × Value))}
  {own : List Value} {key : String} {parameter : Parameter} {typed : List Parameter}

/-! ## The comparison of what is written -/

theorem identityPart_eq_ok_iff {part : Scalar} :
    identityPart entries key = .ok part ↔ writtenPart entries key = .scalar part := by
  unfold identityPart writtenPart
  cases (Entries.get? entries key).getD (.text "") <;> simp

theorem identityOf_eq_ok_iff {identity : Identity} : identityOf entries = .ok identity ↔
    writtenPart entries "name" = .scalar identity.name ∧
      writtenPart entries "in" = .scalar identity.location := by
  rw [identityOf, bind_eq_ok]
  simp only [bind_eq_ok, identityPart_eq_ok_iff]
  constructor
  · rintro ⟨name, hname, location, hlocation, hidentity⟩
    cases hidentity
    exact ⟨hname, hlocation⟩
  · rintro ⟨hname, hlocation⟩
    exact ⟨identity.name, hname, identity.location, hlocation, rfl⟩

/-- Identities are compared as keys. -/
theorem same_iff_sameAsWritten {left right : Identity} (hleft : identityOf entries = .ok left)
    (hright : identityOf other = .ok right) :
    right.same left = true ↔ SameAsWritten entries other := by
  obtain ⟨hname, hlocation⟩ := identityOf_eq_ok_iff.mp hleft
  obtain ⟨hotherName, hotherLocation⟩ := identityOf_eq_ok_iff.mp hright
  rw [Identity.same, Bool.and_eq_true, Scalar.same_iff, Scalar.same_iff]
  constructor
  · rintro ⟨hnames, hlocations⟩
    exact ⟨⟨_, _, hname, hotherName, hnames.symm⟩, _, _, hlocation, hotherLocation,
      hlocations.symm⟩
  · rintro ⟨⟨_, _, hleftName, hrightName, hnames⟩, _, _, hleftLocation, hrightLocation, hlocations⟩
    cases hname.symm.trans hleftName
    cases hotherName.symm.trans hrightName
    cases hlocation.symm.trans hleftLocation
    cases hotherLocation.symm.trans hrightLocation
    exact ⟨hnames.symm, hlocations.symm⟩

theorem identified_eq_ok_iff {both : List (Scalar × Value) × Identity} :
    (do return (entries, ← identityOf entries)) = (.ok both : Except DocumentFault _) ↔
      entries = both.1 ∧ identityOf both.1 = .ok both.2 := by
  rw [bind_eq_ok]
  constructor
  · rintro ⟨identity, hidentity, hboth⟩
    cases hboth
    exact ⟨rfl, hidentity⟩
  · rintro ⟨rfl, hidentity⟩
    exact ⟨both.2, hidentity, rfl⟩

/-- The raw parameters of a path, paired with their identities. -/
theorem identified_of_path {inherited : List (List (Scalar × Value) × Identity)}
    (h : (ofPath.mapM fun entries => do return (entries, ← identityOf entries)) =
      .ok inherited) :
    ofPath = inherited.map Prod.fst ∧ ∀ both ∈ inherited, identityOf both.1 = .ok both.2 := by
  have hpairs : List.Forall₂ (fun entries both =>
      entries = both.1 ∧ identityOf both.1 = .ok both.2) ofPath inherited :=
    (mapM_eq_ok_iff.mp h).imp fun _ _ hboth => identified_eq_ok_iff.mp hboth
  refine ⟨?_, fun both hmem => ?_⟩
  · rw [← List.map_id ofPath]
    exact map_eq_of_forall₂ hpairs fun entries both hboth => hboth.1
  · obtain ⟨_, -, -, hidentity⟩ := exists_of_mem_right hpairs hmem
    exact hidentity

/-- The raw parameters that an operation declares, paired with their identities. -/
theorem identified_of_own {declared : List (List (Scalar × Value) × Identity)}
    (h : (own.mapM fun value => do
      let entries ← entriesOf value
      return (entries, ← identityOf entries)) = .ok declared) :
    own.filterMap Value.asMap? = declared.map Prod.fst ∧
      ∀ both ∈ declared, identityOf both.1 = .ok both.2 := by
  have hpairs : List.Forall₂ (fun value both =>
      value.asMap? = some both.1 ∧ identityOf both.1 = .ok both.2) own declared := by
    refine (mapM_eq_ok_iff.mp h).imp fun value both hboth => ?_
    obtain ⟨entries, hentries, hboth⟩ := bind_eq_ok.mp hboth
    obtain ⟨rfl, hidentity⟩ := identified_eq_ok_iff.mp hboth
    cases value with
    | map entries =>
        cases hentries
        exact ⟨rfl, hidentity⟩
    | _ => cases hentries
  refine ⟨?_, fun both hmem => ?_⟩
  · rw [← List.filterMap_eq_map]
    exact filterMap_eq_of_forall₂ hpairs fun value both hboth => hboth.1
  · obtain ⟨_, -, -, hidentity⟩ := exists_of_mem_right hpairs hmem
    exact hidentity

open Classical in
/-- The raw parameters of an operation are those of its path that it does not declare as they are
written, and its own. -/
theorem of_merge_eq_ok (h : merge ofPath own = .ok raw) :
    raw = (ofPath.filter fun entries =>
      !decide (∃ other ∈ own.filterMap Value.asMap?, SameAsWritten entries other)) ++
        own.filterMap Value.asMap? := by
  obtain ⟨declared, hdeclared, h⟩ := bind_eq_ok.mp h
  obtain ⟨inherited, hinherited, h⟩ := bind_eq_ok.mp h
  obtain ⟨hown, hownIdentity⟩ := identified_of_own hdeclared
  obtain ⟨hpath, hpathIdentity⟩ := identified_of_path hinherited
  rw [← Except.ok.inj h, List.map_append, hown, hpath, List.filter_map]
  congr 2
  refine List.filter_congr fun candidate hcandidate => ?_
  have hidentity := hpathIdentity candidate hcandidate
  rw [Function.comp_apply]
  congr 1
  rw [Bool.eq_iff_iff, List.any_eq_true, decide_eq_true_eq]
  constructor
  · rintro ⟨override, hoverride, hsame⟩
    exact ⟨override.1, List.mem_map_of_mem hoverride,
      (same_iff_sameAsWritten hidentity (hownIdentity override hoverride)).mp hsame⟩
  · rintro ⟨_, hother, hsame⟩
    obtain ⟨override, hoverride, rfl⟩ := List.mem_map.mp hother
    exact ⟨override, hoverride,
      (same_iff_sameAsWritten hidentity (hownIdentity override hoverride)).mpr hsame⟩

/-! ## Typed parameters -/

theorem of_ofEntries_eq_ok {location : ParameterLocation}
    (h : ofEntries location entries = .ok parameter) :
    parameter.name = nameOf entries ∧ parameter.location = location := by
  simp only [ofEntries] at h
  obtain ⟨name, hname, h⟩ := bind_eq_ok.mp h
  obtain ⟨schema, -, h⟩ := bind_eq_ok.mp h
  obtain ⟨extensions, -, h⟩ := bind_eq_ok.mp h
  unfold checked at h
  split at h
  · cases h
    refine ⟨?_, rfl⟩
    unfold writtenUnder at hname
    unfold nameOf
    cases hvalue : Entries.get? entries "name" with
    | none =>
        rw [hvalue] at hname
        cases hname
        rfl
    | some value =>
        simp only [hvalue, written] at hname
        split at hname
        · cases hname
          rfl
        · cases hname
  · cases h

/-- Raw entries declare a parameter of some name and location. -/
def Declares (entries : List (Scalar × Value)) (parameter : Parameter) : Prop :=
  nameOf entries = parameter.name ∧ locationOf? entries = some parameter.location

/-- Raw parameters at known locations and the parameters that they declare, in pairs.  Those that
satisfy a condition declare those in their pairs. -/
theorem exists_pairs_of_ofList_eq_ok (h : ofList raw = .ok typed) :
    ∃ pairs : List (List (Scalar × Value) × Parameter),
      pairs.map Prod.fst = raw.filter (fun entries => (locationOf? entries).isSome) ∧
      pairs.map Prod.snd = typed ∧ (∀ pair ∈ pairs, Declares pair.1 pair.2) ∧
      ∀ condition : List (Scalar × Value) → Bool, ofList (raw.filter condition) =
        .ok ((pairs.filter fun pair => condition pair.1).map Prod.snd) := by
  induction raw generalizing typed with
  | nil =>
      cases h
      exact ⟨[], rfl, rfl, nofun, fun condition => rfl⟩
  | cons entries rest ih =>
      rw [ofList] at h
      cases hlocation : locationOf? entries with
      | none =>
          rw [hlocation] at h
          obtain ⟨pairs, hfst, hsnd, hdeclares, hfilter⟩ := ih h
          refine ⟨pairs, ?_, hsnd, hdeclares, fun condition => ?_⟩
          · rw [hfst, List.filter_cons_of_neg (by simp [hlocation])]
          · rw [List.filter_cons]
            split
            · rw [ofList, hlocation]
              exact hfilter condition
            · exact hfilter condition
      | some location =>
          rw [hlocation] at h
          obtain ⟨parameter, hparameter, h⟩ := bind_eq_ok.mp h
          obtain ⟨others, hothers, h⟩ := bind_eq_ok.mp h
          cases h
          obtain ⟨pairs, hfst, hsnd, hdeclares, hfilter⟩ := ih hothers
          obtain ⟨hname, hat⟩ := of_ofEntries_eq_ok hparameter
          refine ⟨(entries, parameter) :: pairs, ?_, ?_, ?_, fun condition => ?_⟩
          · rw [List.map_cons, hfst, List.filter_cons_of_pos (by simp [hlocation])]
          · rw [List.map_cons, hsnd]
          · exact List.forall_mem_cons.mpr ⟨⟨hname.symm, by rw [hlocation, hat]⟩, hdeclares⟩
          · rw [List.filter_cons, List.filter_cons]
            split
            · rw [ofList, hlocation]
              exact bind_eq_ok.mpr ⟨parameter, hparameter,
                bind_eq_ok.mpr ⟨_, hfilter condition, rfl⟩⟩
            · exact hfilter condition

theorem ofList_append_eq_ok {front back : List (List (Scalar × Value))} :
    ofList (front ++ back) = .ok typed ↔
      ∃ first second, ofList front = .ok first ∧ ofList back = .ok second ∧
        typed = first ++ second := by
  simp only [ofList_eq_mapM, List.filterMap_append, List.mapM_append, bind_eq_ok]
  constructor
  · rintro ⟨first, hfirst, second, hsecond, h⟩
    cases h
    exact ⟨first, second, hfirst, hsecond, rfl⟩
  · rintro ⟨first, second, hfirst, hsecond, rfl⟩
    exact ⟨first, hfirst, second, hsecond, rfl⟩

/-- A parameter has a namesake among others exactly if its raw form is the same as one of theirs,
once they are typed. -/
theorem any_isNamesake_iff (hdeclares : Declares entries parameter) (h : ofList raw = .ok typed) :
    typed.any parameter.isNamesake = true ↔ ∃ other ∈ raw, SameAsTyped entries other := by
  obtain ⟨pairs, hfst, rfl, hall, -⟩ := exists_pairs_of_ofList_eq_ok h
  obtain ⟨hname, hlocation⟩ := hdeclares
  rw [List.any_eq_true]
  constructor
  · rintro ⟨_, hmem, hsame⟩
    obtain ⟨pair, hpair, rfl⟩ := List.mem_map.mp hmem
    obtain ⟨hotherName, hotherLocation⟩ := hall pair hpair
    rw [isNamesake, Bool.and_eq_true, beq_iff_eq, beq_iff_eq] at hsame
    have hmem : pair.1 ∈ pairs.map Prod.fst := List.mem_map_of_mem hpair
    rw [hfst] at hmem
    refine ⟨pair.1, List.mem_of_mem_filter hmem, ?_, parameter.location, hlocation, ?_⟩
    · rw [hname, hotherName, hsame.1]
    · rw [hotherLocation, hsame.2]
  · rintro ⟨other, hother, hsameName, location, hat, hotherAt⟩
    have hmem : other ∈ pairs.map Prod.fst := by
      rw [hfst]
      exact List.mem_filter.mpr ⟨hother, by rw [hotherAt]; rfl⟩
    obtain ⟨pair, hpair, rfl⟩ := List.mem_map.mp hmem
    obtain ⟨hotherName, hotherLocation⟩ := hall pair hpair
    refine ⟨pair.2, List.mem_map_of_mem hpair, ?_⟩
    rw [isNamesake, Bool.and_eq_true, beq_iff_eq, beq_iff_eq]
    refine ⟨?_, ?_⟩
    · rw [← hname, ← hotherName, hsameName]
    · exact Option.some.inj ((hlocation.symm.trans hat).trans (hotherAt.symm.trans hotherLocation))

/-! ## Names and locations that are written as texts -/

theorem eq_name_of_ofName? {name : String} {location : ParameterLocation}
    (h : ParameterLocation.ofName? name = some location) : name = location.name := by
  have hnamed := List.find?_some h
  exact (beq_iff_eq.mp hnamed).symm

theorem writtenPart_of_text {text : String} (h : Entries.get? entries key = some (.text text)) :
    writtenPart entries key = .text text := by
  rw [writtenPart, h]
  rfl

theorem locationOf?_of_text {location : String}
    (h : Entries.get? entries "in" = some (.text location)) :
    locationOf? entries = ParameterLocation.ofName? location := by
  rw [locationOf?, h]
  rfl

theorem nameOf_of_writtenPart {name : String} (h : writtenPart entries "name" = .text name) :
    nameOf entries = name := by
  unfold writtenPart at h
  unfold nameOf
  cases hvalue : Entries.get? entries "name" with
  | none =>
      rw [hvalue] at h
      cases h
      rfl
  | some value =>
      rw [hvalue] at h
      cases h
      rfl

theorem samePart_iff_of_texts {left right : String} (hleft : writtenPart entries key = .text left)
    (hright : writtenPart other key = .text right) : SamePart key entries other ↔ left = right := by
  constructor
  · rintro ⟨_, _, hleftPart, hrightPart, hsame⟩
    cases hleft.symm.trans hleftPart
    cases hright.symm.trans hrightPart
    cases hsame
    rfl
  · rintro rfl
    exact ⟨_, _, hleft, hright, rfl⟩

theorem PlainlyNamed.sameAsWritten_iff (hentries : PlainlyNamed entries)
    (hother : PlainlyNamed other) (hknown : (locationOf? entries).isSome = true) :
    SameAsWritten entries other ↔ SameAsTyped entries other := by
  obtain ⟨⟨name, hname⟩, location, hlocation⟩ := hentries
  obtain ⟨⟨otherName, hotherName⟩, otherLocation, hotherLocation⟩ := hother
  rw [SameAsWritten, SameAsTyped, samePart_iff_of_texts hname hotherName,
    samePart_iff_of_texts (writtenPart_of_text hlocation) (writtenPart_of_text hotherLocation),
    nameOf_of_writtenPart hname, nameOf_of_writtenPart hotherName]
  rw [locationOf?_of_text hlocation] at hknown ⊢
  rw [locationOf?_of_text hotherLocation]
  refine and_congr_right fun _ => ⟨?_, ?_⟩
  · rintro rfl
    obtain ⟨known, hknown⟩ := Option.isSome_iff_exists.mp hknown
    exact ⟨known, hknown, hknown⟩
  · rintro ⟨known, hfirst, hsecond⟩
    rw [eq_name_of_ofName? hfirst, eq_name_of_ofName? hsecond]

theorem identitiesAgree_of_plainlyNamed {declared : List (List (Scalar × Value))}
    (h : ∀ other ∈ ofPath ++ declared, PlainlyNamed other) : IdentitiesAgree ofPath declared := by
  intro entries hentries hknown
  have hplain := h entries (List.mem_append_left _ hentries)
  constructor
  · rintro ⟨other, hother, hsame⟩
    have hotherPlain := h other (List.mem_append_right _ hother)
    exact ⟨other, hother, (hplain.sameAsWritten_iff hotherPlain hknown).mp hsame⟩
  · rintro ⟨other, hother, hsame⟩
    have hotherPlain := h other (List.mem_append_right _ hother)
    exact ⟨other, hother, (hplain.sameAsWritten_iff hotherPlain hknown).mpr hsame⟩

end Parameter

/-! ## Operations and their paths -/

section PathItem

open Parameter

variable {entries declared : List (Scalar × Value)} {ofPath : List (List (Scalar × Value))}
  {item : PathItem} {operation : Operation} {method : Method}

theorem PathItem.eq_declaredIn_of_rawParameters_eq (h : rawParameters entries = .ok ofPath) :
    ofPath = declaredIn entries := by
  obtain ⟨items, hitems, h⟩ := bind_eq_ok.mp h
  cases h
  rw [declaredIn, eq_parts_of_itemsOrNone_eq hitems]

/-- An operation of a path item is one that it began with or one that is declared for the method. -/
theorem PathItem.of_withOperations_eq_ok {methods : List Method} {start : PathItem}
    (h : withOperations ofPath entries methods start = .ok item)
    (hoperation : item.operation? method = some operation) :
    start.operation? method = some operation ∨
      ∃ declared, Entries.getOrNull entries method.name = .map declared ∧
        Operation.ofEntries ofPath declared = .ok operation := by
  induction methods generalizing start with
  | nil =>
      cases h
      exact Or.inl hoperation
  | cons first rest ih =>
      rw [withOperations] at h
      split at h
      · next declared hdeclared =>
          obtain ⟨built, hbuilt, h⟩ := bind_eq_ok.mp h
          rcases ih h with hstart | hlater
          · rw [operation?_withOperation] at hstart
            split at hstart
            · next hmethod =>
                cases hstart
                exact Or.inr ⟨declared, hmethod ▸ hdeclared, hbuilt⟩
            · exact Or.inl hstart
          · exact Or.inr hlater
      · exact ih h

theorem PathItem.of_ofEntries_eq_ok (h : ofEntries entries = .ok item)
    (hoperation : item.operation? method = some operation) :
    Parameter.ofList (declaredIn entries) = .ok item.parameters ∧
      ∃ declared, Entries.getOrNull entries method.name = .map declared ∧
        Operation.ofEntries (declaredIn entries) declared = .ok operation := by
  obtain ⟨ofPath, hofPath, h⟩ := bind_eq_ok.mp h
  obtain ⟨built, hbuilt, h⟩ := bind_eq_ok.mp h
  obtain ⟨parameters, hparameters, h⟩ := bind_eq_ok.mp h
  cases h
  rw [eq_declaredIn_of_rawParameters_eq hofPath] at hbuilt hparameters
  have hsame : built.operation? method = some operation := by
    cases method <;> exact hoperation
  refine ⟨hparameters, ?_⟩
  rcases of_withOperations_eq_ok hbuilt hsame with hstart | hdeclared
  · cases method <;> cases hstart
  · exact hdeclared

theorem Operation.of_ofEntries_eq_ok (h : ofEntries ofPath declared = .ok operation) :
    ∃ raw, rawParameters ofPath declared = .ok raw ∧
      Parameter.ofList raw = .ok operation.parameters := by
  simp only [ofEntries] at h
  obtain ⟨raw, hraw, h⟩ := bind_eq_ok.mp h
  obtain ⟨parameters, hparameters, h⟩ := bind_eq_ok.mp h
  obtain ⟨mapping, -, h⟩ := bind_eq_ok.mp h
  obtain ⟨responses, -, h⟩ := bind_eq_ok.mp h
  obtain ⟨security, -, h⟩ := bind_eq_ok.mp h
  obtain ⟨extensions, -, h⟩ := bind_eq_ok.mp h
  unfold checked at h
  split at h
  · cases h
    exact ⟨raw, hraw, hparameters⟩
  · cases h

/-- **When an operation overrides the parameters of its path.**  Of a path item that is built, every
operation has some of the parameters of the path, in order, and then its own.  They are those that
have no namesake among its own exactly if what is written and what is typed agree on them; and they
agree if every location is written, and no name is anything but a text. -/
theorem overrides_path_iff (hitem : PathItem.ofEntries entries = .ok item)
    (hoperation : item.operation? method = some operation) :
    ∃ declared own kept, Entries.getOrNull entries method.name = .map declared ∧
      Parameter.ofList (declaredIn entries) = .ok item.parameters ∧
      Parameter.ofList (declaredIn declared) = .ok own ∧
      operation.parameters = kept ++ own ∧ kept.Sublist item.parameters ∧
      (Overrides item.parameters own operation.parameters ↔
        IdentitiesAgree (declaredIn entries) (declaredIn declared)) ∧
      ((∀ other ∈ declaredIn entries ++ declaredIn declared, PlainlyNamed other) →
        Overrides item.parameters own operation.parameters) := by
  classical
  obtain ⟨hinherited, declared, hdeclared, hbuilt⟩ := PathItem.of_ofEntries_eq_ok hitem hoperation
  obtain ⟨raw, hraw, hparameters⟩ := Operation.of_ofEntries_eq_ok hbuilt
  obtain ⟨items, hitems, hmerged⟩ := bind_eq_ok.mp hraw
  rw [of_merge_eq_ok hmerged, eq_parts_of_itemsOrNone_eq hitems] at hparameters
  obtain ⟨kept, own, hkept, hown, hresult⟩ := ofList_append_eq_ok.mp hparameters
  change ofList (declaredIn declared) = .ok own at hown
  obtain ⟨pairs, hfst, hsnd, hdeclares, hfilter⟩ := exists_pairs_of_ofList_eq_ok hinherited
  obtain rfl := Except.ok.inj ((hfilter _).symm.trans hkept)
  have hiff : Overrides item.parameters own operation.parameters ↔
      IdentitiesAgree (declaredIn entries) (declaredIn declared) := by
    rw [Overrides, hresult, List.append_left_inj, ← hsnd, map_filter_eq_filter_map_iff]
    have hpair : ∀ pair ∈ pairs,
        ((!decide (∃ other ∈ declaredIn declared, SameAsWritten pair.1 other)) =
            !own.any pair.2.isNamesake ↔
          ((∃ other ∈ declaredIn declared, SameAsWritten pair.1 other) ↔
            ∃ other ∈ declaredIn declared, SameAsTyped pair.1 other)) := by
      intro pair hpair
      rw [Bool.not_inj_iff, Bool.eq_iff_iff, decide_eq_true_eq,
        any_isNamesake_iff (hdeclares pair hpair) hown]
    constructor
    · intro h raw hraw hknown
      have hpaired : raw ∈ pairs.map Prod.fst := hfst ▸ List.mem_filter.mpr ⟨hraw, hknown⟩
      obtain ⟨pair, hmem, rfl⟩ := List.mem_map.mp hpaired
      exact (hpair pair hmem).mp (h pair hmem)
    · intro h pair hmem
      have hraw : pair.1 ∈ pairs.map Prod.fst := List.mem_map_of_mem hmem
      rw [hfst] at hraw
      obtain ⟨hraw, hknown⟩ := List.mem_filter.mp hraw
      exact (hpair pair hmem).mpr (h pair.1 hraw hknown)
  refine ⟨declared, own, _, hdeclared, hinherited, hown, hresult, ?_, hiff, fun hplain => ?_⟩
  · rw [← hsnd]
    exact List.filter_sublist.map _
  · exact hiff.mpr (identitiesAgree_of_plainlyNamed hplain)

end PathItem

/-! ## Pages of a catalogue -/

namespace Sample

open Parameter

/-- A raw parameter named `page`. -/
def pageParameter (others : List (Scalar × Value)) : List (Scalar × Value) :=
  (.text "name", .text "page") :: others

/-- A path with the parameters `page` and `size` in the query, whose GET declares `page` itself. -/
def pages (others : List (Scalar × Value)) : List (Scalar × Value) :=
  [(.text "parameters", .list [.map (pageParameter [(.text "in", .text "query")]),
      .map [(.text "name", .text "size"), (.text "in", .text "query")]]),
    (.text "get", .map [(.text "parameters", .list [.map (pageParameter others)])])]

theorem exists_pages {others : List (Scalar × Value)} {shown : List (String × ParameterLocation)}
    (hrun : ((PathItem.ofEntries (pages others)).toOption.bind (PathItem.operation? · .get)).map
      (fun operation => operation.parameters.map fun parameter =>
        (parameter.name, parameter.location)) = some shown) :
    ∃ item operation, PathItem.ofEntries (pages others) = .ok item ∧
      item.operation? .get = some operation ∧
      (operation.parameters.map fun parameter => (parameter.name, parameter.location)) = shown := by
  obtain ⟨operation, hfound, hshown⟩ := Option.map_eq_some_iff.mp hrun
  obtain ⟨item, hitem, hoperation⟩ := Option.bind_eq_some_iff.mp hfound
  refine ⟨item, operation, ?_, hoperation, hshown⟩
  cases hbuilt : PathItem.ofEntries (pages others) with
  | error fault =>
      rw [hbuilt] at hitem
      cases hitem
  | ok built =>
      rw [hbuilt] at hitem
      cases hitem
      rfl

/-- Where `page` is declared with its location, it overrides that of the path. -/
theorem pages_override : ∃ item operation own,
    PathItem.ofEntries (pages [(.text "in", .text "query")]) = .ok item ∧
      item.operation? .get = some operation ∧
      (operation.parameters.map fun parameter => (parameter.name, parameter.location)) =
        [("size", .query), ("page", .query)] ∧
      Overrides item.parameters own operation.parameters := by
  obtain ⟨item, operation, hitem, hoperation, hshown⟩ :=
    @exists_pages [(.text "in", .text "query")] [("size", .query), ("page", .query)]
      (by decide +kernel)
  obtain ⟨declared, own, kept, hdeclared, -, -, -, -, -, hplain⟩ :=
    overrides_path_iff hitem hoperation
  cases hdeclared
  refine ⟨item, operation, own, hitem, hoperation, hshown, hplain ?_⟩
  have hlisted : declaredIn (pages [(.text "in", .text "query")]) ++
      declaredIn
          [(.text "parameters", .list [.map (pageParameter [(.text "in", .text "query")])])] =
        [pageParameter [(.text "in", .text "query")],
          [(.text "name", .text "size"), (.text "in", .text "query")],
          pageParameter [(.text "in", .text "query")]] := rfl
  rw [hlisted]
  simp only [List.forall_mem_cons]
  exact ⟨⟨⟨_, rfl⟩, _, rfl⟩, ⟨⟨_, rfl⟩, _, rfl⟩, ⟨⟨_, rfl⟩, _, rfl⟩, nofun⟩

/-- **An operation may repeat a parameter of its path without overriding it.**  The one leaves out
that it travels in the query. -/
theorem exists_not_overriding : ¬ ∀ (entries declared : List (Scalar × Value)) (item : PathItem)
    (method : Method) (operation : Operation) (own : List Parameter),
    PathItem.ofEntries entries = .ok item → item.operation? method = some operation →
    Entries.getOrNull entries method.name = .map declared →
    Parameter.ofList (declaredIn declared) = .ok own →
    Overrides item.parameters own operation.parameters := by
  intro hall
  let shown (parameter : Parameter) := (parameter.name, parameter.location)
  obtain ⟨item, operation, hitem, hoperation, hshown⟩ :=
    @exists_pages [] [("page", .query), ("size", .query), ("page", .query)] (by decide +kernel)
  have hrun : (Parameter.ofList [pageParameter []]).toOption.map (List.map shown) =
      some [("page", .query)] := by
    decide +kernel
  obtain ⟨own, hown, hownShown⟩ := exists_of_toOption_map_eq_some hrun
  have hoverrides := hall (pages []) _ item .get operation own hitem hoperation rfl hown
  -- what is left of the path has `page`, which the operation declares too
  have hkept : ("page", ParameterLocation.query) ∈
      (item.parameters.filter fun parameter => !own.any parameter.isNamesake).map shown := by
    have happend := congrArg (List.map shown) hoverrides
    rw [List.map_append, hownShown] at happend
    have hboth := happend.symm.trans hshown
    have hsplit : [("page", ParameterLocation.query), ("size", .query), ("page", .query)] =
        [("page", .query), ("size", .query)] ++ [("page", .query)] := rfl
    rw [hsplit, List.append_left_inj] at hboth
    rw [hboth]
    exact List.mem_cons_self
  obtain ⟨parameter, hparameter, hnamed⟩ := List.mem_map.mp hkept
  have hpage : ("page", ParameterLocation.query) ∈ own.map shown := by
    rw [hownShown]
    exact List.mem_cons_self
  obtain ⟨override, hoverride, hsame⟩ := List.mem_map.mp hpage
  have hnone := (List.mem_filter.mp hparameter).2
  have hany : own.any parameter.isNamesake = true := by
    refine List.any_eq_true.mpr ⟨override, hoverride, ?_⟩
    obtain ⟨hname, hlocation⟩ := Prod.mk.inj (hnamed.trans hsame.symm)
    rw [isNamesake, hname, hlocation]
    simp
  rw [hany] at hnone
  cases hnone

end Sample

end ResourceGraph
