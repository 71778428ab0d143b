import ResourceGraph.Proofs.Order.Document

/-!
# The faults of a document

The building of a document stops at the first thing that is wrong.  Here everything that is wrong is
listed from the values alone, whether the building gets there or not, in the order in which it would
be met: `Schema.faults`, `Operation.faults` and so on up to `Document.faults`.

For each builder one lemma says that it fails exactly if something is listed, and then with what
stands first (`Reports`).  A part is listed after the parts that are built before it, so a lemma
follows from those about the parts, put together in the same order (`Reports.bind`).  What a later
part depends on is never more than the raw entries: which keys have a mapping, and which raw
parameters apply to an operation.
-/

namespace ResourceGraph

/-! ## Results and lists of faults -/

/-- A result fails exactly if there are faults, and then with the first of them. -/
def Reports {ε α : Type} (result : Except ε α) (faults : List ε) : Prop :=
  failure? result = faults.head?

namespace Reports

variable {ε ε' α β : Type} {result first : Except ε α} {next : α → Except ε β}
  {faults others : List ε} {fault : ε}

theorem ok (value : α) : Reports (.ok value : Except ε α) [] := rfl

theorem error (fault : ε) : Reports (.error fault : Except ε α) [fault] := rfl

/-- What goes wrong first is listed first. -/
theorem bind (hfirst : Reports first faults)
    (hnext : ∀ value, first = .ok value → Reports (next value) others) :
    Reports (first >>= next) (faults ++ others) := by
  cases first with
  | error cause =>
      cases faults with
      | nil => cases hfirst
      | cons fault rest => exact hfirst
  | ok value =>
      cases faults with
      | nil => exact hnext value rfl
      | cons fault rest => cases hfirst

/-- What is only passed on through a function fails as it does itself. -/
theorem bind_pure (h : Reports first faults) (f : α → β) :
    Reports (first >>= fun value => pure (f value)) faults := by
  rw [← List.append_nil faults]
  exact h.bind fun value _ => ok (f value)

theorem map (h : Reports result faults) (f : α → β) : Reports (result.map f) faults := by
  cases result with
  | error cause => exact h
  | ok value => exact h

theorem mapError (h : Reports result faults) (f : ε → ε') :
    Reports (result.mapError f) (faults.map f) := by
  rw [Reports, List.head?_map, ← h]
  cases result <;> rfl

theorem check {holds : Bool} (value : α) (fault : ε) :
    Reports (if holds then .ok value else .error fault) (if holds then [] else [fault]) := by
  cases holds <;> rfl

theorem mapM {items : List α} {f : α → Except ε β} {faults : α → List ε}
    (h : ∀ item ∈ items, Reports (f item) (faults item)) :
    Reports (items.mapM f) (items.flatMap faults) := by
  induction items with
  | nil => exact ok []
  | cons item rest ih =>
      rw [List.mapM_cons, List.flatMap_cons]
      refine (h item (List.mem_cons_self ..)).bind fun value _ => ?_
      exact (ih fun other hother => h other (List.mem_cons_of_mem _ hother)).bind_pure _

end Reports

/-! ## Values -/

namespace Value

/-- The entries of a mapping, none of any other value. -/
def members (value : Value) : List (Scalar × Value) := value.asMap?.getD []

/-- The entries of a mapping whose values are mappings themselves. -/
def declarations (value : Value) : List (Scalar × Value) :=
  value.members.filter fun entry => entry.2.isMap

/-- The items of a value that can be gone through, none of any other. -/
def parts (value : Value) : List Value := value.elements?.getD []

end Value

/-- What is wrong with a value that should be a mapping or empty. -/
def mappingFaults (value : Value) : List DocumentFault :=
  if value.isMap || value.isEmpty then [] else [.shape .notAMapping]

/-- What is wrong with a value that is gone through item by item. -/
def itemFaults (value : Value) : List DocumentFault :=
  if value.elements?.isSome then [] else [.shape .notIterable]

/-- What is wrong with a value that is gone through item by item unless it is empty. -/
def itemOrNoneFaults (value : Value) : List DocumentFault :=
  if value.isEmpty then [] else itemFaults value

/-- What is wrong with a value that is written as a text. -/
def writingFaults (value : Value) : List DocumentFault :=
  if value.isWritable then [] else [.shape .unwritable]

/-- What is wrong with a key that should be a text. -/
def keyFault? : Scalar → Option DocumentFault
  | .text _ => none
  | .bytes _ => some (.shape .keyOfBytes)
  | _ => some (.shape .keyNotText)

/-- What is wrong with the keys of entries among which vendor extensions are looked for. -/
def keyFaults (entries : List (Scalar × Value)) : List DocumentFault :=
  entries.filterMap fun entry => keyFault? entry.1

/-- The fault of a part with mismatches. -/
def mismatchFaults (part : DocumentPart) (mismatches : List Mismatch) : List DocumentFault :=
  if mismatches.isEmpty then [] else [.malformed part mismatches]

theorem mappingOf_reports (value : Value) : Reports (mappingOf value) (mappingFaults value) := by
  cases value with
  | map entries => exact .ok entries
  | pair first second => exact .error _
  | _ => exact .check [] _

theorem eq_members_of_mappingOf_eq {value : Value} {entries : List (Scalar × Value)}
    (h : mappingOf value = .ok entries) : entries = value.members := by
  unfold mappingOf at h
  split at h
  · exact (Except.ok.inj h).symm
  · split at h
    · rename_i hmap _
      cases value with
      | map entries => exact absurd rfl (hmap entries)
      | _ => exact (Except.ok.inj h).symm
    · cases h

theorem itemsOf_reports (value : Value) : Reports (itemsOf value) (itemFaults value) := by
  rw [itemsOf, itemFaults]
  cases value.elements? with
  | none => exact .error _
  | some items => exact .ok items

theorem itemsOrNone_reports (value : Value) :
    Reports (itemsOrNone value) (itemOrNoneFaults value) := by
  rw [itemsOrNone, itemOrNoneFaults]
  split
  · exact .ok []
  · exact itemsOf_reports value

theorem eq_parts_of_itemsOf_eq {value : Value} {items : List Value}
    (h : itemsOf value = .ok items) : items = value.parts := by
  rw [itemsOf] at h
  rw [Value.parts]
  cases helements : value.elements? with
  | none =>
      rw [helements] at h
      cases h
  | some elements =>
      rw [helements] at h
      exact (Except.ok.inj h).symm

/-- An empty value has no items, whether it can be gone through or not. -/
theorem parts_eq_nil_of_isEmpty {value : Value} (h : value.isEmpty = true) : value.parts = [] := by
  cases value with
  | scalar scalar =>
      cases scalar with
      | text characters =>
          have hcharacters : characters = "" := String.isEmpty_iff.mp h
          rw [hcharacters]
          rfl
      | bytes bytes =>
          have hbytes : bytes = [] := List.isEmpty_iff.mp h
          rw [hbytes]
          rfl
      | _ => rfl
  | list items =>
      have hitems : items = [] := List.isEmpty_iff.mp h
      rw [hitems]
      rfl
  | map entries =>
      have hentries : entries = [] := List.isEmpty_iff.mp h
      rw [hentries]
      rfl
  | set members =>
      have hmembers : members = [] := List.isEmpty_iff.mp h
      rw [hmembers]
      rfl
  | pair first second => cases h

theorem eq_parts_of_itemsOrNone_eq {value : Value} {items : List Value}
    (h : itemsOrNone value = .ok items) : items = value.parts := by
  rw [itemsOrNone] at h
  split at h
  · rename_i hempty
    rw [parts_eq_nil_of_isEmpty hempty]
    exact (Except.ok.inj h).symm
  · exact eq_parts_of_itemsOf_eq h

theorem written_reports (value : Value) : Reports (written value) (writingFaults value) :=
  .check _ _

theorem writtenOrNone_reports (value : Value) :
    Reports (writtenOrNone value) (writingFaults value) := by
  unfold writtenOrNone
  split
  · exact .ok none
  · exact (written_reports value).map some

theorem writtenUnder_reports (entries : List (Scalar × Value)) (key default : String) :
    Reports (writtenUnder entries key default) (writingFaults (Entries.getOrNull entries key)) := by
  rw [writtenUnder, Entries.getOrNull]
  cases Entries.get? entries key with
  | none => exact .ok default
  | some value => exact written_reports value

theorem extensionsOf_reports (entries : List (Scalar × Value)) :
    Reports (extensionsOf entries) (keyFaults entries) := by
  induction entries with
  | nil => exact .ok []
  | cons entry rest ih =>
      obtain ⟨key, value⟩ := entry
      cases key with
      | text key => exact ih.bind_pure _
      | _ => rfl

theorem checked_reports {α : Type} (part : DocumentPart) (mismatches : List Mismatch) (value : α) :
    Reports (checked part mismatches value) (mismatchFaults part mismatches) :=
  .check _ _

/-! ## Mappings among the values -/

/-- What is wrong with the mappings among the values of some entries, one after the other. -/
def declaredFaults (faults : Scalar → List (Scalar × Value) → List DocumentFault)
    (entries : List (Scalar × Value)) : List DocumentFault :=
  (entries.filter fun entry => entry.2.isMap).flatMap fun entry =>
    faults entry.1 entry.2.members

/-- Whatever is built from the mappings among the values. -/
theorem declared_reports {β : Type}
    (build : Scalar → List (Scalar × Value) → Except DocumentFault β)
    {faults : Scalar → List (Scalar × Value) → List DocumentFault}
    (hbuild : ∀ key declared, Reports (build key declared) (faults key declared))
    (entries : List (Scalar × Value)) :
    Reports ((entries.filter fun entry => entry.2.isMap).mapM fun entry =>
      Parameter.entriesOf entry.2 >>= build entry.1) (declaredFaults faults entries) := by
  refine Reports.mapM fun entry hentry => ?_
  obtain ⟨key, value⟩ := entry
  cases value with
  | map declared => exact hbuild key declared
  | _ => cases (List.mem_filter.mp hentry).2

/-- What is built for the entries comes with their keys. -/
theorem keys_of_mapM_eq {β : Type} {entries : List (Scalar × Value)}
    {build : Scalar × Value → Except DocumentFault (Scalar × β)} {parts : List (Scalar × β)}
    (hkey : ∀ entry part, build entry = .ok part → part.1 = entry.1)
    (h : entries.mapM build = .ok parts) : parts.map Prod.fst = entries.map Prod.fst := by
  have hboth := mapM_eq_ok_iff.mp h
  clear h
  induction hboth with
  | nil => rfl
  | cons hfirst _ ih => rw [List.map_cons, List.map_cons, hkey _ _ hfirst, ih]

/-- Only the keys tell which of them should be texts and are not. -/
theorem keyMismatches_eq {α β : Type} {parts : List (Scalar × α)} {others : List (Scalar × β)}
    (h : parts.map Prod.fst = others.map Prod.fst) :
    Document.keyMismatches parts = Document.keyMismatches others := by
  rw [Document.keyMismatches, Document.keyMismatches, ← List.flatMap_map Prod.fst,
    ← List.flatMap_map Prod.fst, h]

/-! ## Schemas -/

namespace Schema

/-- What is wrong with the type that a schema names. -/
def typeFaults (entries : List (Scalar × Value)) : List DocumentFault :=
  match Entries.getOrNull entries "type" with
  | .list items =>
    (items.find? fun item => item.asText? != some "null").elim [] writingFaults
  | other => writingFaults other

/-- What is wrong with the schemas in a schema. -/
structure PartFaults where
  properties : List DocumentFault := []
  items : List DocumentFault := []

/-- What is wrong with the fields of a schema that should hold texts and with the names of its
properties. -/
def mismatches (entries : List (Scalar × Value)) : List Mismatch :=
  Mismatch.ofField "description"
      (Mismatch.ofOptionalText (Entries.getOrNull entries "description")) ++
    Mismatch.ofField "properties"
      (Document.keyMismatches (Entries.getOrNull entries "properties").declarations) ++
    Mismatch.ofField "ref" (Mismatch.ofOptionalText (Entries.getOrNull entries "$ref"))

/-- What is wrong with a schema, given what is wrong with the schemas in it. -/
def assembledFaults (entries : List (Scalar × Value)) (parts : PartFaults) : List DocumentFault :=
  typeFaults entries ++ parts.properties ++
    itemOrNoneFaults (Entries.getOrNull entries "required") ++ parts.items ++ keyFaults entries ++
    mismatchFaults .schema (mismatches entries)

mutual

/-- What is wrong with the schema that a value declares; only a mapping declares one. -/
def faults : Value → List DocumentFault
  | .map entries => assembledFaults entries (partFaults entries)
  | _ => []

/-- What is wrong with the schemas among the entries of a schema. -/
def partFaults : List (Scalar × Value) → PartFaults
  | [] => {}
  | (key, value) :: rest =>
    if key == .text "properties" then { partFaults rest with properties := propertiesFaults value }
    else if key == .text "items" then { partFaults rest with items := itemsFaults value }
    else partFaults rest

/-- What is wrong with the properties that a value declares. -/
def propertiesFaults : Value → List DocumentFault
  | .map entries => memberFaults entries
  | other => mappingFaults other

/-- What is wrong with the schemas among the values of entries. -/
def memberFaults : List (Scalar × Value) → List DocumentFault
  | [] => []
  | (_, value) :: rest => faults value ++ memberFaults rest

/-- What is wrong with the schema of the items of a list. -/
def itemsFaults : Value → List DocumentFault
  | .map entries => assembledFaults entries (partFaults entries)
  | .list (first :: _) => faults first
  | _ => []

end

variable {entries : List (Scalar × Value)} {value : Value}

theorem typeOf_reports (entries : List (Scalar × Value)) :
    Reports (typeOf entries) (typeFaults entries) := by
  unfold typeOf typeFaults
  cases Entries.getOrNull entries "type" with
  | list items =>
      cases hfound : items.find? fun item => item.asText? != some "null" with
      | none =>
          simp only [hfound]
          exact .ok none
      | some item =>
          simp only [hfound]
          exact (written_reports item).map some
  | _ => exact writtenOrNone_reports _

theorem requiredOf_reports (entries : List (Scalar × Value)) :
    Reports (requiredOf entries) (itemOrNoneFaults (Entries.getOrNull entries "required")) :=
  (itemsOrNone_reports _).bind_pure _

theorem partFaults_eq (entries : List (Scalar × Value)) : partFaults entries =
    { properties := (Entries.get? entries "properties").elim [] propertiesFaults
      items := (Entries.get? entries "items").elim [] itemsFaults } := by
  induction entries with
  | nil => rfl
  | cons entry rest ih =>
      obtain ⟨key, value⟩ := entry
      rw [partFaults, Entries.get?_cons, Entries.get?_cons, ih]
      by_cases hproperties : key = .text "properties"
      · subst hproperties
        simp
      · by_cases hitems : key = .text "items"
        · subst hitems
          simp
        · simp [hproperties, hitems]

theorem keys_of_schemasOf_eq {schemas : List (Scalar × Schema)}
    (h : schemasOf entries = .ok schemas) :
    schemas.map Prod.fst = (entries.filter fun entry => entry.2.isMap).map Prod.fst := by
  rw [schemasOf_eq_mapM] at h
  refine keys_of_mapM_eq (fun entry part hpart => ?_) h
  obtain ⟨schema, -, hsame⟩ := bind_eq_ok.mp hpart
  cases hsame
  rfl

theorem keys_of_propertiesOf_eq {properties : List (Scalar × Schema)}
    (h : propertiesOf value = .ok properties) :
    properties.map Prod.fst = value.declarations.map Prod.fst := by
  unfold propertiesOf at h
  split at h
  · exact keys_of_schemasOf_eq h
  · rename_i other hmap
    split at h
    · obtain rfl := Except.ok.inj h
      cases value with
      | map entries => exact absurd rfl (hmap entries)
      | _ => rfl
    · cases h

theorem assemble_reports {parts : Parts} {faults : PartFaults}
    (hproperties : Reports parts.properties faults.properties)
    (hkeys : ∀ properties, parts.properties = .ok properties → properties.map Prod.fst =
      (Entries.getOrNull entries "properties").declarations.map Prod.fst)
    (hitems : Reports parts.items faults.items) :
    Reports (assemble entries parts) (assembledFaults entries faults) := by
  rw [assembledFaults]
  simp only [List.append_assoc]
  simp only [assemble]
  refine (typeOf_reports entries).bind fun type _ => ?_
  refine hproperties.bind fun properties hok => ?_
  refine (requiredOf_reports entries).bind fun required _ => ?_
  refine hitems.bind fun items _ => ?_
  refine (extensionsOf_reports entries).bind fun extensions _ => ?_
  -- the properties are named by the keys that declare them, which need not be texts
  rw [mismatches, ← keyMismatches_eq (hkeys properties hok)]
  exact checked_reports ..

theorem propertiesOf_reports (h : value.isMap = false) :
    Reports (propertiesOf value) (propertiesFaults value) := by
  cases value with
  | map entries => cases h
  | pair first second => exact .error _
  | _ => exact .check [] _

/-- What is known of a value as a schema, as properties and as the schema of items. -/
structure BuiltReports (value : Value) : Prop where
  schema : value.isMap = true → Reports (ofValue value) (faults value)
  properties : Reports (propertiesOf value) (propertiesFaults value)
  items : Reports (itemSchemaOf value) (itemsFaults value)

theorem partsOf_reports (h : ∀ entry ∈ entries, BuiltReports entry.2) :
    Reports (partsOf entries).properties (partFaults entries).properties ∧
      Reports (partsOf entries).items (partFaults entries).items := by
  have hmem {name : String} {value : Value} (hvalue : Entries.get? entries name = some value) :
      BuiltReports value := by
    obtain ⟨before, after, hsplit, -⟩ := List.lookup_eq_some_iff.mp hvalue
    have hin : (.text name, value) ∈ entries := by
      rw [hsplit]
      simp
    exact h _ hin
  rw [partsOf_eq, partFaults_eq]
  constructor
  · cases hvalue : Entries.get? entries "properties" with
    | none => exact .ok []
    | some value => exact (hmem hvalue).properties
  · cases hvalue : Entries.get? entries "items" with
    | none => exact .ok none
    | some value => exact (hmem hvalue).items

theorem schemasOf_reports_of_parts (h : ∀ entry ∈ entries, BuiltReports entry.2) :
    Reports (schemasOf entries) (memberFaults entries) := by
  induction entries with
  | nil => exact .ok []
  | cons entry rest ih =>
      obtain ⟨key, value⟩ := entry
      obtain ⟨hvalue, hrest⟩ := List.forall_mem_cons.mp h
      rw [schemasOf, memberFaults]
      split
      · rename_i hmap
        exact (hvalue.schema hmap).bind fun schema _ => (ih hrest).bind_pure _
      · rename_i hmap
        cases value with
        | map entries => exact absurd rfl hmap
        | _ => exact ih hrest

/-- A mapping declares a schema, be it on its own or for the items of a list. -/
theorem assemble_partsOf_reports (h : ∀ entry ∈ entries, BuiltReports entry.2) :
    Reports (assemble entries (partsOf entries))
      (assembledFaults entries (partFaults entries)) := by
  obtain ⟨hproperties, hitems⟩ := partsOf_reports h
  refine assemble_reports hproperties (fun properties hok => ?_) hitems
  rw [partsOf_eq] at hok
  rw [Entries.getOrNull]
  cases hvalue : Entries.get? entries "properties" with
  | none =>
      rw [hvalue] at hok
      cases hok
      rfl
  | some value =>
      rw [hvalue] at hok
      exact keys_of_propertiesOf_eq hok

/-- By induction on the value: the schemas in a schema are parts of it. -/
theorem builtReports (value : Value) : BuiltReports value := by
  induction value using Value.induction with
  | map entries ih =>
      have hassembled := assemble_partsOf_reports ih
      refine ⟨fun _ => hassembled, schemasOf_reports_of_parts ih, ?_⟩
      rw [itemSchemaOf, itemsFaults]
      exact hassembled.bind_pure some
  | list items ih =>
      refine ⟨fun hmap => (by cases hmap), propertiesOf_reports rfl, ?_⟩
      -- the first item may declare the schema of all of them
      cases items with
      | nil => exact .ok none
      | cons first rest =>
          rw [itemSchemaOf, itemsFaults]
          split
          · rename_i hmap
            exact ((ih first (List.mem_cons_self ..)).schema hmap).bind_pure some
          · rename_i hmap
            cases first with
            | map entries => exact absurd rfl hmap
            | _ => exact .ok none
  | scalar value =>
      exact ⟨fun hmap => (by cases hmap), propertiesOf_reports rfl, .ok none⟩
  | set members =>
      exact ⟨fun hmap => (by cases hmap), propertiesOf_reports rfl, .ok none⟩
  | pair first second =>
      exact ⟨fun hmap => (by cases hmap), propertiesOf_reports rfl, .ok none⟩

theorem under_reports (entries : List (Scalar × Value)) (key : String) :
    Reports (under entries key) (faults (Entries.getOrNull entries key)) := by
  simp only [under]
  cases hvalue : Entries.getOrNull entries key with
  | map entries => exact ((builtReports (.map entries)).schema rfl).bind_pure some
  | _ => exact .ok none

end Schema

/-! ## Parameters -/

namespace Parameter

/-- What is wrong with a raw parameter at a known location. -/
def faults (entries : List (Scalar × Value)) : List DocumentFault :=
  writingFaults (Entries.getOrNull entries "name") ++
    Schema.faults (Entries.getOrNull entries "schema") ++ keyFaults entries ++
    mismatchFaults .parameter
      (Mismatch.ofField "type" (Mismatch.ofOptionalText (Entries.getOrNull entries "type")))

/-- What is wrong with raw parameters, of which those at an unknown location are passed over. -/
def listFaults (raw : List (List (Scalar × Value))) : List DocumentFault :=
  (raw.filter fun entries => (locationOf? entries).isSome).flatMap faults

/-- What is wrong with a part of the identity of a raw parameter. -/
def identityPartFaults (entries : List (Scalar × Value)) (key : String) : List DocumentFault :=
  match (Entries.get? entries key).getD (.text "") with
  | .scalar _ => []
  | _ => [.shape .compoundKey]

/-- What is wrong with the identity of a raw parameter. -/
def identityFaults (entries : List (Scalar × Value)) : List DocumentFault :=
  identityPartFaults entries "name" ++ identityPartFaults entries "in"

/-- What is wrong with a raw parameter of an operation before it is known to apply. -/
def ownFaults : Value → List DocumentFault
  | .map entries => identityFaults entries
  | _ => [.shape .notAMapping]

theorem ofEntries_reports (location : ParameterLocation) (entries : List (Scalar × Value)) :
    Reports (ofEntries location entries) (faults entries) := by
  rw [faults]
  simp only [List.append_assoc]
  simp only [ofEntries]
  refine (writtenUnder_reports entries "name" "").bind fun name _ => ?_
  refine (Schema.under_reports entries "schema").bind fun schema _ => ?_
  refine (extensionsOf_reports entries).bind fun extensions _ => ?_
  exact checked_reports ..

theorem ofList_reports (raw : List (List (Scalar × Value))) :
    Reports (ofList raw) (listFaults raw) := by
  induction raw with
  | nil => exact .ok []
  | cons entries rest ih =>
      rw [ofList, listFaults, List.filter_cons]
      cases locationOf? entries with
      | none => exact ih
      | some location =>
          exact (ofEntries_reports location entries).bind fun parameter _ => ih.bind_pure _

theorem identityPart_reports (entries : List (Scalar × Value)) (key : String) :
    Reports (identityPart entries key) (identityPartFaults entries key) := by
  rw [identityPart, identityPartFaults]
  cases (Entries.get? entries key).getD (.text "") with
  | scalar value => exact .ok value
  | _ => exact .error _

theorem identityOf_reports (entries : List (Scalar × Value)) :
    Reports (identityOf entries) (identityFaults entries) :=
  (identityPart_reports entries "name").bind fun _ _ =>
    (identityPart_reports entries "in").bind_pure _

theorem merge_reports (ofPath : List (List (Scalar × Value))) (own : List Value) :
    Reports (merge ofPath own) (own.flatMap ownFaults ++ ofPath.flatMap identityFaults) := by
  refine Reports.bind (Reports.mapM fun value _ => ?_) fun declared _ => ?_
  · cases value with
    | map entries => exact (identityOf_reports entries).bind_pure _
    | _ => exact .error _
  · exact (Reports.mapM fun entries _ => (identityOf_reports entries).bind_pure _).bind_pure _

end Parameter

/-! ## Operations -/

/-- What is wrong with a response. -/
def Response.faults (entries : List (Scalar × Value)) : List DocumentFault :=
  Schema.faults (Entries.getOrNull entries "schema") ++
    mismatchFaults .response (Mismatch.ofField "description"
      (Mismatch.ofOptionalText (Entries.getOrNull entries "description")))

theorem Response.ofEntries_reports (status : String) (entries : List (Scalar × Value)) :
    Reports (ofEntries status entries) (faults entries) :=
  (Schema.under_reports entries "schema").bind fun _ _ => checked_reports ..

theorem Response.listOf_reports (entries : List (Scalar × Value)) :
    Reports (listOf entries)
      (declaredFaults (fun key declared => writingFaults (.scalar key) ++ faults declared)
        entries) := by
  rw [listOf_eq]
  refine declared_reports (fun key declared => do
    let status ← written (.scalar key)
    return (status, ← ofEntries status declared)) (fun key declared => ?_) entries
  exact (written_reports _).bind fun status _ => (ofEntries_reports status declared).bind_pure _

namespace Operation

/-- What is wrong with the raw parameters that may apply to an operation. -/
def rawFaults (ofPath : List (List (Scalar × Value))) (entries : List (Scalar × Value)) :
    List DocumentFault :=
  itemOrNoneFaults (Entries.getOrNull entries "parameters") ++
    (Entries.getOrNull entries "parameters").parts.flatMap Parameter.ownFaults ++
    ofPath.flatMap Parameter.identityFaults

/-- What is wrong with the security that an operation declares. -/
def securityFaults : Value → List DocumentFault
  | .null => []
  | other => itemFaults other

/-- The fields of an operation that should hold something else. -/
def mismatches (entries : List (Scalar × Value)) : List Mismatch :=
  Mismatch.ofField "operation_id"
      (Mismatch.ofOptionalText (Entries.getOrNull entries "operationId")) ++
    Mismatch.ofField "summary" (Mismatch.ofOptionalText (Entries.getOrNull entries "summary")) ++
    Mismatch.ofField "security"
      (Mismatch.ofItems Mismatch.ofRequirement (Entries.getOrNull entries "security").parts)

/-- What is wrong with an operation under a path with the given raw parameters. -/
def faults (ofPath : List (List (Scalar × Value))) (entries : List (Scalar × Value)) :
    List DocumentFault :=
  rawFaults ofPath entries ++
    Parameter.listFaults ((rawParameters ofPath entries).toOption.getD []) ++
    mappingFaults (Entries.getOrNull entries "responses") ++
    declaredFaults (fun key declared => writingFaults (.scalar key) ++ Response.faults declared)
      (Entries.getOrNull entries "responses").members ++
    securityFaults (Entries.getOrNull entries "security") ++ keyFaults entries ++
    mismatchFaults .operation (mismatches entries)

theorem rawParameters_reports (ofPath : List (List (Scalar × Value)))
    (entries : List (Scalar × Value)) :
    Reports (rawParameters ofPath entries) (rawFaults ofPath entries) := by
  rw [rawFaults, List.append_assoc]
  refine (itemsOrNone_reports _).bind fun own hown => ?_
  rw [← eq_parts_of_itemsOrNone_eq hown]
  exact Parameter.merge_reports ofPath own

theorem securityOf_reports (value : Value) :
    Reports (securityOf value) (securityFaults value) := by
  by_cases hnull : value = .null
  · subst hnull
    exact .ok none
  · rw [securityOf, securityFaults]
    · exact (itemsOf_reports value).bind_pure some
    · exact hnull
    · exact hnull

theorem getD_eq_parts_of_securityOf_eq {value : Value} {security : Option (List Value)}
    (h : securityOf value = .ok security) : security.getD [] = value.parts := by
  unfold securityOf at h
  split at h
  · cases h
    rfl
  · obtain ⟨items, hitems, hsome⟩ := bind_eq_ok.mp h
    cases hsome
    exact eq_parts_of_itemsOf_eq hitems

theorem ofEntries_reports (ofPath : List (List (Scalar × Value)))
    (entries : List (Scalar × Value)) :
    Reports (ofEntries ofPath entries) (faults ofPath entries) := by
  rw [faults]
  simp only [List.append_assoc]
  simp only [ofEntries]
  refine (rawParameters_reports ofPath entries).bind fun raw hraw => ?_
  -- from here on the raw parameters that apply are known, and only they are gone through
  rw [hraw]
  refine (Parameter.ofList_reports raw).bind fun parameters _ => ?_
  refine (mappingOf_reports _).bind fun declared hdeclared => ?_
  rw [← eq_members_of_mappingOf_eq hdeclared]
  refine (Response.listOf_reports declared).bind fun responses _ => ?_
  refine (securityOf_reports _).bind fun security hsecurity => ?_
  refine (extensionsOf_reports entries).bind fun extensions _ => ?_
  rw [mismatches, ← getD_eq_parts_of_securityOf_eq hsecurity]
  exact checked_reports ..

end Operation

/-! ## Paths -/

namespace PathItem

/-- The raw parameters of a path. -/
def raw (entries : List (Scalar × Value)) : List (List (Scalar × Value)) :=
  (Entries.getOrNull entries "parameters").parts.filterMap Value.asMap?

/-- What is wrong with the operation that a value declares; only a mapping declares one. -/
def operationFaults (ofPath : List (List (Scalar × Value))) : Value → List DocumentFault
  | .map declared => Operation.faults ofPath declared
  | _ => []

/-- What is wrong with a path item. -/
def faults (entries : List (Scalar × Value)) : List DocumentFault :=
  itemOrNoneFaults (Entries.getOrNull entries "parameters") ++
    (Method.all.flatMap fun method =>
      operationFaults (raw entries) (Entries.getOrNull entries method.name)) ++
    Parameter.listFaults (raw entries)

theorem withOperations_reports (ofPath : List (List (Scalar × Value)))
    (entries : List (Scalar × Value)) (methods : List Method) (item : PathItem) :
    Reports (withOperations ofPath entries methods item) (methods.flatMap fun method =>
      operationFaults ofPath (Entries.getOrNull entries method.name)) := by
  induction methods generalizing item with
  | nil => exact .ok item
  | cons method rest ih =>
      rw [withOperations, List.flatMap_cons]
      cases Entries.getOrNull entries method.name with
      | map declared =>
          exact (Operation.ofEntries_reports ofPath declared).bind fun operation _ => ih _
      | _ => exact ih item

theorem ofEntries_reports (entries : List (Scalar × Value)) :
    Reports (ofEntries entries) (faults entries) := by
  rw [faults, List.append_assoc, ofEntries]
  refine Reports.bind ((itemsOrNone_reports _).bind_pure _) fun ofPath hofPath => ?_
  obtain ⟨items, hitems, hraw⟩ := bind_eq_ok.mp hofPath
  have hraw : ofPath = raw entries := by
    rw [← Except.ok.inj hraw, raw, eq_parts_of_itemsOrNone_eq hitems]
  rw [hraw]
  refine (withOperations_reports _ entries Method.all {}).bind fun item _ => ?_
  exact (Parameter.ofList_reports _).bind_pure _

theorem listOf_reports (entries : List (Scalar × Value)) :
    Reports (listOf entries) (declaredFaults (fun _ => faults) entries) := by
  rw [listOf_eq]
  exact declared_reports (fun key declared => do return (key, ← ofEntries declared))
    (fun key declared => (ofEntries_reports declared).bind_pure _) entries

end PathItem

/-! ## Security -/

namespace SecurityDeclaration

/-- The fields of a way of authentication that should hold something else. -/
def mismatches (entries : List (Scalar × Value)) : List Mismatch :=
  Mismatch.ofField "location" (Mismatch.ofOptionalText (Entries.getOrNull entries "in")) ++
    Mismatch.ofField "param_name" (Mismatch.ofOptionalText (Entries.getOrNull entries "name")) ++
    Mismatch.ofField "description"
      (Mismatch.ofOptionalText (Entries.getOrNull entries "description"))

/-- What is wrong with a way of authentication. -/
def faults (entries : List (Scalar × Value)) : List DocumentFault :=
  writingFaults (Entries.getOrNull entries "type") ++ keyFaults entries ++
    mismatchFaults .securityDeclaration (mismatches entries)

theorem ofEntries_reports (entries : List (Scalar × Value)) :
    Reports (ofEntries entries) (faults entries) := by
  rw [faults, List.append_assoc]
  refine (writtenUnder_reports entries "type" "").bind fun type _ => ?_
  exact (extensionsOf_reports entries).bind fun extensions _ => checked_reports ..

theorem listOf_reports (entries : List (Scalar × Value)) :
    Reports (listOf entries) (declaredFaults (fun _ => faults) entries) := by
  rw [listOf_eq]
  exact declared_reports (fun key declared => do return (key, ← ofEntries declared))
    (fun key declared => (ofEntries_reports declared).bind_pure _) entries

end SecurityDeclaration

/-! ## The document -/

namespace Document

/-- What is wrong with a section of a document, which should be a mapping. -/
def sectionFaults (entries : List (Scalar × Value)) (key : String) (fault : DocumentFault) :
    List DocumentFault :=
  (mappingFaults (Entries.getOrNull entries key)).map fun _ => fault

/-- The fields of a document that should hold something else. -/
def mismatches (entries : List (Scalar × Value)) : List Mismatch :=
  let field := Entries.getOrNull entries
  Mismatch.ofField "title"
      (Mismatch.ofOptionalText (Entries.getOrNull (field "info").members "title")) ++
    Mismatch.ofField "host" (Mismatch.ofOptionalText (field "host")) ++
    Mismatch.ofField "base_path" (Mismatch.ofOptionalText (field "basePath")) ++
    Mismatch.ofField "schemes" (Mismatch.ofItems Mismatch.ofText (field "schemes").parts) ++
    Mismatch.ofField "paths" (keyMismatches (field "paths").declarations) ++
    Mismatch.ofField "definitions" (keyMismatches (field "definitions").declarations) ++
    Mismatch.ofField "security_definitions"
      (keyMismatches (field "securityDefinitions").declarations) ++
    Mismatch.ofField "security"
      (Mismatch.ofItems Mismatch.ofRequirement (field "security").parts)

/-- What is wrong with the entries of a document, in the order in which they are gone through. -/
def entriesFaults (entries : List (Scalar × Value)) : List DocumentFault :=
  let field := Entries.getOrNull entries
  sectionFaults entries "paths" .pathsNotMapping ++
    sectionFaults entries "definitions" .definitionsNotMapping ++
    declaredFaults (fun _ => PathItem.faults) (field "paths").members ++
    writingFaults (field "swagger") ++
    mappingFaults (field "info") ++
    writingFaults (Entries.getOrNull (field "info").members "version") ++
    itemOrNoneFaults (field "schemes") ++
    Schema.memberFaults (field "definitions").members ++
    mappingFaults (field "securityDefinitions") ++
    declaredFaults (fun _ => SecurityDeclaration.faults) (field "securityDefinitions").members ++
    itemOrNoneFaults (field "security") ++
    keyFaults entries ++
    mismatchFaults .document (mismatches entries)

/-- What is wrong with a document. -/
def faults : Value → List DocumentFault
  | .map entries => entriesFaults entries
  | _ => [.shape .notAMapping]

end Document

end ResourceGraph
