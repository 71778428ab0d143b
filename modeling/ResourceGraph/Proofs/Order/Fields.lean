import ResourceGraph.Extension
import ResourceGraph.Proofs.Order.Role

/-!
# The order of mappings and the fields of a document

What the fields of a part of a document are built from.  That a field can be built at all never
depends on the order of entries: whether a value is empty, can be gone through, can be written or is
of the wrong kind is the same in every order.  What is built is the same for a field that is read as
it is written.
-/

namespace ResourceGraph

open Value

variable {role : Role} {value value' : Value} {entries entries' : List (Scalar × Value)}

/-! ## Values of keys -/

namespace Arranged

theorem getOrNull (h : AlignedEntries role entries entries') (name : String) :
    Aligned (role.under (.text name)) (Entries.getOrNull entries name)
      (Entries.getOrNull entries' name) := by
  have hrel := h.rel_get? name
  unfold Entries.getOrNull
  generalize Entries.get? entries name = found at hrel ⊢
  generalize Entries.get? entries' name = found' at hrel ⊢
  cases hrel with
  | none => exact .scalar _ .null
  | some hvalue => exact hvalue

theorem get?_eq (h : AlignedEntries role entries entries') (name : String)
    (hliteral : role.under (.text name) = .literal) :
    Entries.get? entries name = Entries.get? entries' name := by
  have hrel := h.rel_get? name
  rw [hliteral] at hrel
  generalize Entries.get? entries name = found at hrel ⊢
  generalize Entries.get? entries' name = found' at hrel ⊢
  cases hrel with
  | none => rfl
  | some hvalue => rw [hvalue.eq_of_literal]

theorem getOrNull_eq (h : AlignedEntries role entries entries') (name : String)
    (hliteral : role.under (.text name) = .literal) :
    Entries.getOrNull entries name = Entries.getOrNull entries' name := by
  rw [Entries.getOrNull, Entries.getOrNull, h.get?_eq name hliteral]

end Arranged

/-! ## Going through values -/

theorem mappingOf_agree (h : Aligned role value value') :
    Agree (AlignedEntries role) (mappingOf value) (mappingOf value') := by
  have hempty := h.isEmpty_eq
  cases value with
  | map entries =>
      obtain ⟨entries', rfl, hentries⟩ := aligned_map_iff.mp h
      exact .ok hentries
  | list items =>
      obtain ⟨items', rfl, -⟩ := aligned_list_iff.mp h
      simp only [mappingOf, hempty]
      split
      · exact .ok (.nil role _)
      · exact .error trivial
  | _ =>
      cases h
      simp only [mappingOf, hempty]
      split
      · exact .ok (.nil role _)
      · exact .error trivial

theorem shuffled_scalars (ordered : Prop) (role : Role) (scalars : List Scalar) :
    Shuffled ordered (Aligned role) (scalars.map .scalar) (scalars.map .scalar) := by
  refine .of_forall₂ (List.forall₂_same.mpr fun part hpart => ?_)
  obtain ⟨scalar, -, rfl⟩ := List.mem_map.mp hpart
  exact .scalar role scalar

/-- The values that are met going through a value. -/
theorem elements?_rel (h : Aligned role value value') :
    Option.Rel (Shuffled role.isOrdered (Aligned role.item)) value.elements? value'.elements? := by
  cases value with
  | scalar scalar =>
      cases h
      cases scalar with
      | text text =>
          have hitems := shuffled_scalars role.isOrdered role.item
            (text.toList.map fun c => .text (String.singleton c))
          rw [List.map_map] at hitems
          exact .some hitems
      | bytes bytes =>
          have hitems := shuffled_scalars role.isOrdered role.item
            (bytes.map fun byte => .int byte.toNat)
          rw [List.map_map] at hitems
          exact .some hitems
      | _ => exact .none
  | set members =>
      cases h
      exact .some (shuffled_scalars _ _ members)
  | pair first second =>
      cases h with
      | pair hfirst hsecond => exact .some (.of_forall₂ (.cons hfirst (.cons hsecond .nil)))
  | list items =>
      obtain ⟨items', rfl, hitems⟩ := aligned_list_iff.mp h
      exact .some (.of_forall₂ hitems)
  | map entries =>
      obtain ⟨entries', rfl, hentries⟩ := aligned_map_iff.mp h
      refine .some (hentries.shuffled.map fun entry entry' hboth => ?_)
      rw [hboth.1]
      exact .scalar role.item entry.1

theorem itemsOf_agree (h : Aligned role value value') :
    Agree (Shuffled role.isOrdered (Aligned role.item)) (itemsOf value) (itemsOf value') := by
  have hrel := elements?_rel h
  unfold itemsOf
  generalize value.elements? = items at hrel
  generalize value'.elements? = items' at hrel
  cases hrel with
  | none => exact .error trivial
  | some hitems => exact .ok hitems

theorem itemsOrNone_agree (h : Aligned role value value') :
    Agree (Shuffled role.isOrdered (Aligned role.item)) (itemsOrNone value)
      (itemsOrNone value') := by
  rw [itemsOrNone, itemsOrNone, h.isEmpty_eq]
  split
  · exact .ok (.of_forall₂ .nil)
  · exact itemsOf_agree h

/-! ## Texts -/

theorem written_agree (h : Aligned role value value') :
    Agree (fun _ _ => True) (written value) (written value') := by
  rw [written, written, h.isWritable_eq]
  split
  · exact .ok trivial
  · exact .error trivial

theorem writtenOrNone_agree (h : Aligned role value value') :
    Agree (fun _ _ => True) (writtenOrNone value) (writtenOrNone value') := by
  by_cases hnull : value = .null
  · subst hnull
    cases h
    exact .ok trivial
  · have hnull' : value' ≠ .null := mt h.eq_null_iff.mpr hnull
    have hwritten : ∀ {value : Value}, value ≠ .null →
        writtenOrNone value = (written value).map some := fun {value} hvalue => by
      rw [writtenOrNone]
      exact hvalue
    rw [hwritten hnull, hwritten hnull']
    exact (written_agree h).map fun _ _ _ => trivial

theorem writtenUnder_agree (h : AlignedEntries role entries entries') (name default : String) :
    Agree (fun result result' => role.under (.text name) = .literal → result = result')
      (writtenUnder entries name default) (writtenUnder entries' name default) := by
  refine .of_imp_eq ?_ fun hliteral => by rw [writtenUnder, writtenUnder, h.get?_eq name hliteral]
  have hrel := h.rel_get? name
  unfold writtenUnder
  generalize Entries.get? entries name = found at hrel
  generalize Entries.get? entries' name = found' at hrel
  cases hrel with
  | none => exact .ok trivial
  | some hvalue => exact written_agree hvalue

/-! ## Vendor extensions -/

/-- The vendor extension that an entry declares. -/
def extension? (key : Scalar) (value : Value) : Option (String × Value) :=
  match key with
  | .text name => if isExtensionKey name then some (name, value) else none
  | _ => none

/-- Vendor extensions are read if all keys are texts. -/
theorem extensionsOf_eq_ok {extensions : Extensions} : extensionsOf entries = .ok extensions ↔
    (∀ entry ∈ entries, ∃ name, entry.1 = .text name) ∧
      extensions = entries.filterMap fun entry => extension? entry.1 entry.2 := by
  induction entries generalizing extensions with
  | nil => simp [extensionsOf, eq_comm]
  | cons entry rest ih =>
      obtain ⟨key, value⟩ := entry
      cases key with
      | text name =>
          have hnames :
              (∀ entry ∈ (Scalar.text name, value) :: rest, ∃ name, entry.1 = .text name) ↔
                ∀ entry ∈ rest, ∃ name, entry.1 = .text name := by simp
          rw [extensionsOf, bind_eq_ok, hnames, List.filterMap_cons]
          constructor
          · rintro ⟨others, hothers, hresult⟩
            obtain ⟨htexts, rfl⟩ := ih.mp hothers
            cases hresult
            refine ⟨htexts, ?_⟩
            cases hkey : isExtensionKey name <;> rw [extension?, hkey] <;> rfl
          · rintro ⟨htexts, rfl⟩
            refine ⟨_, ih.mpr ⟨htexts, rfl⟩, ?_⟩
            cases hkey : isExtensionKey name <;> rw [extension?, hkey] <;> rfl
      | _ => simp [extensionsOf]

/-- The extensions that the analysis reads are the same. -/
def Extensions.Alike (extensions extensions' : Extensions) : Prop :=
  ∀ wanted, Extension.isRead wanted = true →
    extensions.lookup? wanted = extensions'.lookup? wanted

theorem Extension.isRead_name (extension : Extension) : Extension.isRead extension.name = true := by
  cases extension <;> decide +kernel

/-- The letters and signs of ASCII are put into lower case one by one. -/
theorem lowerCharacters_append {front : List Char} (h : ∀ c ∈ front, c.toNat < 0x80)
    (before rest : List Char) : Text.lowerCharacters before (front ++ rest) =
      front.map Text.lowerCharacter ++ Text.lowerCharacters (front.reverse ++ before) rest := by
  induction front generalizing before with
  | nil => rfl
  | cons c front ih =>
      obtain ⟨hc, hfront⟩ := List.forall_mem_cons.mp h
      have hsigma : c ≠ 'Σ' := by
        rintro rfl
        contradiction
      have hdotted : c ≠ 'İ' := by
        rintro rfl
        contradiction
      rw [List.cons_append, Text.lowerCharacters, ih hfront, List.reverse_cons, List.append_assoc]
      simp [hsigma, hdotted]

theorem isPrefixOf_lower {front rest : List Char} {text : String}
    (htext : text.toList = front ++ rest) (hplain : ∀ c ∈ front, c.toNat < 0x80)
    (hlower : front.map Text.lowerCharacter = front) :
    front.isPrefixOf (Text.lower text).toList = true := by
  rw [Text.lower, String.toList_ofList, htext, lowerCharacters_append hplain, hlower]
  exact List.isPrefixOf_iff_prefix.mpr (List.prefix_append ..)

theorem Extension.isRead_regionsName (keyword : String) :
    Extension.isRead (Extension.regionsName keyword) = true := by
  have hfront : "x-terraform-resource-regions-".toList =
      "x-terraform-".toList ++ "resource-regions-".toList := by decide +kernel
  have hname : (Extension.regionsName keyword).toList =
      "x-terraform-".toList ++ ("resource-regions-".toList ++ keyword.toList) :=
    calc (Extension.regionsName keyword).toList
      _ = "x-terraform-resource-regions-".toList ++ keyword.toList := String.toList_append ..
      _ = ("x-terraform-".toList ++ "resource-regions-".toList) ++ keyword.toList :=
        congrArg (· ++ keyword.toList) hfront
      _ = _ := List.append_assoc ..
  exact isPrefixOf_lower hname (by simp) (by decide +kernel)

namespace Extensions.Alike

variable {extensions extensions' : Extensions}

theorem isSet_eq (h : Extensions.Alike extensions extensions') (extension : Extension) :
    extensions.isSet extension = extensions'.isSet extension := by
  rw [Extensions.isSet, Extensions.isSet, h _ extension.isRead_name]

theorem text?_eq (h : Extensions.Alike extensions extensions') (extension : Extension) :
    extensions.text? extension = extensions'.text? extension := by
  rw [Extensions.text?, Extensions.text?, Extensions.textNamed?, Extensions.textNamed?,
    h _ extension.isRead_name]

end Extensions.Alike

/-- Whether the extensions of a part are looked for. -/
def Role.hasExtensions : Role → Bool
  | document | operation | parameter | schema | securityDeclaration => true
  | _ => false

theorem Role.isRead_eq_false_of_mem_fields (role : Role) :
    ∀ field ∈ role.fields, Extension.isRead field.1 = false := by
  cases role <;> decide +kernel

theorem Role.under_eq_literal (hrole : role.hasExtensions = true) {name : String}
    (h : Extension.isRead name = true) : role.under (.text name) = .literal := by
  have hfield : role.fields.lookup name = none := by
    refine List.lookup_eq_none_iff.mpr fun field hfield => bne_iff_ne.mpr fun hname => ?_
    have hread := role.isRead_eq_false_of_mem_fields field hfield
    rw [← hname, h] at hread
    cases hread
  cases role with
  | document | operation | parameter | schema | securityDeclaration =>
      simp only [Role.under, hfield, h, if_true]
  | _ => cases hrole

theorem lookup?_cons (name : String) (value : Value) (rest : Extensions) (wanted : String) :
    Extensions.lookup? ((name, value) :: rest) wanted =
      if Text.lower name == Text.lower wanted then some value
      else Extensions.lookup? rest wanted := by
  rw [Extensions.lookup?, List.find?_cons]
  split <;> simp_all [Extensions.lookup?]

theorem extensions_alike (hrole : role.hasExtensions = true)
    (h : List.Forall₂ (fun entry entry' => entry'.1 = entry.1 ∧
      Aligned (role.under entry.1) entry.2 entry'.2) entries entries') :
    Extensions.Alike (entries.filterMap fun entry => extension? entry.1 entry.2)
      (entries'.filterMap fun entry => extension? entry.1 entry.2) := by
  -- the first extension with the wanted name is one that is read, so its value is the same
  intro wanted hwanted
  induction h with
  | nil => rfl
  | @cons entry entry' rest rest' hentry hrest ih =>
      obtain ⟨key, value⟩ := entry
      obtain ⟨key', value'⟩ := entry'
      obtain ⟨hkey, hvalue⟩ := hentry
      obtain rfl : key' = key := hkey
      rw [List.filterMap_cons, List.filterMap_cons]
      cases key' with
      | text name =>
          cases hname : isExtensionKey name with
          | false => simpa [extension?, hname] using ih
          | true =>
              simp only [extension?, hname, if_true, lookup?_cons]
              split
              · next hlower =>
                  have hread : Extension.isRead name = true := by
                    rw [Extension.isRead, beq_iff_eq.mp hlower]
                    exact hwanted
                  rw [Role.under_eq_literal hrole hread] at hvalue
                  exact congrArg some hvalue.eq_of_literal
              · exact ih
      | _ => exact ih

theorem extensionsOf_agree (h : AlignedEntries role entries entries') :
    Agree (fun extensions extensions' => role.hasExtensions = true →
      Extensions.Alike extensions extensions') (extensionsOf entries) (extensionsOf entries') := by
  have hok : ∀ {entries : List (Scalar × Value)},
      (∃ extensions, extensionsOf entries = .ok extensions) ↔
        ∀ entry ∈ entries, ∃ name, entry.1 = .text name := fun {entries} => by
    constructor
    · rintro ⟨extensions, hextensions⟩
      exact (extensionsOf_eq_ok.mp hextensions).1
    · exact fun htexts => ⟨_, extensionsOf_eq_ok.mpr ⟨htexts, rfl⟩⟩
  refine .of_exists_ok_iff ?_ fun extensions extensions' hextensions hextensions' hrole => ?_
  · rw [hok, hok]
    constructor
    · intro htexts entry' hentry'
      obtain ⟨entry, hentry, hkey, -⟩ := h.shuffled.exists_of_mem_right hentry'
      exact hkey ▸ htexts entry hentry
    · intro htexts entry hentry
      obtain ⟨entry', hentry', hkey, -⟩ := h.shuffled.exists_of_mem_left hentry
      exact hkey ▸ htexts entry' hentry'
  · rw [(extensionsOf_eq_ok.mp hextensions).2, (extensionsOf_eq_ok.mp hextensions').2]
    refine extensions_alike hrole (h.shuffled.forall₂ ?_)
    cases role with
    | document | operation | parameter | schema | securityDeclaration => rfl
    | _ => cases hrole

/-! ## Mismatches -/

/-- Parts without mismatches on either side. -/
theorem checked_agree {α : Type} {related : α → α → Prop} {part : DocumentPart}
    {mismatches mismatches' : List Mismatch} {result result' : α}
    (h : mismatches.isEmpty = mismatches'.isEmpty) (hrelated : related result result') :
    Agree related (checked part mismatches result) (checked part mismatches' result') := by
  rw [checked, checked, h]
  split
  · exact .ok hrelated
  · exact .error trivial

namespace Mismatch

@[simp]
theorem isEmpty_ofField (name : String) (mismatches : List Mismatch) :
    (ofField name mismatches).isEmpty = mismatches.isEmpty :=
  List.isEmpty_map

theorem isEmpty_append (front back : List Mismatch) :
    (front ++ back).isEmpty = (front.isEmpty && back.isEmpty) := by
  cases front <;> rfl

theorem isEmpty_flatMap {α : Type} (items : List α) (check : α → List Mismatch) :
    (items.flatMap check).isEmpty = items.all fun item => (check item).isEmpty := by
  induction items with
  | nil => rfl
  | cons item rest ih => rw [List.flatMap_cons, isEmpty_append, List.all_cons, ih]

theorem isEmpty_ofItems (check : Value → List Mismatch) (items : List Value) :
    (ofItems check items).isEmpty = items.all fun item => (check item).isEmpty := by
  rw [ofItems, ← List.flatMap_def, isEmpty_flatMap]
  conv_rhs => rw [← List.zipIdx_map_fst 0 items, List.all_map]
  simp only [List.isEmpty_map, Function.comp_def]

theorem ofText_eq (h : Aligned role value value') : ofText value = ofText value' := by
  cases h <;> rfl

theorem ofOptionalText_eq (h : Aligned role value value') :
    ofOptionalText value = ofOptionalText value' := by
  cases h <;> rfl

theorem isEmpty_ofItems_eq {ordered : Prop} (check : Value → List Mismatch)
    {items items' : List Value} (h : Shuffled ordered (Aligned role) items items')
    (hcheck : ∀ item item', Aligned role item item' →
      (check item).isEmpty = (check item').isEmpty) :
    (ofItems check items).isEmpty = (ofItems check items').isEmpty := by
  rw [isEmpty_ofItems, isEmpty_ofItems]
  exact h.all_eq hcheck

theorem isEmpty_ofTexts_eq (h : Aligned role value value') :
    (ofTexts value).isEmpty = (ofTexts value').isEmpty := by
  cases value with
  | list items =>
      obtain ⟨items', rfl, hitems⟩ := aligned_list_iff.mp h
      have hshuffled : Shuffled True _ items items' := .of_forall₂ hitems
      exact isEmpty_ofItems_eq ofText hshuffled fun item item' hitem =>
        congrArg _ (ofText_eq hitem)
  | pair first second =>
      cases h with
      | pair hfirst hsecond =>
          have hshuffled : Shuffled True _ [first, second] [_, _] :=
            .of_forall₂ (.cons hfirst (.cons hsecond .nil))
          exact isEmpty_ofItems_eq ofText hshuffled fun item item' hitem =>
            congrArg _ (ofText_eq hitem)
  | map entries =>
      obtain ⟨entries', rfl, -⟩ := aligned_map_iff.mp h
      rfl
  | scalar | set =>
      cases h
      rfl

theorem isEmpty_ofRequirement_eq (h : Aligned role value value') :
    (ofRequirement value).isEmpty = (ofRequirement value').isEmpty := by
  cases value with
  | map entries =>
      obtain ⟨entries', rfl, hentries⟩ := aligned_map_iff.mp h
      rw [ofRequirement, ofRequirement, isEmpty_flatMap, isEmpty_flatMap]
      refine hentries.shuffled.all_eq ?_
      rintro ⟨key, scopes⟩ ⟨key', scopes'⟩ ⟨hkey, hscopes⟩
      obtain rfl : key' = key := hkey
      simp only
      rw [isEmpty_append, isEmpty_append, List.isEmpty_map, List.isEmpty_map,
        isEmpty_ofTexts_eq hscopes]
  | list items =>
      obtain ⟨items', rfl, -⟩ := aligned_list_iff.mp h
      rfl
  | scalar | set | pair =>
      cases h
      rfl

/-- The keys of mappings that correspond are wrong in both or in neither. -/
theorem isEmpty_keys_eq {α α' : Type} {related : Scalar → α → α' → Prop}
    {entries : List (Scalar × α)} {entries' : List (Scalar × α')}
    (h : Arranged role related entries entries') :
    (entries.flatMap fun entry => ofKey entry.1).isEmpty =
      (entries'.flatMap fun entry => ofKey entry.1).isEmpty := by
  rw [isEmpty_flatMap, isEmpty_flatMap]
  exact h.shuffled.all_eq fun entry entry' hboth => by rw [hboth.1]

end Mismatch

end ResourceGraph
