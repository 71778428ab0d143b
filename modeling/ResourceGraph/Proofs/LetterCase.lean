import ResourceGraph.Proofs.Order.Analysis

/-!
# Letter case in the names of extensions

The analysis does not see whether the ASCII letters in the names of extensions are written large or
small, wherever in a document they stand.

## Strategy

Writing all these letters small (`Document.foldCase`) makes two documents equal if and only if they
differ in nothing else, so it is enough to compare a document with this one normal form.

* **Names.**  Extensions are found by the lower case of their names.  A lower case looks at the
  neighbours of a letter, but only at whether they have case, and that is the same for a letter and
  its small form (`Text.lower_foldCase`).
* **Documents.**  The normal form has the same extensions under every name, so it is read alike,
  part by part and through schemas of any depth (`Document.alike_foldCase`).  Documents that are
  read alike have the same analysis.
-/

namespace ResourceGraph

/-! ## The lower case of a name -/

namespace Text

/-- A text with its ASCII letters written small. -/
def foldCase (text : String) : String := String.ofList (text.toList.map Char.toLower)

/-- A letter of ASCII and its small form are letters; every other character is its own. -/
theorem toLower_eq_or_isAlpha (c : Char) : c.toLower = c ∨ c.isAlpha = true := by
  by_cases hupper : c.isUpper = true
  · exact Or.inr (by rw [Char.isAlpha, hupper, Bool.true_or])
  · exact Or.inl (Char.toLower_eq_of_not_isUpper hupper)

theorem toNat_lt_of_isAlpha {c : Char} (h : c.isAlpha = true) : c.toNat < 0x80 := by
  simp only [Char.isAlpha, Char.isUpper, Char.isLower, Bool.or_eq_true, decide_eq_true_eq,
    Bool.and_eq_true, ge_iff_le, UInt32.le_iff_toNat_le, Char.toNat_val] at h
  have hlarge : 'Z'.toNat = 0x5A := rfl
  have hsmall : 'z'.toNat = 0x7A := rfl
  omega

theorem isCased_toLower (c : Char) : isCased c.toLower = isCased c := by
  rcases toLower_eq_or_isAlpha c with hsame | halpha
  · rw [hsame]
  · rw [isCased, isCased, Char.isAlpha_toLower_eq_isAlpha, halpha, Bool.true_or, Bool.true_or]

theorem isCaseIgnorable_toLower (c : Char) : isCaseIgnorable c.toLower = isCaseIgnorable c := by
  rcases toLower_eq_or_isAlpha c with hsame | halpha
  · rw [hsame]
  · rw [isCaseIgnorable, isCaseIgnorable, Char.isAlpha_toLower_eq_isAlpha, halpha]
    rfl

theorem lowerCharacter_toLower (c : Char) : lowerCharacter c.toLower = lowerCharacter c := by
  rcases toLower_eq_or_isAlpha c with hsame | halpha
  · rw [hsame]
  · have hsmall : c.toLower.isAlpha = true := by rw [Char.isAlpha_toLower_eq_isAlpha, halpha]
    rw [lowerCharacter, lowerCharacter, if_pos (toNat_lt_of_isAlpha hsmall),
      if_pos (toNat_lt_of_isAlpha halpha), Char.toLower_toLower_eq_toLower]

/-- A character that is no letter of ASCII is written small by no other one. -/
theorem toLower_eq_iff {c special : Char} (hspecial : special.isAlpha = false) :
    c.toLower = special ↔ c = special := by
  rcases toLower_eq_or_isAlpha c with hsame | halpha
  · rw [hsame]
  · constructor
    · rintro rfl
      rw [Char.isAlpha_toLower_eq_isAlpha, halpha] at hspecial
      cases hspecial
    · rintro rfl
      rw [halpha] at hspecial
      cases hspecial

theorem meetsCased_map_toLower (characters : List Char) :
    meetsCased (characters.map Char.toLower) = meetsCased characters := by
  have hskipped : (isCaseIgnorable ∘ Char.toLower) = isCaseIgnorable :=
    funext isCaseIgnorable_toLower
  rw [meetsCased, meetsCased, List.dropWhile_map, hskipped]
  cases characters.dropWhile isCaseIgnorable with
  | nil => rfl
  | cons c rest => exact isCased_toLower c

theorem lowerCharacters_map_toLower (before characters : List Char) :
    lowerCharacters (before.map Char.toLower) (characters.map Char.toLower) =
      lowerCharacters before characters := by
  induction characters generalizing before with
  | nil => rfl
  | cons c rest ih =>
      -- two letters have rules of their own, and no letter of ASCII is written like them
      have hsigma : (c.toLower == 'Σ') = (c == 'Σ') := by
        rw [Bool.eq_iff_iff, beq_iff_eq, beq_iff_eq, toLower_eq_iff (by decide)]
      have hdotted : (c.toLower == 'İ') = (c == 'İ') := by
        rw [Bool.eq_iff_iff, beq_iff_eq, beq_iff_eq, toLower_eq_iff (by decide)]
      have hrest := ih (c :: before)
      rw [List.map_cons] at hrest ⊢
      rw [lowerCharacters, lowerCharacters, hrest, hsigma, hdotted, meetsCased_map_toLower,
        meetsCased_map_toLower, lowerCharacter_toLower]

/-- The lower case of a text is that of the text with small ASCII letters. -/
theorem lower_foldCase (text : String) : lower (foldCase text) = lower text := by
  rw [lower, lower, foldCase, String.toList_ofList, ← lowerCharacters_map_toLower [] text.toList,
    List.map_nil]

end Text

/-! ## Documents with small letters in the names of their extensions -/

/-- The table with another value under every name. -/
def Table.mapValues {α β : Type} (change : α → β) (table : Table α) : Table β :=
  table.map fun entry => (entry.1, change entry.2)

/-- The extensions with small letters in their names. -/
def Extensions.foldCase (extensions : Extensions) : Extensions :=
  extensions.map fun entry => (Text.foldCase entry.1, entry.2)

namespace Schema

mutual

/-- The schema with small letters in the names of extensions, its own and those at any depth. -/
def foldCase : Schema → Schema
  | ⟨type, description, properties, required, readOnly, items, reference, extensions⟩ =>
    ⟨type, description, foldProperties properties, required, readOnly, foldItems items, reference,
      extensions.foldCase⟩

/-- The properties of a schema with small letters in the names of extensions. -/
def foldProperties : List (String × Schema) → List (String × Schema)
  | [] => []
  | (name, property) :: rest => (name, property.foldCase) :: foldProperties rest

/-- The items of a schema with small letters in the names of extensions. -/
def foldItems : Option Schema → Option Schema
  | none => none
  | some items => some items.foldCase

end

end Schema

/-- The parameter with small letters in the names of extensions. -/
def Parameter.foldCase (parameter : Parameter) : Parameter :=
  { parameter with
    schema := parameter.schema.map Schema.foldCase
    extensions := parameter.extensions.foldCase }

/-- The response with small letters in the names of extensions. -/
def Response.foldCase (response : Response) : Response :=
  { response with schema := response.schema.map Schema.foldCase }

/-- The operation with small letters in the names of extensions. -/
def Operation.foldCase (operation : Operation) : Operation :=
  { operation with
    parameters := operation.parameters.map Parameter.foldCase
    responses := operation.responses.mapValues Response.foldCase
    extensions := operation.extensions.foldCase }

/-- The path item with small letters in the names of extensions. -/
def PathItem.foldCase (item : PathItem) : PathItem where
  get := item.get.map Operation.foldCase
  post := item.post.map Operation.foldCase
  put := item.put.map Operation.foldCase
  patch := item.patch.map Operation.foldCase
  delete := item.delete.map Operation.foldCase
  parameters := item.parameters.map Parameter.foldCase

/-- The declaration with small letters in the names of extensions. -/
def SecurityDeclaration.foldCase (declaration : SecurityDeclaration) : SecurityDeclaration :=
  { declaration with extensions := declaration.extensions.foldCase }

/-- The document with the ASCII letters written small in the names of all extensions.  Two documents
that differ only in the case of these letters are the same then. -/
def Document.foldCase (document : Document) : Document :=
  { document with
    paths := document.paths.mapValues PathItem.foldCase
    definitions := document.definitions.mapValues Schema.foldCase
    securityDefinitions := document.securityDefinitions.mapValues SecurityDeclaration.foldCase
    extensions := document.extensions.foldCase }

/-! ## Small letters are read alike -/

theorem Table.get?_mapValues {α β : Type} (change : α → β) (table : Table α) (name : String) :
    (table.mapValues change).get? name = (table.get? name).map change := by
  unfold Table.get? mapValues
  induction table with
  | nil => rfl
  | cons entry rest ih =>
      rw [List.map_cons, List.lookup_cons, List.lookup_cons, ih]
      by_cases hname : name = entry.1
      · simp [hname]
      · rw [beq_false_of_ne hname]

theorem rel_map {α : Type} {related : α → α → Prop} {change : α → α}
    (h : ∀ value, related value (change value)) (value : Option α) :
    Option.Rel related value (value.map change) := by
  cases value with
  | none => exact .none
  | some value => exact .some (h value)

theorem Table.alike_mapValues {α : Type} {related : α → α → Prop} {change : α → α}
    (h : ∀ value, related value (change value)) (table : Table α) :
    Table.Alike related table (table.mapValues change) := by
  intro name
  rw [Table.get?_mapValues]
  exact rel_map h _

/-- **An extension is found under its name in any case.** -/
theorem Extensions.lookup?_foldCase (extensions : Extensions) (wanted : String) :
    extensions.foldCase.lookup? wanted = extensions.lookup? wanted := by
  have hnamed (entry : String × Value) :
      (Text.lower (Text.foldCase entry.1) == Text.lower wanted) =
        (Text.lower entry.1 == Text.lower wanted) := by rw [Text.lower_foldCase]
  rw [Extensions.lookup?, Extensions.lookup?, Extensions.foldCase, List.find?_map, Option.map_map]
  simp only [Function.comp_def, hnamed]

theorem Extensions.alike_foldCase (extensions : Extensions) :
    Extensions.Alike extensions extensions.foldCase :=
  fun wanted _ => (extensions.lookup?_foldCase wanted).symm

namespace Schema

/-- Schemas are read alike if their parts are. -/
theorem Alike.of_parts {schema schema' : Schema} (htype : schema.type = schema'.type)
    (hdescription : schema.description = schema'.description)
    (hrequired : schema.required = schema'.required)
    (hreadOnly : schema.readOnly = schema'.readOnly)
    (hreference : schema.reference = schema'.reference)
    (hextensions : Extensions.Alike schema.extensions schema'.extensions)
    (hproperties : Table.Alike Alike schema.properties schema'.properties)
    (hitems : Option.Rel Alike schema.items schema'.items) : Alike schema schema' := by
  refine .intro htype hdescription hrequired hreadOnly hreference hextensions hproperties.has_eq
    ?_ ?_ ?_
  · intro name property property' hproperty hproperty'
    have hvalue := hproperties name
    rw [hproperty, hproperty'] at hvalue
    cases hvalue with
    | some halike => exact halike
  · generalize schema.items = items at hitems ⊢
    generalize schema'.items = items' at hitems ⊢
    cases hitems with
    | none => rfl
    | some => rfl
  · intro items items' hitem hitem'
    rw [hitem, hitem'] at hitems
    cases hitems with
    | some halike => exact halike

mutual

theorem alike_foldCase : ∀ schema : Schema, Alike schema schema.foldCase
  | ⟨_, _, properties, _, _, items, _, extensions⟩ =>
    .of_parts rfl rfl rfl rfl rfl extensions.alike_foldCase (alike_foldProperties properties)
      (rel_foldItems items)

theorem alike_foldProperties : ∀ properties : List (String × Schema),
    Table.Alike Alike properties (foldProperties properties)
  | [] => fun _ => .none
  | (first, property) :: rest => by
    intro name
    have hproperty := alike_foldCase property
    have hrest := alike_foldProperties rest name
    rw [foldProperties, Table.get?, Table.get?, List.lookup_cons, List.lookup_cons]
    split
    · exact .some hproperty
    · exact hrest

theorem rel_foldItems : ∀ items : Option Schema, Option.Rel Alike items (foldItems items)
  | none => .none
  | some items => .some (alike_foldCase items)

end

end Schema

theorem Parameter.alike_foldCase (parameter : Parameter) :
    Parameter.Alike parameter parameter.foldCase where
  name := rfl
  location := rfl
  required := rfl
  schema := rel_map Schema.alike_foldCase _
  extensions := parameter.extensions.alike_foldCase

theorem Response.alike_foldCase (response : Response) :
    Response.Alike response response.foldCase where
  status := rfl
  schema := rel_map Schema.alike_foldCase _

theorem Operation.alike_foldCase (operation : Operation) :
    Operation.Alike operation operation.foldCase where
  operationId := rfl
  parameters := List.forall₂_map_right_iff.mpr
    (List.forall₂_same.mpr fun parameter _ => parameter.alike_foldCase)
  responses := Table.alike_mapValues Response.alike_foldCase _
  security := rfl
  extensions := operation.extensions.alike_foldCase

theorem PathItem.alike_foldCase (item : PathItem) : PathItem.Alike item item.foldCase := by
  intro method
  have hoperation : item.foldCase.operation? method =
      (item.operation? method).map Operation.foldCase := by
    cases method <;> rfl
  rw [hoperation]
  exact rel_map Operation.alike_foldCase _

theorem SecurityDeclaration.alike_foldCase (declaration : SecurityDeclaration) :
    SecurityDeclaration.Alike declaration declaration.foldCase where
  type := rfl
  location := rfl
  parameterName := rfl
  extensions := declaration.extensions.alike_foldCase

namespace Document

variable {document document' : Document}

theorem alike_foldCase (document : Document) : Document.Alike document document.foldCase where
  host := rfl
  basePath := rfl
  schemes := rfl
  paths := Table.alike_mapValues PathItem.alike_foldCase _
  securityDefinitions := Table.alike_mapValues SecurityDeclaration.alike_foldCase _
  security := rfl
  extensions := document.extensions.alike_foldCase
  source := rfl

/-- **The case of extension names is immaterial.**  Two documents that differ only in the case of
ASCII letters in the names of their extensions have the same result, or the same error ends the
analysis of both. -/
theorem analyse_eq_of_foldCase_eq (h : document.foldCase = document'.foldCase)
    (selection : Selection) : document.analyse selection = document'.analyse selection :=
  calc document.analyse selection
      = document.foldCase.analyse selection := document.alike_foldCase.analyse_eq selection
    _ = document'.foldCase.analyse selection := by rw [h]
    _ = document'.analyse selection := (document'.alike_foldCase.analyse_eq selection).symm

end Document

/-! ## Sample documents in two spellings -/

namespace Sample

/-- The spelling of a name in capital letters. -/
def capitals (name : String) : String := String.ofList (name.toList.map Char.toUpper)

theorem foldCase_capitals (name : String) : Text.foldCase (capitals name) = Text.foldCase name := by
  have hletters : (Char.toLower ∘ Char.toUpper) = Char.toLower :=
    funext Char.toLower_toUpper_eq_toLower
  rw [Text.foldCase, Text.foldCase, capitals, String.toList_ofList, List.map_map, hletters]

/-- A payload with a property that identifies it and one whose inner property is sensitive. -/
def berthing (spell : String → String) : Schema :=
  { properties :=
      [("code", { extensions := [(spell "x-terraform-id", .bool true)] }),
        ("crane", { properties :=
          [("pin", { extensions := [(spell "x-terraform-sensitive", .bool true)] })] })] }

/-- A new berth, with a header that the caller configures. -/
def newBerth (spell : String → String) : Operation :=
  { parameters := [{ name := "body", location := .body, schema := some (berthing spell) },
      { name := "X-Pilot", location := .header
        extensions := [(spell "x-terraform-header", .text "pilot")] }]
    extensions := [(spell "x-terraform-resource-name", .text "berth"),
      (spell "x-terraform-resource-host", .text "berths.$\x7bregion\x7d.port.com")] }

/-- Berths in two regions, the names of all extensions being spelled in one way. -/
def berths (spell : String → String) : Document :=
  { paths := [("/v1/berths", { post := some (newBerth spell) }), ("/v1/berths/{id}", readable)]
    host := some "port.com"
    extensions := [(spell "x-terraform-resource-regions-region", .text "north, south")] }

theorem foldCase_berths : (berths capitals).foldCase = (berths id).foldCase := by
  simp only [berths, newBerth, berthing, readable, Document.foldCase, PathItem.foldCase,
    Operation.foldCase, Parameter.foldCase, Schema.foldCase, Schema.foldProperties,
    Schema.foldItems, Extensions.foldCase, Table.mapValues, List.map_cons, List.map_nil,
    Option.map_some, Option.map_none, foldCase_capitals, id]

/-- The berths are found in both regions, whether the names of their extensions are written in small
letters or in capitals. -/
theorem berths_analyse_eq :
    (berths capitals).foldCase = (berths id).foldCase ∧
      (berths capitals).analyse {} = (berths id).analyse {} ∧
      ∃ result, (berths capitals).analyse {} = .ok result ∧
        result.resources.map (fun resource => (resource.name, resource.identifier)) =
          [("berth_v1_north", "code"), ("berth_v1_south", "code")] ∧
        result.headerParameters.map HeaderParameter.name = ["pilot"] := by
  have hrun : ((berths capitals).analyse {}).toOption.map (fun result =>
      (result.resources.map (fun resource => (resource.name, resource.identifier)),
        result.headerParameters.map HeaderParameter.name)) =
      some ([("berth_v1_north", "code"), ("berth_v1_south", "code")], ["pilot"]) := by
    decide +kernel
  obtain ⟨result, hresult, hfound⟩ := exists_of_toOption_map_eq_some hrun
  exact ⟨foldCase_berths, Document.analyse_eq_of_foldCase_eq foldCase_berths {}, result, hresult,
    congrArg Prod.fst hfound, congrArg Prod.snd hfound⟩

end Sample

end ResourceGraph
