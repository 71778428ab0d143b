import ResourceGraph.Proofs.CompliantPair
import ResourceGraph.Proofs.PayloadProperties

/-!
# The tree of described properties

A schema reaches properties through objects and through arrays: an object has its properties, an
array has those of its items, and the properties of a property are reached under its name
(`Schema.Reaches`).  The descriptions of the properties form a tree, in which a description is found
under the names of those around it (`PropertyDescriptor.Under`).

What the tree describes has a definition of its own, `Schema.Shows`.  It differs in two ways.
Whatever a schema declares is described, be the schema an object or not.  And items are looked into
where a property is an array, once, and not at the root.  The tree describes exactly what is shown
(`under_payloadProperties_iff`), so the rest compares two relations between a schema and the
properties in it.

One step decides.  Both relations go from a property to the properties of its `nested` schema, and
going there changes nothing in what is reached (`reaches_nested_iff`).  So they are equal exactly if
every schema that is visited declares what it offers (`shows_iff_reaches_iff`), which fails for an
array in an array.
-/

namespace ResourceGraph

/-- A property of a schema, and whether it must be present. -/
@[ext] structure Schema.Member where
  name : String
  required : Bool
  schema : Schema

/-- A description stands in a tree of them, inside the descriptions of some names, the outermost
first. -/
def PropertyDescriptor.Under (description : PropertyDescriptor) :
    List PropertyDescriptor → List String → Prop
  | level, [] => description ∈ level
  | level, name :: chain =>
    ∃ outer ∈ level, outer.name = name ∧ description.Under outer.properties chain

namespace Schema

variable {schema items visited : Schema} {member other : Member} {chain : List String}
  {description : PropertyDescriptor} {identifier : Option String}

/-! ## What is reached -/

/-- A property is declared by a schema itself. -/
structure Declares (schema : Schema) (member : Member) : Prop where
  property : Table.get? schema.properties member.name = some member.schema
  required : member.required = true ↔ member.name ∈ schema.required

/-- A property that a schema has without passing another one: one of its own if the schema is an
object, and one that its items have if it is an array. -/
inductive Offers : Schema → Member → Prop
  | own {schema : Schema} {member : Member} (hobject : schema.isObject = true)
      (hmember : schema.Declares member) : Offers schema member
  | item {schema items : Schema} {member : Member} (harray : schema.type = some "array")
      (hitems : schema.items = some items) (hmember : Offers items member) : Offers schema member

/-- A property is reached from a schema under the names of the properties that are passed. -/
def Reaches (schema : Schema) : List String → Member → Prop
  | [], member => schema.Offers member
  | name :: chain, member =>
    ∃ outer, schema.Offers outer ∧ outer.name = name ∧ outer.schema.Reaches chain member

/-! ## What is described -/

/-- Where the properties nested in a property are declared: in its items if it is an array. -/
def nested (schema : Schema) : Schema :=
  match schema.items with
  | some items => if schema.type = some "array" then items else schema
  | none => schema

/-- A property is declared by a schema, or in the properties that are passed. -/
def Shows (schema : Schema) : List String → Member → Prop
  | [], member => schema.Declares member
  | name :: chain, member =>
    ∃ outer, schema.Declares outer ∧ outer.name = name ∧ outer.schema.nested.Shows chain member

/-- A schema whose properties are described. -/
inductive Visits : Schema → Schema → Prop
  | root {schema : Schema} : Visits schema schema
  | inside {schema visited : Schema} {member : Member} (hmember : schema.Declares member)
      (hvisited : Visits member.schema.nested visited) : Visits schema visited

/-- A schema declares exactly what it offers. -/
def Agrees (schema : Schema) : Prop := ∀ member, schema.Declares member ↔ schema.Offers member

/-- The description of a property, with the mark of an identifier or without it. -/
def Member.descriptor (member : Member) (marked : Bool) : PropertyDescriptor :=
  { describe member.name member.required member.schema member.schema.nestedProperties with
    identifier := marked }

/-- A description presents a property: it tells its name, whether it must be present, whether it is
marked, and all the rest that is described of its schema. -/
structure Presents (description : PropertyDescriptor) (member : Member) (marked : Bool) : Prop where
  name : description.name = member.name
  required : description.required = member.required
  identifier : description.identifier = marked
  eq_descriptor : description = member.descriptor marked

/-- A tree describes some properties, each found under a chain of names: in order, all of them, none
twice, and nothing else.  The mark of an identifier stands on the outermost level alone. -/
structure IsTreeOf (level : List PropertyDescriptor) (identifier : Option String)
    (properties : List String → Member → Prop) : Prop where
  increasing : (level.map PropertyDescriptor.name).Pairwise (· < ·)
  increasing_inside : ∀ chain (description : PropertyDescriptor), description.Under level chain →
    (description.properties.map PropertyDescriptor.name).Pairwise (· < ·)
  described : ∀ chain member, properties chain member → ∃ description : PropertyDescriptor,
    description.Under level chain ∧
      Presents description member (chain.isEmpty && some member.name == identifier)
  once : ∀ chain (description other : PropertyDescriptor), description.Under level chain →
    other.Under level chain → description.name = other.name → description = other
  only : ∀ chain (description : PropertyDescriptor), description.Under level chain →
    ∃ member, properties chain member ∧
      Presents description member (chain.isEmpty && some member.name == identifier)

/-! ## Declared and offered properties -/

/-- A schema declares one property of a name. -/
theorem Declares.eq_of_name_eq (hmember : schema.Declares member) (hother : schema.Declares other)
    (hname : member.name = other.name) : member = other := by
  have hschema : member.schema = other.schema := by
    have hproperty := hmember.property
    rw [hname, hother.property] at hproperty
    exact (Option.some.inj hproperty).symm
  have hrequired : member.required = other.required :=
    Bool.eq_iff_iff.mpr (by rw [hmember.required, hother.required, hname])
  exact Member.ext hname hrequired hschema

theorem Declares.mem_properties (hmember : schema.Declares member) :
    (member.name, member.schema) ∈ schema.properties := by
  obtain ⟨before, after, hsplit, -⟩ := List.lookup_eq_some_iff.mp hmember.property
  simp [hsplit]

theorem not_isObject_of_array (harray : schema.type = some "array") : schema.isObject ≠ true := by
  simp [isObject, harray]

/-- An array offers what its items offer. -/
theorem offers_iff_of_array (harray : schema.type = some "array")
    (hitems : schema.items = some items) : schema.Offers member ↔ items.Offers member := by
  constructor
  · rintro (⟨hobject, -⟩ | ⟨-, hfound, hmember⟩)
    · exact absurd hobject (not_isObject_of_array harray)
    · cases hitems.symm.trans hfound
      exact hmember
  · exact .item harray hitems

theorem agrees_of_isObject (hobject : schema.isObject = true) : schema.Agrees := by
  intro member
  constructor
  · exact .own hobject
  · rintro (⟨-, hmember⟩ | ⟨harray, -, -⟩)
    · exact hmember
    · exact absurd hobject (not_isObject_of_array harray)

/-- A schema that is neither an object nor an array offers nothing, so it must declare nothing. -/
theorem agrees_of_properties_eq_nil (hproperties : schema.properties = [])
    (harray : schema.type ≠ some "array") : schema.Agrees := by
  intro member
  constructor
  · intro hmember
    have hproperty := hmember.property
    rw [hproperties] at hproperty
    cases hproperty
  · rintro (⟨-, hmember⟩ | ⟨hfound, -, -⟩)
    · exact hmember
    · exact absurd hfound harray

/-! ## Nested schemas -/

theorem nestedProperties_eq_describedProperties (schema : Schema) :
    schema.nestedProperties = schema.nested.describedProperties := by
  rw [nestedProperties_eq, nested]
  cases schema.items with
  | none => rfl
  | some items =>
      by_cases harray : schema.type = some "array"
      · simp only [harray, if_true]
      · simp only [harray, if_false]

/-- Going into the items of an array changes nothing in what is offered. -/
theorem offers_nested_iff : schema.nested.Offers member ↔ schema.Offers member := by
  unfold nested
  split
  · next items hitems =>
      split
      · next harray => exact (offers_iff_of_array harray hitems).symm
      · exact Iff.rfl
  · exact Iff.rfl

theorem reaches_nested_iff : schema.nested.Reaches chain member ↔ schema.Reaches chain member := by
  cases chain with
  | nil => exact offers_nested_iff
  | cons name chain =>
      exact exists_congr fun outer => and_congr_left fun _ => offers_nested_iff

/-! ## The tree -/

theorem mem_describedProperties_iff : description ∈ schema.describedProperties ↔
    ∃ member, schema.Declares member ∧ description = member.descriptor false := by
  rw [mem_describedProperties]
  constructor
  · rintro ⟨declared, hdeclared, hdescribed⟩
    exact ⟨⟨description.name, schema.required.contains description.name, declared⟩,
      ⟨hdeclared, List.contains_iff_mem⟩, hdescribed⟩
  · rintro ⟨member, hmember, rfl⟩
    have hrequired : member.required = schema.required.contains member.name :=
      Bool.eq_iff_iff.mpr (hmember.required.trans List.contains_iff_mem.symm)
    refine ⟨member.schema, hmember.property, ?_⟩
    rw [Member.descriptor, hrequired]
    rfl

/-- What stands inside the descriptions of a schema is what the schema shows. -/
theorem under_describedProperties_iff : description.Under schema.describedProperties chain ↔
    ∃ member, schema.Shows chain member ∧ description = member.descriptor false := by
  induction chain generalizing schema with
  | nil => exact mem_describedProperties_iff
  | cons name chain ih =>
      constructor
      · rintro ⟨outer, houter, hname, hinner⟩
        obtain ⟨declared, hdeclared, rfl⟩ := mem_describedProperties_iff.mp houter
        have hnested : (declared.descriptor false).properties =
            declared.schema.nested.describedProperties :=
          nestedProperties_eq_describedProperties declared.schema
        rw [hnested, ih] at hinner
        obtain ⟨member, hmember, hdescribed⟩ := hinner
        exact ⟨member, ⟨declared, hdeclared, hname, hmember⟩, hdescribed⟩
      · rintro ⟨member, ⟨declared, hdeclared, hname, hmember⟩, hdescribed⟩
        refine ⟨declared.descriptor false,
          mem_describedProperties_iff.mpr ⟨declared, hdeclared, rfl⟩, hname, ?_⟩
        show description.Under declared.schema.nestedProperties chain
        rw [nestedProperties_eq_describedProperties, ih]
        exact ⟨member, hmember, hdescribed⟩

/-- Setting the mark of the outermost descriptions leaves those inside them as they are. -/
theorem under_payloadProperties_iff :
    description.Under (schema.payloadProperties identifier) chain ↔
    ∃ member, schema.Shows chain member ∧
      description = member.descriptor (chain.isEmpty && some member.name == identifier) := by
  have hlevel : ∀ {outer : PropertyDescriptor}, outer ∈ schema.payloadProperties identifier ↔
      ∃ described ∈ schema.describedProperties,
        { described with identifier := some described.name == identifier } = outer :=
    List.mem_map
  cases chain with
  | nil =>
      rw [PropertyDescriptor.Under, hlevel]
      constructor
      · rintro ⟨described, hdescribed, rfl⟩
        obtain ⟨member, hmember, rfl⟩ := mem_describedProperties_iff.mp hdescribed
        exact ⟨member, hmember, rfl⟩
      · rintro ⟨member, hmember, rfl⟩
        exact ⟨member.descriptor false, mem_describedProperties_iff.mpr ⟨member, hmember, rfl⟩, rfl⟩
  | cons name chain =>
      have hunmarked : description.Under (schema.payloadProperties identifier) (name :: chain) ↔
          description.Under schema.describedProperties (name :: chain) := by
        constructor
        · rintro ⟨outer, houter, hname, hinner⟩
          obtain ⟨described, hdescribed, rfl⟩ := hlevel.mp houter
          exact ⟨described, hdescribed, hname, hinner⟩
        · rintro ⟨described, hdescribed, hname, hinner⟩
          exact ⟨_, hlevel.mpr ⟨described, hdescribed, rfl⟩, hname, hinner⟩
      rw [hunmarked, under_describedProperties_iff]
      rfl

theorem presents_descriptor {marked : Bool} : Presents (member.descriptor marked) member marked :=
  ⟨rfl, rfl, rfl, rfl⟩

/-! ## Once, and in order -/

/-- Under a chain of names, one property of a name is shown. -/
theorem Shows.eq_of_name_eq (hmember : schema.Shows chain member)
    (hother : schema.Shows chain other)
    (hname : member.name = other.name) : member = other := by
  induction chain generalizing schema with
  | nil => exact Declares.eq_of_name_eq hmember hother hname
  | cons name chain ih =>
      obtain ⟨outer, houter, houterName, hinner⟩ := hmember
      obtain ⟨outer', houter', houterName', hinner'⟩ := hother
      obtain rfl := houter.eq_of_name_eq houter' (houterName.trans houterName'.symm)
      exact ih hinner hinner'

theorem pairwise_name_describedProperties (schema : Schema) :
    (schema.describedProperties.map PropertyDescriptor.name).Pairwise (· < ·) := by
  rw [map_name_describedProperties]
  exact Table.pairwise_names _

/-- The descriptions of a payload are a tree of what its schema shows. -/
theorem isTreeOf_shows (schema : Schema) (identifier : Option String) :
    IsTreeOf (schema.payloadProperties identifier) identifier schema.Shows where
  increasing := by
    rw [map_name_payloadProperties]
    exact Table.pairwise_names _
  increasing_inside chain description hunder := by
    obtain ⟨member, -, rfl⟩ := under_payloadProperties_iff.mp hunder
    show (member.schema.nestedProperties.map PropertyDescriptor.name).Pairwise (· < ·)
    rw [nestedProperties_eq_describedProperties]
    exact pairwise_name_describedProperties _
  described chain member hmember :=
    ⟨_, under_payloadProperties_iff.mpr ⟨member, hmember, rfl⟩, presents_descriptor⟩
  once chain description other hunder hother hname := by
    obtain ⟨member, hmember, rfl⟩ := under_payloadProperties_iff.mp hunder
    obtain ⟨same, hsame, rfl⟩ := under_payloadProperties_iff.mp hother
    obtain rfl := hmember.eq_of_name_eq hsame hname
    rfl
  only chain description hunder := by
    obtain ⟨member, hmember, rfl⟩ := under_payloadProperties_iff.mp hunder
    exact ⟨member, hmember, presents_descriptor⟩

/-! ## What is shown and what is reached -/

/-- If what is shown is what is reached, then so it is inside each declared property. -/
theorem shows_iff_reaches_of_declares
    (hequal : ∀ chain member, schema.Shows chain member ↔ schema.Reaches chain member)
    {outer : Member} (houter : schema.Declares outer) (chain : List String) (member : Member) :
    outer.schema.nested.Shows chain member ↔ outer.schema.nested.Reaches chain member := by
  have hinside := hequal (outer.name :: chain) member
  rw [reaches_nested_iff]
  constructor
  · intro hshown
    obtain ⟨reached, hreached, hname, hmember⟩ := hinside.mp ⟨outer, houter, rfl, hshown⟩
    have hdeclared : schema.Declares reached := (hequal [] reached).mpr hreached
    obtain rfl := hdeclared.eq_of_name_eq houter hname
    exact hmember
  · intro hreached
    have hoffered : schema.Offers outer := (hequal [] outer).mp houter
    obtain ⟨shown, hshown, hname, hmember⟩ := hinside.mpr ⟨outer, hoffered, rfl, hreached⟩
    obtain rfl := hshown.eq_of_name_eq houter hname
    exact hmember

/-- What is shown is what is reached, as long as no visited schema declares anything else than it
offers. -/
theorem shows_iff_reaches (hagree : ∀ visited, schema.Visits visited → visited.Agrees) :
    schema.Shows chain member ↔ schema.Reaches chain member := by
  induction chain generalizing schema with
  | nil => exact hagree schema .root member
  | cons name chain ih =>
      refine exists_congr fun outer => ?_
      rw [← hagree schema .root outer]
      refine and_congr_right fun houter => and_congr_right fun _ => ?_
      rw [ih fun visited hvisited => hagree visited (.inside houter hvisited), reaches_nested_iff]

theorem shows_iff_reaches_iff :
    (∀ chain member, schema.Shows chain member ↔ schema.Reaches chain member) ↔
      ∀ visited, schema.Visits visited → visited.Agrees := by
  constructor
  · intro hequal visited hvisited
    induction hvisited with
    | root => exact hequal []
    | inside hmember _ ih => exact ih (shows_iff_reaches_of_declares hequal hmember)
  · exact fun hagree _ _ => shows_iff_reaches hagree

/-- **What the tree of a payload describes.**  Every level of it is strictly increasing by name.  It
describes the properties that the schema shows, each once, under the names of the properties around
it and required as the schema that declares it says.  These are the properties that the schema
reaches through objects and arrays exactly if every visited schema declares what it offers.  Then
nothing that is reached is lost, and nothing else is described. -/
theorem payload_tree_complete_iff (schema : Schema) (identifier : Option String) :
    IsTreeOf (schema.payloadProperties identifier) identifier schema.Shows ∧
    ((∀ chain member, schema.Shows chain member ↔ schema.Reaches chain member) ↔
      ∀ visited, schema.Visits visited → visited.Agrees) ∧
    ((∀ visited, schema.Visits visited → visited.Agrees) →
      IsTreeOf (schema.payloadProperties identifier) identifier schema.Reaches) := by
  refine ⟨isTreeOf_shows schema identifier, shows_iff_reaches_iff, fun hagree => ?_⟩
  have hsame : schema.Shows = schema.Reaches := by
    funext chain member
    exact propext (shows_iff_reaches hagree)
  rw [← hsame]
  exact isTreeOf_shows schema identifier

end Schema

/-! ## An array of objects, and an array of arrays -/

namespace Sample

/-- A crate, whose weight must be told. -/
def crate : Schema :=
  { type := some "object", properties := [("weight", { type := some "number" })],
    required := ["weight"] }

/-- A shipment, an untyped object that lists crates. -/
def shipment : Schema :=
  { properties := [("crates", { type := some "array", items := some crate })] }

/-- A row of pieces. -/
def row : Schema :=
  { type := some "array", items := some
      { type := some "object", properties := [("piece", { type := some "string" })] } }

/-- A board, which lists rows. -/
def board : Schema :=
  { type := some "object", properties := [("rows", { type := some "array", items := some row })] }

theorem shipment_member {member : Schema.Member} (hmember : shipment.Declares member) :
    member.schema = { type := some "array", items := some crate } := by
  have hmem := hmember.mem_properties
  simp only [shipment, List.mem_singleton, Prod.mk.injEq] at hmem
  exact hmem.2

theorem crate_member {member : Schema.Member} (hmember : crate.Declares member) :
    member.name = "weight" ∧ member.schema = { type := some "number" } := by
  have hmem := hmember.mem_properties
  simpa only [crate, List.mem_singleton, Prod.mk.injEq] using hmem

/-- In a shipment, all that is looked into is objects, and the numbers in them. -/
theorem shipment_agrees : ∀ visited, shipment.Visits visited → visited.Agrees := by
  intro visited hvisited
  cases hvisited with
  | root => exact Schema.agrees_of_isObject rfl
  | inside hcrates hvisited =>
      rw [shipment_member hcrates] at hvisited
      cases hvisited with
      | root => exact Schema.agrees_of_isObject rfl
      | inside hweight hvisited =>
          rw [(crate_member hweight).2] at hvisited
          cases hvisited with
          | root => exact Schema.agrees_of_properties_eq_nil rfl (by simp [Schema.nested])
          | inside hmember => cases hmember.mem_properties

/-- The weight of a crate is reached, so it is described, and it must be told. -/
theorem shipment_tree_complete : (∀ visited, shipment.Visits visited → visited.Agrees) ∧
    ∃ description : PropertyDescriptor,
      description.Under (shipment.payloadProperties none) ["crates"] ∧
        description.name = "weight" ∧ description.required = true ∧
        ∀ other : PropertyDescriptor, other.Under (shipment.payloadProperties none) ["crates"] →
          other.name = "weight" → other = description := by
  obtain ⟨-, -, hcomplete⟩ := Schema.payload_tree_complete_iff shipment none
  have htree := hcomplete shipment_agrees
  have hcrates : shipment.Offers ⟨"crates", false, { type := some "array", items := some crate }⟩ :=
    .own rfl ⟨rfl, by simp [shipment]⟩
  have hweight : crate.Offers ⟨"weight", true, { type := some "number" }⟩ :=
    .own rfl ⟨rfl, by simp [crate]⟩
  obtain ⟨description, hunder, hpresents⟩ :=
    htree.described ["crates"] _ ⟨_, hcrates, rfl, .item rfl rfl hweight⟩
  exact ⟨shipment_agrees, description, hunder, hpresents.name, hpresents.required,
    fun other hother hname =>
      htree.once ["crates"] other description hother hunder (hname.trans hpresents.name.symm)⟩

/-- **An array in an array hides what it lists.**  The pieces in the rows of a board are reached,
and they are not described. -/
theorem exists_undescribed_property : ¬ ∀ (schema : Schema) (chain : List String)
    (member : Schema.Member), schema.Reaches chain member →
      ∃ description : PropertyDescriptor,
        description.Under (schema.payloadProperties none) chain ∧ description.name = member.name := by
  intro hall
  have hrows : board.Offers ⟨"rows", false, { type := some "array", items := some row }⟩ :=
    .own rfl ⟨rfl, by simp [board]⟩
  have hpiece : row.Offers ⟨"piece", false, { type := some "string" }⟩ :=
    .item rfl rfl (.own rfl ⟨rfl, by simp⟩)
  obtain ⟨description, hunder, -⟩ := hall board ["rows"] _ ⟨_, hrows, rfl, .item rfl rfl hpiece⟩
  obtain ⟨member, ⟨rows, hdeclared, -, hmember⟩, -⟩ :=
    Schema.under_payloadProperties_iff.mp hunder
  have hschema : rows.schema = { type := some "array", items := some row } := by
    have hmem := hdeclared.mem_properties
    simp only [board, List.mem_singleton, Prod.mk.injEq] at hmem
    exact hmem.2
  rw [hschema] at hmember
  -- the items of the property are a row, which has no properties of its own
  cases hmember.mem_properties

end Sample

end ResourceGraph
