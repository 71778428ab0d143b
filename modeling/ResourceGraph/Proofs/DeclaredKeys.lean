import ResourceGraph.Proofs.Authentication
import ResourceGraph.Proofs.CompliantPair

/-!
# Declared keys and their variants

The ways of authentication that a document supports are its declared keys, one definition for each,
in the order of their names.  A definition says of a declaration where the key travels, whether it
is a bearer token, and what carries it (`SecurityDefinition.Describes`).  The variant, which says
the first two, is looked up in a table; the name of a variant spells out both
(`SecurityVariant.location_eq_takeWhile`, `SecurityVariant.isBearer_iff`).

Definitions are put into buckets by their variants.  That can be done one by one, each definition at
the end of its bucket (`partition_eq_foldl`), so that no bucket loses its order and none shares a
definition with another one.
-/

namespace ResourceGraph

/-! ## Variants -/

namespace SecurityVariant

/-- The location of a variant stands in front of the first underscore of its name. -/
theorem location_eq_takeWhile (variant : SecurityVariant) :
    variant.location.toList = variant.name.toList.takeWhile (· != '_') := by
  cases variant <;> decide

/-- The name of a variant ends with whether it is that of bearer tokens. -/
theorem isBearer_iff (variant : SecurityVariant) :
    variant.isBearer = true ↔ "_bearer".toList <:+ variant.name.toList := by
  cases variant <;> decide

theorem location_eq (variant : SecurityVariant) :
    variant.location = "header" ∨ variant.location = "query" := by
  cases variant
  · exact Or.inl rfl
  · exact Or.inl rfl
  · exact Or.inr rfl
  · exact Or.inr rfl

end SecurityVariant

/-! ## What a definition says -/

/-- A declaration is flagged as one of a bearer token. -/
def SecurityDeclaration.IsBearer (declaration : SecurityDeclaration) : Prop :=
  declaration.extensions.Assert "x-terraform-authentication-scheme-bearer"

/-- A definition says of a declared key where it travels, whether it is a bearer token, and which
header or parameter carries it: `Authorization` for bearer tokens, else the declared one. -/
structure SecurityDefinition.Describes (definition : SecurityDefinition)
    (declaration : SecurityDeclaration) : Prop where
  location : declaration.location = some definition.variant.location
  bearer : definition.variant.isBearer = true ↔ declaration.IsBearer
  carrier : definition.parameter =
    if definition.variant.isBearer then "Authorization" else declaration.parameterName.getD ""

/-- Definitions list the declared keys of a document: strictly in the order of their names, each of
them described. -/
structure Document.ListsKeys (document : Document) (known : List SecurityDefinition) : Prop where
  ordered : (known.map SecurityDefinition.name).Pairwise (· < ·)
  names : ∀ name, name ∈ known.map SecurityDefinition.name ↔ document.DeclaresKey name
  described : ∀ definition ∈ known, ∃ declaration,
    document.securityDefinitions.get? definition.name = some declaration ∧
      declaration.type = "apiKey" ∧ definition.Describes declaration

namespace Security

variable {document : Document} {name : String} {declaration : SecurityDeclaration}
  {definition other : SecurityDefinition} {known definitions : List SecurityDefinition}

theorem variantOf?_eq_some_iff {location : String} {bearer : Bool} {variant : SecurityVariant} :
    variantOf? location bearer = some variant ↔
      variant.location = location ∧ variant.isBearer = bearer := by
  constructor
  · intro h
    have hfound := List.find?_some h
    rw [Bool.and_eq_true, beq_iff_eq, beq_iff_eq] at hfound
    exact hfound
  · rintro ⟨rfl, rfl⟩
    cases variant <;> rfl

/-- **What a declaration is classified as.** -/
theorem classify_eq_ok_iff : classify name declaration = .ok definition ↔
    definition.name = name ∧ definition.Describes declaration := by
  have hbearer : declaration.extensions.isSet .bearer = true ↔ declaration.IsBearer :=
    Extensions.isSet_iff
  rw [classify]
  constructor
  · intro h
    split at h
    · cases h
    · next variant hvariant =>
        cases h
        obtain ⟨hlocation, hflag⟩ := variantOf?_eq_some_iff.mp hvariant
        refine ⟨rfl, ?_, ?_, ?_⟩
        · -- no variant has the location that stands for a missing one
          cases hdeclared : declaration.location with
          | some location =>
              rw [hdeclared, Option.getD_some] at hlocation
              rw [hlocation]
          | none =>
              rw [hdeclared, Option.getD_none] at hlocation
              rcases variant.location_eq with hheader | hquery
              · exact absurd (hlocation.symm.trans hheader) (by decide)
              · exact absurd (hlocation.symm.trans hquery) (by decide)
        · rw [← hbearer, ← hflag]
        · rw [← hflag]
          rfl
  · rintro ⟨rfl, hlocation, hflag, hcarrier⟩
    have hsame : definition.variant.isBearer = declaration.extensions.isSet .bearer := by
      rw [Bool.eq_iff_iff, hbearer]
      exact hflag
    have hvariant : variantOf? (declaration.location.getD "")
        (declaration.extensions.isSet .bearer) = some definition.variant := by
      refine variantOf?_eq_some_iff.mpr ⟨?_, hsame⟩
      rw [hlocation, Option.getD_some]
    rw [hvariant, ← hsame]
    show Except.ok (SecurityDefinition.mk definition.name _ definition.variant) = _
    rw [show bearerParameter = "Authorization" from rfl, ← hcarrier]

theorem eq_of_describes (h : definition.Describes declaration)
    (hother : other.Describes declaration) (hname : definition.name = other.name) :
    definition = other := by
  have hclassified := classify_eq_ok_iff.mpr ⟨hname, h⟩
  rw [classify_eq_ok_iff.mpr ⟨rfl, hother⟩] at hclassified
  exact (Except.ok.inj hclassified).symm

/-! ## The definitions of a document -/

theorem listsKeys_of_definitions_eq (h : Security.definitions document = .ok known) :
    document.ListsKeys known := by
  have hall := h
  rw [definitions_eq_mapM, mapM_eq_ok_iff] at hall
  have hnames : known.map SecurityDefinition.name = (declaredKeys document).map Prod.fst :=
    (map_eq_of_forall₂ hall fun entry definition hclassified =>
      (classify_eq_ok hclassified).symm).symm
  refine ⟨?_, fun name => ?_, fun definition hdefinition => ?_⟩
  · rw [hnames, List.pairwise_map]
    exact pairwise_declaredKeys document
  · rw [← exists_definition_iff h, List.mem_map]
  · obtain ⟨entry, hentry, hclassified⟩ := exists_of_mem_right hall hdefinition
    obtain ⟨hget, htype⟩ := mem_declaredKeys.mp hentry
    obtain ⟨hname, hdescribes⟩ := classify_eq_ok_iff.mp hclassified
    exact ⟨entry.2, hname ▸ hget, htype, hdescribes⟩

theorem eq_of_listsKeys {others : List SecurityDefinition} (h : document.ListsKeys known)
    (hothers : document.ListsKeys others) : known = others := by
  have hmem {known others : List SecurityDefinition} (h : document.ListsKeys known)
      (hothers : document.ListsKeys others) :
      ∀ definition ∈ known, definition ∈ others := by
    intro definition hdefinition
    have hname : definition.name ∈ others.map SecurityDefinition.name := by
      rw [hothers.names, ← h.names]
      exact List.mem_map_of_mem hdefinition
    obtain ⟨other, hother, hsame⟩ := List.mem_map.mp hname
    obtain ⟨declaration, hget, -, hdescribes⟩ := h.described definition hdefinition
    obtain ⟨otherDeclaration, hotherGet, -, hotherDescribes⟩ := hothers.described other hother
    rw [hsame, hget] at hotherGet
    cases hotherGet
    exact eq_of_describes hdescribes hotherDescribes hsame.symm ▸ hother
  have hordered {known : List SecurityDefinition} (h : document.ListsKeys known) :
      known.Pairwise fun definition later => definition.name < later.name :=
    List.pairwise_map.mp h.ordered
  have hnodup {known : List SecurityDefinition} (h : document.ListsKeys known) : known.Nodup := by
    refine (hordered h).imp fun {definition later} hless hsame => ?_
    rw [hsame] at hless
    exact lt_irrefl _ hless
  have hperm : known.Perm others :=
    (List.perm_ext_iff_of_nodup (hnodup h) (hnodup hothers)).mpr fun definition =>
      ⟨hmem h hothers definition, hmem hothers h definition⟩
  refine hperm.eq_of_pairwise (fun definition other _ _ hless hmore => ?_) (hordered h)
    (hordered hothers)
  exact absurd hmore (lt_asymm hless)

/-- The keys that a document declares are supported. -/
theorem exists_definitions_iff : (∃ known, Security.definitions document = .ok known) ↔
    ∀ name declaration, document.securityDefinitions.get? name = some declaration →
      declaration.type = "apiKey" →
        declaration.location = some "header" ∨ declaration.location = some "query" := by
  rw [definitions_eq_ok_iff]
  constructor
  · intro hsound name declaration hget htype
    by_contra hnone
    rw [not_or] at hnone
    exact hsound name declaration.location ⟨declaration, hget, htype, rfl, hnone.1, hnone.2⟩
  · rintro hsupported name location ⟨declaration, hget, htype, rfl, hheader, hquery⟩
    rcases hsupported name declaration hget htype with h | h
    · exact hheader h
    · exact hquery h

theorem definitions_eq_ok_iff_listsKeys :
    Security.definitions document = .ok known ↔ document.ListsKeys known := by
  constructor
  · exact listsKeys_of_definitions_eq
  · intro h
    -- a described key is supported, so that there is a result, and only one list is such a result
    have hresult : ∃ found, Security.definitions document = .ok found := by
      rw [exists_definitions_iff]
      intro name declaration hget htype
      obtain ⟨definition, hdefinition, rfl⟩ :=
        List.mem_map.mp ((h.names name).mpr ⟨declaration, hget, htype⟩)
      obtain ⟨described, hdescribed, -, hdescribes⟩ := h.described definition hdefinition
      rw [hget] at hdescribed
      cases hdescribed
      rw [hdescribes.location, Option.some_inj, Option.some_inj]
      exact definition.variant.location_eq
    obtain ⟨found, hfound⟩ := hresult
    rw [eq_of_listsKeys h (listsKeys_of_definitions_eq hfound), hfound]

/-! ## Buckets -/

/-- Buckets with a definition put at the end of the one of its variant. -/
def place (buckets : List (SecurityVariant × List SecurityDefinition))
    (definition : SecurityDefinition) : List (SecurityVariant × List SecurityDefinition) :=
  buckets.map fun bucket =>
    if definition.variant = bucket.1 then (bucket.1, bucket.2 ++ [definition]) else bucket

/-- Buckets hold the definitions of a list by their variants: each variant has one bucket, which
keeps the order of the list and has its own definitions as often as the list does. -/
structure Holds (buckets : List (SecurityVariant × List SecurityDefinition))
    (definitions : List SecurityDefinition) : Prop where
  variants : buckets.map Prod.fst = SecurityVariant.all
  ordered : ∀ bucket ∈ buckets, bucket.2.Sublist definitions
  own : ∀ bucket ∈ buckets, ∀ definition, bucket.2.count definition =
    if definition.variant = bucket.1 then definitions.count definition else 0
  complete : (buckets.flatMap Prod.snd).Perm definitions

theorem partition_append_singleton (definitions : List SecurityDefinition)
    (definition : SecurityDefinition) :
    partition (definitions ++ [definition]) = place (partition definitions) definition := by
  simp only [partition, place, List.map_map, List.filter_append]
  refine List.map_congr_left fun variant _ => ?_
  by_cases hvariant : definition.variant = variant
  · simp [hvariant]
  · simp [hvariant]

/-- **Buckets are filled one definition after another.** -/
theorem partition_eq_foldl (definitions : List SecurityDefinition) :
    partition definitions =
      definitions.foldl place (SecurityVariant.all.map fun variant => (variant, [])) := by
  induction definitions using List.reverseRecOn with
  | nil => rfl
  | append_singleton definitions definition ih =>
      rw [partition_append_singleton, List.foldl_append, ← ih]
      rfl

theorem count_filter_variant (variant : SecurityVariant) :
    (definitions.filter fun other => other.variant == variant).count definition =
      if definition.variant = variant then definitions.count definition else 0 := by
  split
  · next hvariant => exact List.count_filter (beq_iff_eq.mpr hvariant)
  · next hvariant =>
      refine List.count_eq_zero.mpr fun hmem => hvariant ?_
      exact beq_iff_eq.mp (List.mem_filter.mp hmem).2

theorem holds_partition (definitions : List SecurityDefinition) :
    Holds (partition definitions) definitions where
  variants := by
    rw [partition, List.map_map]
    exact List.map_id _
  ordered bucket hbucket := by
    obtain ⟨variant, -, rfl⟩ := List.mem_map.mp hbucket
    exact List.filter_sublist
  own bucket hbucket definition := by
    obtain ⟨variant, -, rfl⟩ := List.mem_map.mp hbucket
    exact count_filter_variant variant
  complete := by
    refine List.perm_iff_count.mpr fun definition => ?_
    simp only [partition, SecurityVariant.all, List.map_cons, List.map_nil, List.flatMap_cons,
      List.flatMap_nil, List.append_nil, List.count_append, count_filter_variant]
    cases definition.variant <;> simp

/-- **Declared keys are extracted and partitioned.**  For every document,

* the keys have definitions exactly if each of them travels in a header or in the query; otherwise
  the smallest name of one that does not is reported, with its location;
* the definitions are those that list the declared keys: no others, strictly in the order of their
  names, each with the declared location, the flag for bearer tokens and what carries the key.

The name of a variant spells out its location and its flag, and the buckets of the variants hold any
definitions, filled with one after another. -/
theorem keys_partitioned (document : Document) :
    ((∃ known, Security.definitions document = .ok known) ↔
      ∀ name declaration, document.securityDefinitions.get? name = some declaration →
        declaration.type = "apiKey" →
          declaration.location = some "header" ∨ declaration.location = some "query") ∧
    (∀ error, Security.definitions document = .error error ↔
      ∃ name location, error = .unsupportedLocation name location ∧
        document.UnsupportedKey name location ∧
        ∀ other otherLocation, document.UnsupportedKey other otherLocation → name ≤ other) ∧
    (∀ known, Security.definitions document = .ok known ↔ document.ListsKeys known) ∧
    (∀ variant : SecurityVariant,
      variant.location.toList = variant.name.toList.takeWhile (· != '_') ∧
        (variant.isBearer = true ↔ "_bearer".toList <:+ variant.name.toList)) ∧
    ∀ definitions : List SecurityDefinition, Holds (partition definitions) definitions ∧
      partition definitions =
        definitions.foldl place (SecurityVariant.all.map fun variant => (variant, [])) :=
  ⟨exists_definitions_iff, fun _ => definitions_eq_error_iff,
    fun _ => definitions_eq_ok_iff_listsKeys,
    fun variant => ⟨variant.location_eq_takeWhile, variant.isBearer_iff⟩,
    fun definitions => ⟨holds_partition definitions, partition_eq_foldl definitions⟩⟩

end Security

namespace Sample

/-- A gate that opens to a token, a badge or a password. -/
def gate : Document where
  securityDefinitions := [
    ("token", {
      type := "apiKey"
      location := some "header"
      parameterName := some "X-Token"
      extensions := [("X-Terraform-Authentication-Scheme-Bearer", .text " True ")] }),
    ("password", { type := "basic" }),
    ("badge", { type := "apiKey", location := some "query", parameterName := some "badge" })]

/-- The badge comes before the token, which is carried by another header than the declared one; the
password is no key. -/
theorem gate_lists_badge_token : ∃ known, gate.ListsKeys known ∧
    (known.map fun definition => (definition.name, definition.parameter)) =
      [("badge", "badge"), ("token", "Authorization")] ∧
    Security.Holds (Security.partition known) known := by
  have hrun : (Security.definitions gate).toOption.map (fun known =>
      known.map fun definition => (definition.name, definition.parameter)) =
        some [("badge", "badge"), ("token", "Authorization")] := by
    decide +kernel
  obtain ⟨known, hknown, hcarriers⟩ := exists_of_toOption_map_eq_some hrun
  obtain ⟨-, -, hlisted, -, hbuckets⟩ := Security.keys_partitioned gate
  exact ⟨known, (hlisted known).mp hknown, hcarriers, (hbuckets known).1⟩

end Sample

end ResourceGraph
