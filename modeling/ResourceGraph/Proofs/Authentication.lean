import ResourceGraph.Analysis.Result
import ResourceGraph.Proofs.Except
import ResourceGraph.Proofs.Lists
import ResourceGraph.Proofs.Names

/-!
# Faults of authentication

The declared ways of authentication are gone through by name, and the required schemes in the order
in which the document lists them.  A key that travels neither in a header nor in the query stops the
analysis, whether it is required or not; only when there is none does a required scheme without a
declared key stop it.  `authentication_eq_error_iff` says which of them is reported.
-/

namespace ResourceGraph

namespace Document

variable {document : Document} {name : String}

/-- A name is that of a declared key. -/
def DeclaresKey (document : Document) (name : String) : Prop :=
  ∃ declaration, document.securityDefinitions.get? name = some declaration ∧
    declaration.type = Security.apiKeyType

/-- A declared key is expected at a location that is neither a header nor the query. -/
def UnsupportedKey (document : Document) (name : String) (location : Option String) : Prop :=
  ∃ declaration, document.securityDefinitions.get? name = some declaration ∧
    declaration.type = Security.apiKeyType ∧ declaration.location = location ∧
    location ≠ some "header" ∧ location ≠ some "query"

/-- A name is the first, among the required schemes, that is not that of a declared key. -/
def FirstUnknownScheme (document : Document) (name : String) : Prop :=
  ∃ before scopes after, document.security.flatten = before ++ (name, scopes) :: after ∧
    ¬ document.DeclaresKey name ∧ ∀ entry ∈ before, document.DeclaresKey entry.1

/-- All required schemes are those of declared keys. -/
def SchemesKnown (document : Document) : Prop :=
  ∀ entry ∈ document.security.flatten, document.DeclaresKey entry.1

end Document

namespace Security

variable {document : Document} {name : String} {declaration : SecurityDeclaration}
  {error : AnalysisError} {known : List SecurityDefinition}

/-! ## Declared keys -/

theorem variantOf?_eq_none_iff {location : String} (bearer : Bool) :
    variantOf? location bearer = none ↔ location ≠ "header" ∧ location ≠ "query" := by
  rw [variantOf?, List.find?_eq_none]
  cases bearer <;>
    simp [SecurityVariant.all, SecurityVariant.location, SecurityVariant.isBearer,
      eq_comm (b := location)]

theorem classify_eq_error_iff : classify name declaration = .error error ↔
    (declaration.location ≠ some "header" ∧ declaration.location ≠ some "query") ∧
      error = .unsupportedLocation name declaration.location := by
  have hlocation : (declaration.location.getD "" ≠ "header" ∧
      declaration.location.getD "" ≠ "query") ↔
      declaration.location ≠ some "header" ∧ declaration.location ≠ some "query" := by
    cases declaration.location <;> simp
  rw [← hlocation, ← variantOf?_eq_none_iff (declaration.extensions.isSet .bearer),
    classify]
  cases variantOf? (declaration.location.getD "") (declaration.extensions.isSet .bearer) with
  | none => simp [eq_comm]
  | some variant => simp

theorem classify_eq_ok {definition : SecurityDefinition}
    (h : classify name declaration = .ok definition) : definition.name = name := by
  unfold classify at h
  simp only at h
  split at h
  · cases h
  · cases h
    rfl

/-- The declared keys of a document with their names, in order. -/
def declaredKeys (document : Document) : List (String × SecurityDeclaration) :=
  document.securityDefinitions.sorted.filter fun entry => entry.2.type == apiKeyType

theorem mem_declaredKeys {entry : String × SecurityDeclaration} :
    entry ∈ declaredKeys document ↔
      document.securityDefinitions.get? entry.1 = some entry.2 ∧ entry.2.type = apiKeyType := by
  rw [declaredKeys, List.mem_filter, Table.mem_sorted, beq_iff_eq]

theorem pairwise_declaredKeys (document : Document) :
    (declaredKeys document).Pairwise fun entry later => entry.1 < later.1 := by
  have hnames := Table.pairwise_names document.securityDefinitions
  rw [← Table.map_fst_sorted, List.pairwise_map] at hnames
  exact hnames.sublist List.filter_sublist

theorem definitions_eq_mapM (document : Document) : definitions document =
    (declaredKeys document).mapM fun entry => classify entry.1 entry.2 := rfl

/-- **The first unsupported key is reported**, in the order of the names. -/
theorem definitions_eq_error_iff : definitions document = .error error ↔
    ∃ name location, error = .unsupportedLocation name location ∧
      document.UnsupportedKey name location ∧
      ∀ other otherLocation, document.UnsupportedKey other otherLocation → name ≤ other := by
  rw [definitions_eq_mapM, mapM_eq_error_iff,
    firstFailure_iff_of_pairwise Prod.fst (pairwise_declaredKeys document)]
  simp only [classify_eq_error_iff]
  constructor
  · rintro ⟨⟨name, declaration⟩, hentry, ⟨hlocation, rfl⟩, hleast⟩
    obtain ⟨hget, htype⟩ := mem_declaredKeys.mp hentry
    refine ⟨name, declaration.location, rfl, ⟨declaration, hget, htype, rfl, hlocation⟩, ?_⟩
    rintro other otherLocation ⟨otherDeclaration, hother, hotherType, rfl, hunsupported⟩
    exact hleast (other, otherDeclaration) (mem_declaredKeys.mpr ⟨hother, hotherType⟩) _
      ⟨hunsupported, rfl⟩
  · rintro ⟨name, location, rfl, ⟨declaration, hget, htype, rfl, hlocation⟩, hleast⟩
    refine ⟨(name, declaration), mem_declaredKeys.mpr ⟨hget, htype⟩, ⟨hlocation, rfl⟩, ?_⟩
    rintro ⟨other, otherDeclaration⟩ hother cause ⟨hunsupported, -⟩
    obtain ⟨hotherGet, hotherType⟩ := mem_declaredKeys.mp hother
    exact hleast other otherDeclaration.location
      ⟨otherDeclaration, hotherGet, hotherType, rfl, hunsupported⟩

theorem definitions_eq_ok_iff : (∃ known, definitions document = .ok known) ↔
    ∀ name location, ¬ document.UnsupportedKey name location := by
  rw [exists_eq_ok_iff]
  constructor
  · rintro hsound name location ⟨declaration, hget, htype, rfl, hlocation⟩
    -- a key that is unsupported makes the whole pass over the keys fail, whichever is first
    obtain ⟨known, hknown⟩ := exists_eq_ok_iff.mpr hsound
    rw [definitions_eq_mapM] at hknown
    obtain ⟨definition, hdefinition⟩ := exists_of_mapM_eq_ok hknown (name, declaration)
      (mem_declaredKeys.mpr ⟨hget, htype⟩)
    rw [classify_eq_error_iff.mpr ⟨hlocation, rfl⟩] at hdefinition
    cases hdefinition
  · intro hsound error herror
    obtain ⟨name, location, -, hunsupported, -⟩ := definitions_eq_error_iff.mp herror
    exact hsound name location hunsupported

/-! ## Required schemes -/

theorem exists_definition_iff (h : definitions document = .ok known) :
    (∃ definition ∈ known, definition.name = name) ↔ document.DeclaresKey name := by
  rw [definitions_eq_mapM, mapM_eq_ok_iff] at h
  constructor
  · rintro ⟨definition, hdefinition, rfl⟩
    obtain ⟨entry, hentry, hclassified⟩ := exists_of_mem_right h hdefinition
    obtain ⟨hget, htype⟩ := mem_declaredKeys.mp hentry
    rw [classify_eq_ok hclassified]
    exact ⟨entry.2, hget, htype⟩
  · rintro ⟨declaration, hget, htype⟩
    obtain ⟨definition, hdefinition, hclassified⟩ := exists_of_mem_left h
      (show (name, declaration) ∈ declaredKeys document from mem_declaredKeys.mpr ⟨hget, htype⟩)
    exact ⟨definition, hdefinition, classify_eq_ok hclassified⟩

/-- **The first unknown scheme is reported**, in the order of the document. -/
theorem resolveGlobal_eq_error_iff (h : definitions document = .ok known) :
    resolveGlobal document known = .error error ↔
      ∃ name, error = .unresolvedScheme name ∧ document.FirstUnknownScheme name := by
  have hknown : ∀ name, (known.any fun definition => definition.name == name) = true ↔
      document.DeclaresKey name := by
    intro name
    rw [← exists_definition_iff h]
    simp
  have hfirst : ∀ name, (∃ scopes, document.security.flatten.find? (fun entry =>
      !known.any fun definition => definition.name == entry.1) = some (name, scopes)) ↔
        document.FirstUnknownScheme name := by
    intro name
    simp only [List.find?_eq_some_iff_append, Bool.not_not, hknown, Bool.not_eq_true',
      ← Bool.not_eq_true, Document.FirstUnknownScheme]
    constructor
    · rintro ⟨scopes, hname, before, after, hsplit, hbefore⟩
      exact ⟨before, scopes, after, hsplit, hname, hbefore⟩
    · rintro ⟨before, scopes, after, hsplit, hname, hbefore⟩
      exact ⟨scopes, hname, before, after, hsplit, hbefore⟩
  simp only [← hfirst]
  unfold resolveGlobal
  simp only
  cases document.security.flatten.find? (fun entry =>
      !known.any fun definition => definition.name == entry.1) with
  | none => simp
  | some entry => simp [Prod.ext_iff, eq_comm]

theorem resolveGlobal_eq_ok_iff (h : definitions document = .ok known) :
    (∃ schemes, resolveGlobal document known = .ok schemes) ↔ document.SchemesKnown := by
  unfold resolveGlobal
  simp only
  split
  · next name scopes hfind =>
      refine ⟨fun ⟨schemes, hschemes⟩ => (by cases hschemes), fun hall => ?_⟩
      obtain ⟨definition, hdefinition, hname⟩ :=
        (exists_definition_iff h).mpr (hall _ (List.mem_of_find?_eq_some hfind))
      have hunknown : ∀ definition ∈ known, definition.name ≠ name := by
        simpa using List.find?_some hfind
      exact absurd hname (hunknown definition hdefinition)
  · next hfind =>
      refine ⟨fun _ entry hentry => ?_, fun _ => ⟨_, rfl⟩⟩
      have hknown := List.find?_eq_none.mp hfind entry hentry
      rw [← exists_definition_iff h]
      simpa using hknown

end Security

namespace Document

variable {document : Document} {error : AnalysisError}

/-- **What authentication fails with**: the first unsupported key, or the first unknown scheme if
every key is supported. -/
theorem authentication_eq_error_iff : document.authentication = .error error ↔
    (∃ name location, error = .unsupportedLocation name location ∧
      document.UnsupportedKey name location ∧
      ∀ other otherLocation, document.UnsupportedKey other otherLocation → name ≤ other) ∨
    ((∀ name location, ¬ document.UnsupportedKey name location) ∧
      ∃ name, error = .unresolvedScheme name ∧ document.FirstUnknownScheme name) := by
  rw [authentication, bind_eq_error, Security.definitions_eq_error_iff,
    ← Security.definitions_eq_ok_iff, ← exists_and_right]
  refine or_congr_right (exists_congr fun known => and_congr_right fun hknown => ?_)
  rw [bind_eq_error, Security.resolveGlobal_eq_error_iff hknown]
  exact or_iff_left fun ⟨_, _, hnone⟩ => by cases hnone

theorem authentication_eq_ok_iff : (∃ result, document.authentication = .ok result) ↔
    (∀ name location, ¬ document.UnsupportedKey name location) ∧ document.SchemesKnown := by
  rw [← Security.definitions_eq_ok_iff]
  simp only [authentication, bind_eq_ok]
  constructor
  · rintro ⟨result, known, hknown, schemes, hschemes, -⟩
    exact ⟨⟨known, hknown⟩, (Security.resolveGlobal_eq_ok_iff hknown).mp ⟨schemes, hschemes⟩⟩
  · rintro ⟨⟨known, hknown⟩, hall⟩
    obtain ⟨schemes, hschemes⟩ := (Security.resolveGlobal_eq_ok_iff hknown).mpr hall
    exact ⟨(known, schemes), known, hknown, schemes, hschemes, rfl⟩

end Document

end ResourceGraph
