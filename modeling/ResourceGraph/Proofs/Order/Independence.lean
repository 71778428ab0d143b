import ResourceGraph.Proofs.Order.Analysis
import ResourceGraph.Proofs.Order.Expansion

/-!
# Analysis in any order

The order in which a document lists its mappings changes the analysis only where a reference carries
a mapping to a place that is read in order.

## Strategy

A document is expanded, built and analysed.  Expansion keeps `Aligned` in the role of every place if
the references are faithful (`expand_aligned`), building turns aligned values into documents that
are read alike (`Document.ofValue_agree`), and these have the same analysis
(`Document.Alike.analyse_eq`).  In the role `unread` references are always faithful, so that whether
a document can be built at all never depends on the order.
-/

namespace ResourceGraph

namespace Value

/-- A document is built from a value whose references are expanded first. -/
def Builds (source : Option String) (spec : Value) (document : Document) : Prop :=
  ∃ expanded, expand spec = .ok expanded ∧ Document.ofValue source expanded = .ok document

variable {spec spec' expanded expanded' : Value} {document document' : Document}

/-- Values in a different order are both built or both rejected. -/
theorem exists_builds_iff (h : Aligned .unread spec spec') (source : Option String) :
    (∃ document, Builds source spec document) ↔ ∃ document, Builds source spec' document := by
  have hexpand := expand_aligned h (faithful_unread h)
  unfold Builds
  generalize expand spec = first at hexpand ⊢
  generalize expand spec' = second at hexpand ⊢
  cases hexpand with
  | error => simp
  | ok haligned =>
      have hiff := (Document.ofValue_agree source (Or.inr rfl) haligned).exists_ok_iff
      simpa using hiff

/-- Values whose expansions differ in nothing that is seen have the same analysis. -/
theorem analyse_eq_of_aligned {source : Option String} (h : Aligned .document expanded expanded')
    (hdocument : Document.ofValue source expanded = .ok document)
    (hdocument' : Document.ofValue source expanded' = .ok document') (selection : Selection) :
    document.analyse selection = document'.analyse selection := by
  have hagree := Document.ofValue_agree source (Or.inl rfl) h
  rw [hdocument, hdocument'] at hagree
  exact (hagree.related_of_ok rfl).analyse_eq selection

/-- **The order of mappings and the analysis.**  Two values that differ in the order of the entries
of mappings are both built or both rejected.  They have the same analysis, or the same error ends
it, if the order is seen nowhere: if they are aligned as documents and their references are
faithful, or only what they are expanded to is aligned. -/
theorem analysis_free_of_order (h : Aligned .unread spec spec') (source : Option String)
    (selection : Selection) :
    ((∃ document, Builds source spec document) ↔ ∃ document, Builds source spec' document) ∧
    (Aligned .document spec spec' → Faithful .document spec spec' →
      ∀ document document', Builds source spec document → Builds source spec' document' →
        document.analyse selection = document'.analyse selection) ∧
    ∀ expanded expanded' document document', expand spec = .ok expanded →
      expand spec' = .ok expanded' → Aligned .document expanded expanded' →
        Document.ofValue source expanded = .ok document →
          Document.ofValue source expanded' = .ok document' →
            document.analyse selection = document'.analyse selection := by
  refine ⟨exists_builds_iff h source, ?_, ?_⟩
  · rintro hdocument hfaithful document document' ⟨expanded, hexpanded, hbuilt⟩
      ⟨expanded', hexpanded', hbuilt'⟩
    have haligned := expand_aligned hdocument hfaithful
    rw [hexpanded, hexpanded'] at haligned
    exact analyse_eq_of_aligned haligned.related_of_ok hbuilt hbuilt' selection
  · intro expanded expanded' document document' _ _ haligned hbuilt hbuilt'
    exact analyse_eq_of_aligned haligned hbuilt hbuilt' selection

end Value

/-! ## Two sample documents -/

namespace Sample

open Value

/-- The body of a new member of a collection, which a definition describes. -/
def body : Value :=
  map [(.text "in", text "body"), (.text "schema", referenceTo "#/definitions/Book")]

/-- The operation that adds a member to the collection. -/
def addition : Value := map [(.text "parameters", list [body])]

/-- The collection. -/
def shelf : Value := map [(.text "post", addition)]

/-- A member of the collection. -/
def volume : Value := map [(.text "get", map [])]

/-- A definition with some properties. -/
def book (properties : List (Scalar × Value)) : Value :=
  map [(.text "type", text "object"), (.text "properties", map properties)]

/-- A document with some paths and properties. -/
def library (paths properties : List (Scalar × Value)) : Value :=
  map [(.text "paths", map paths), (.text "definitions", map [(.text "Book", book properties)])]

/-- The library in one order. -/
def sorted : Value :=
  library [(.text "/v1/books", shelf), (.text "/v1/books/{id}", volume)]
    [(.text "id", map []), (.text "title", map [])]

/-- The library in another order. -/
def reversed : Value :=
  library [(.text "/v1/books/{id}", volume), (.text "/v1/books", shelf)]
    [(.text "title", map []), (.text "id", map [])]

theorem aligned_nil (role : Role) : Aligned role (map []) (map []) := .of_forall₂ .nil .nil

theorem book_aligned : Aligned .schema (book [(.text "id", map []), (.text "title", map [])])
    (book [(.text "title", map []), (.text "id", map [])]) := by
  refine .of_forall₂ (.cons ⟨rfl, .scalar ..⟩ (.cons ⟨rfl, ?_⟩ .nil))
    (by simp [Entries.keys, Scalar.key])
  refine .of_perm (.swap ..) rfl (by simp) ?_ (by simp [Entries.keys, Scalar.key])
  simp [aligned_nil]

theorem shelf_aligned : Aligned .pathItem shelf shelf := by
  have hreference : Aligned .schema (referenceTo "#/definitions/Book") _ :=
    .of_forall₂ (.cons ⟨rfl, .scalar ..⟩ .nil) (by simp [Entries.keys])
  have hbody : Aligned .parameter body body :=
    .of_forall₂ (.cons ⟨rfl, .scalar ..⟩ (.cons ⟨rfl, hreference⟩ .nil))
      (by simp [Entries.keys, Scalar.key])
  have hbodies : Aligned .parameters (list [body]) (list [body]) :=
    aligned_list_iff.mpr ⟨_, rfl, .cons hbody .nil⟩
  have haddition : Aligned .operation addition addition :=
    .of_forall₂ (.cons ⟨rfl, hbodies⟩ .nil) (by simp [Entries.keys])
  exact .of_forall₂ (.cons ⟨rfl, haddition⟩ .nil) (by simp [Entries.keys])

theorem library_aligned : Aligned .document sorted reversed := by
  have hvolume : Aligned .pathItem volume volume :=
    .of_forall₂ (.cons ⟨rfl, aligned_nil _⟩ .nil) (by simp [Entries.keys])
  refine .of_forall₂ (.cons ⟨rfl, ?_⟩ (.cons ⟨rfl, ?_⟩ .nil)) (by simp [Entries.keys, Scalar.key])
  · refine .of_perm (.swap ..) rfl (by simp) ?_ (by simp [Entries.keys, Scalar.key])
    simpa using ⟨shelf_aligned, hvolume⟩
  · exact .of_forall₂ (.cons ⟨rfl, book_aligned.unread⟩ .nil) (by simp [Entries.keys])

/-- The one reference of the library stands for a schema, and the definition has none. -/
theorem library_faithful : Faithful .document sorted reversed := by
  have hbook : Pointer.locate sorted "#/definitions/Book" =
      .ok (book [(.text "id", map []), (.text "title", map [])]) := by rfl
  have hbook' : Pointer.locate reversed "#/definitions/Book" =
      .ok (book [(.text "title", map []), (.text "id", map [])]) := by rfl
  refine faithful_of_closed (fun place reference => place = .schema ∧
    reference = "#/definitions/Book") ?_ ?_ ?_
  · intro place reference hplaced
    simp [sorted, library, shelf, addition, body, volume, book, referenceTo, placed_map_iff,
      placed_list_iff, not_placed_scalar, reference?, Entries.get?_cons, Entries.get?_nil,
      referenceKey, asText?] at hplaced
    obtain ⟨rfl, rfl⟩ := hplaced
    exact ⟨rfl, rfl⟩
  · rintro place reference target ⟨rfl, rfl⟩ htarget inner other hplaced
    cases hbook.symm.trans htarget
    simp [book, placed_map_iff, not_placed_scalar, reference?, Entries.get?_cons,
      Entries.get?_nil, referenceKey] at hplaced
  · rintro place reference target target' ⟨rfl, rfl⟩ htarget htarget'
    cases hbook.symm.trans htarget
    cases hbook'.symm.trans htarget'
    exact book_aligned

/-- A document whose hosts are in regions, which it lists by a reference to its definitions. -/
def regional (definitions : List (Scalar × Value)) : Value :=
  map [(.text "paths", map [
      (.text "/v1/cdns", map [(.text "post", map [
        (.text "x-terraform-resource-host", text "cdn.${region}.api.com"),
        (.text "parameters", list [map [(.text "in", text "body"), (.text "schema", map [
          (.text "properties", map [(.text "id", map [])])])]])])]),
      (.text "/v1/cdns/{id}", map [(.text "get", map [])])]),
    (.text "definitions", map definitions),
    (.text "x-terraform-resource-regions-region", map [(.text "$ref", text "#/definitions")])]

/-- The analysis of a value, if it can be built. -/
def analysis? (spec : Value) : Option (Except AnalysisFailure AnalysisResult) :=
  ((expand spec).toOption.bind fun expanded => (Document.ofValue none expanded).toOption).map
    fun document => document.analyse {}

/-- The names of the resources that are found, or else why the analysis fails. -/
def resourceNames (outcome : Except AnalysisFailure AnalysisResult) :
    Except AnalysisFailure (List String) :=
  outcome.map fun result => result.resources.map ResourceDescriptor.name

theorem exists_builds_of_analysis? {spec : Value} {names : Except AnalysisFailure (List String)}
    (h : (analysis? spec).map resourceNames = some names) :
    ∃ document, Builds none spec document ∧ resourceNames (document.analyse {}) = names := by
  unfold analysis? at h
  cases hexpand : expand spec with
  | error => simp [hexpand, Except.toOption] at h
  | ok expanded =>
      cases hbuild : Document.ofValue none expanded with
      | error => simp [hexpand, hbuild, Except.toOption] at h
      | ok document =>
          refine ⟨document, ⟨expanded, hexpand, hbuild⟩, ?_⟩
          simpa [hexpand, hbuild, Except.toOption] using h

/-- The library has one resource. -/
theorem analysis?_sorted : (analysis? sorted).map resourceNames = some (.ok ["books_v1"]) := by
  decide +kernel

/-- The message writes out the definitions in their order. -/
theorem analysis?_regional :
    (analysis? (regional [(.text "A", map []), (.text "B", map [])])).map resourceNames =
      some (.error (.error (.emptyRegions "region" "x-terraform-resource-regions-region"
        "\x7b'A': \x7b\x7d, 'B': \x7b\x7d\x7d"))) ∧
    (analysis? (regional [(.text "B", map []), (.text "A", map [])])).map resourceNames =
      some (.error (.error (.emptyRegions "region" "x-terraform-resource-regions-region"
        "\x7b'B': \x7b\x7d, 'A': \x7b\x7d\x7d"))) := by
  decide +kernel

/-- The library is built in both orders, and the same resource is found. -/
theorem library_free_of_order : Aligned .unread sorted reversed ∧
    ∃ document document', Builds none sorted document ∧ Builds none reversed document' ∧
      document.analyse {} = document'.analyse {} ∧
        resourceNames (document'.analyse {}) = .ok ["books_v1"] := by
  obtain ⟨hiff, hsame, -⟩ := analysis_free_of_order library_aligned.unread none {}
  obtain ⟨document, hdocument, hnames⟩ := exists_builds_of_analysis? analysis?_sorted
  obtain ⟨document', hdocument'⟩ := hiff.mp ⟨document, hdocument⟩
  have hanalysis := hsame library_aligned library_faithful document document' hdocument hdocument'
  exact ⟨library_aligned.unread, document, document', hdocument, hdocument', hanalysis,
    hanalysis ▸ hnames⟩

/-- **The order can be seen.**  A document whose regions are listed by a reference to its
definitions fails with a message that writes them out in their order. -/
theorem regional_order_seen : ¬ ∀ definitions definitions' : List (Scalar × Value),
    definitions.Perm definitions' → ∀ document document',
      Builds none (regional definitions) document → Builds none (regional definitions') document' →
        document.analyse {} = document'.analyse {} := by
  intro hall
  obtain ⟨hfirst, hsecond⟩ := analysis?_regional
  obtain ⟨document, hdocument, hanalysis⟩ := exists_builds_of_analysis? hfirst
  obtain ⟨document', hdocument', hanalysis'⟩ := exists_builds_of_analysis? hsecond
  have hsame := hall _ _ (.swap ..) document document' hdocument hdocument'
  rw [← hsame, hanalysis] at hanalysis'
  simp at hanalysis'

end Sample

end ResourceGraph
