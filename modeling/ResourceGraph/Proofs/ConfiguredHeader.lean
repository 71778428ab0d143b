import ResourceGraph.Backend
import ResourceGraph.Proofs.Grounding
import ResourceGraph.Proofs.RegionNames

/-!
# Headers that callers configure

A header of an operation may be flagged with the name under which callers configure it.  The flagged
headers are listed twice.  The document lists all of them, each pair of a name and a header once,
and an operation lists those of its own.

* `Parameter.Configures` says when a header is flagged, and `Document.DeclaresHeader` that one of
  the operations of a document has such a header.  The occurrences that the document gathers are
  exactly these, whatever path and method they stand under (`mem_headerOccurrences`).
* The list of the document is determined by them: a pair is in it if it occurs, and it is required
  if one of its occurrences is (`mem_headerParameters`).
* A header that an operation lists occurs in the document, so that the two lists agree
  (`Operation.mem_configuredHeaders`).
-/

namespace ResourceGraph

/-! ## Flagged headers -/

/-- A header is configured under a name: the text of its extension without the blank characters
around it, of which something must be left. -/
structure Parameter.Configures (parameter : Parameter) (name : String) : Prop where
  location : parameter.location = .header
  flagged : ∃ written, parameter.extensions.Declares "x-terraform-header" (.text written) ∧
    Text.trim written = name
  ne_empty : name ≠ ""

/-- An operation is declared under one of the paths of a document. -/
def Document.DeclaresOperation (document : Document) (operation : Operation) : Prop :=
  ∃ path item method, document.paths.get? path = some item ∧
    item.operation? method = some operation

/-- One of the operations of a document has a flagged header. -/
def Document.DeclaresHeader (document : Document) (occurrence : HeaderParameter) : Prop :=
  ∃ operation, document.DeclaresOperation operation ∧ ∃ parameter ∈ operation.parameters,
    parameter.Configures occurrence.name ∧ parameter.name = occurrence.header ∧
      parameter.required = occurrence.required

/-- What a header is listed by: the name it is configured under, then the header itself. -/
def HeaderParameter.key (entry : HeaderParameter) : String ×ₗ String :=
  toLex (entry.name, entry.header)

/-- The text of an extension is that of the first one with its name, trimmed, unless nothing is
left. -/
theorem Extensions.text?_eq_some_iff {extensions : Extensions} {extension : Extension}
    {name : String} : extensions.text? extension = some name ↔
      (∃ written, extensions.Declares extension.name (.text written) ∧ Text.trim written = name) ∧
        name ≠ "" := by
  simp only [text?, textNamed?, Option.bind_eq_bind, Option.bind_eq_some_iff, ← lookup?_eq_some_iff]
  constructor
  · rintro ⟨value, hvalue, written, hwritten, htrimmed⟩
    obtain rfl : value = .text written := by
      unfold Value.asText? at hwritten
      split at hwritten
      · cases hwritten
        rfl
      · cases hwritten
    split at htrimmed
    · cases htrimmed
    · next hempty =>
        cases htrimmed
        exact ⟨⟨written, hvalue, rfl⟩, by simpa using hempty⟩
  · rintro ⟨⟨written, hvalue, rfl⟩, hne⟩
    exact ⟨_, hvalue, written, rfl, by simpa using hne⟩

namespace Parameter

variable {parameter : Parameter} {name : String}

theorem configures_iff : parameter.Configures name ↔
    parameter.location = .header ∧ parameter.extensions.text? .header = some name := by
  rw [Extensions.text?_eq_some_iff]
  exact ⟨fun ⟨hlocation, hflagged, hne⟩ => ⟨hlocation, hflagged, hne⟩,
    fun ⟨hlocation, hflagged, hne⟩ => ⟨hlocation, hflagged, hne⟩⟩

theorem exists_configures_iff : (∃ name, parameter.Configures name) ↔
    (parameter.location == .header && (parameter.extensions.text? .header).isSome) = true := by
  simp only [configures_iff, Bool.and_eq_true, beq_iff_eq, Option.isSome_iff_exists,
    exists_and_left]

end Parameter

/-! ## The headers of an operation -/

theorem PathItem.mem_operations {item : PathItem} {entry : Method × Operation} :
    entry ∈ item.operations ↔ item.operation? entry.1 = some entry.2 := by
  obtain ⟨method, operation⟩ := entry
  simp only [operations, List.mem_filterMap, Option.map_eq_some_iff, Prod.mk.injEq]
  constructor
  · rintro ⟨found, -, declared, hdeclared, rfl, rfl⟩
    exact hdeclared
  · intro hoperation
    exact ⟨method, by cases method <;> decide, operation, hoperation, rfl, rfl⟩

/-- An operation lists its flagged headers. -/
theorem Operation.mem_configuredHeaders {operation : Operation} {header : String} :
    header ∈ operation.configuredHeaders ↔
      ∃ parameter ∈ operation.parameters, (∃ name, parameter.Configures name) ∧
        parameter.name = header := by
  simp only [configuredHeaders, mem_sortNames, List.mem_map, List.mem_filter,
    Parameter.exists_configures_iff, and_assoc]

namespace Document

variable {document : Document} {occurrence entry : HeaderParameter}

/-! ## The headers of a document -/

/-- **The occurrences are the flagged headers of all operations.** -/
theorem mem_headerOccurrences :
    occurrence ∈ document.headerOccurrences ↔ document.DeclaresHeader occurrence := by
  have hparameter (parameter : Parameter) : (if parameter.location == .header then
      (parameter.extensions.text? .header).map (HeaderParameter.mk · parameter.name
        parameter.required) else none) = some occurrence ↔
      parameter.Configures occurrence.name ∧ parameter.name = occurrence.header ∧
        parameter.required = occurrence.required := by
    rw [Parameter.configures_iff]
    split
    · next hheader =>
        rw [Option.map_eq_some_iff]
        constructor
        · rintro ⟨name, hname, rfl⟩
          exact ⟨⟨beq_iff_eq.mp hheader, hname⟩, rfl, rfl⟩
        · rintro ⟨⟨-, hname⟩, hsame, hrequired⟩
          exact ⟨_, hname, by rw [hsame, hrequired]⟩
    · next hheader => simp [beq_iff_eq.not.mp hheader]
  simp only [headerOccurrences, List.mem_flatMap, List.mem_filterMap, hparameter, Prod.exists,
    Table.mem_sorted, PathItem.mem_operations]
  constructor
  · rintro ⟨path, item, hitem, method, operation, hoperation, hoccurs⟩
    exact ⟨operation, ⟨path, item, method, hitem, hoperation⟩, hoccurs⟩
  · rintro ⟨operation, ⟨path, item, method, hitem, hoperation⟩, hoccurs⟩
    exact ⟨path, item, hitem, method, operation, hoperation, hoccurs⟩

/-- The keys of the occurrences of a document, each of them once. -/
def headerKeys (document : Document) : List (String × String) :=
  (document.headerOccurrences.map fun occurrence =>
    (occurrence.name, occurrence.header)).eraseDups

theorem mem_headerKeys {name header : String} : (name, header) ∈ document.headerKeys ↔
    ∃ required, document.DeclaresHeader ⟨name, header, required⟩ := by
  simp only [headerKeys, List.mem_eraseDups, List.mem_map, mem_headerOccurrences, Prod.mk.injEq]
  constructor
  · rintro ⟨occurrence, hoccurrence, rfl, rfl⟩
    exact ⟨occurrence.required, hoccurrence⟩
  · rintro ⟨required, hoccurrence⟩
    exact ⟨_, hoccurrence, rfl, rfl⟩

/-- **What the list of a document says**: a header is in it if it occurs, and it is required if one
of its occurrences is. -/
theorem mem_headerParameters : entry ∈ document.headerParameters ↔
    (∃ required, document.DeclaresHeader { entry with required }) ∧
      (entry.required = true ↔ document.DeclaresHeader { entry with required := true }) := by
  have hany (name header : String) : (document.headerOccurrences.any fun occurrence =>
      occurrence.name == name && occurrence.header == header && occurrence.required) = true ↔
      document.DeclaresHeader ⟨name, header, true⟩ := by
    simp only [List.any_eq_true, Bool.and_eq_true, beq_iff_eq, mem_headerOccurrences]
    constructor
    · rintro ⟨⟨_, _, _⟩, hoccurrence, ⟨rfl, rfl⟩, rfl⟩
      exact hoccurrence
    · exact fun hoccurrence => ⟨_, hoccurrence, ⟨rfl, rfl⟩, rfl⟩
  obtain ⟨name, header, required⟩ := entry
  rw [headerParameters, List.mem_map, ← mem_headerKeys, ← hany, ← Bool.eq_iff_iff]
  constructor
  · rintro ⟨key, hkey, hentry⟩
    cases hentry
    exact ⟨List.mem_mergeSort.mp hkey, rfl⟩
  · rintro ⟨hkey, hrequired⟩
    exact ⟨(name, header), List.mem_mergeSort.mpr hkey,
      congrArg (HeaderParameter.mk name header) hrequired.symm⟩

theorem precedes_iff {left right : String × String} :
    precedes left right = true ↔ toLex left ≤ toLex right := by
  simp [precedes, Prod.Lex.toLex_le_toLex]

/-- The headers of a document are listed in strictly increasing order. -/
theorem pairwise_headerParameters (document : Document) :
    (document.headerParameters.map HeaderParameter.key).Pairwise (· < ·) := by
  have hkeys : document.headerParameters.map HeaderParameter.key =
      (document.headerKeys.mergeSort precedes).map toLex := by
    rw [headerParameters, List.map_map]
    rfl
  have hsorted : (document.headerKeys.mergeSort precedes).Pairwise
      fun left right => toLex left ≤ toLex right := by
    refine (List.pairwise_mergeSort (fun first second third => ?_) (fun left right => ?_) _).imp
      precedes_iff.mp
    · simp only [precedes_iff]
      exact le_trans
    · rw [Bool.or_eq_true, precedes_iff, precedes_iff]
      exact le_total _ _
  have hnodup : (document.headerKeys.mergeSort precedes).Nodup :=
    (List.mergeSort_perm _ _).nodup_iff.mpr (nodup_eraseDups _)
  rw [hkeys, List.pairwise_map]
  exact (hsorted.and hnodup).imp fun ⟨hle, hne⟩ =>
    lt_of_le_of_ne hle (mt (congrArg ofLex) hne)

/-- **The headers of a document summarise those of its operations.**  They are listed in strictly
increasing order of the names they are configured under and of the headers.  A pair of both is
listed exactly if some operation has such a header, and it is required exactly if some operation
requires it.  The headers that a declared operation is described with are among them, and each of
them is listed by such an operation. -/
theorem headers_summarised (document : Document) :
    (document.headerParameters.map HeaderParameter.key).Pairwise (· < ·) ∧
    (∀ name header, (∃ required, ⟨name, header, required⟩ ∈ document.headerParameters) ↔
      ∃ required, document.DeclaresHeader ⟨name, header, required⟩) ∧
    (∀ name header required, ⟨name, header, required⟩ ∈ document.headerParameters →
      (required = true ↔ document.DeclaresHeader ⟨name, header, true⟩)) ∧
    (∀ operation, document.DeclaresOperation operation → ∀ method path described,
      operation.descriptor document method path = .ok described →
        ∀ header ∈ described.headerParameters,
          ∃ entry ∈ document.headerParameters, entry.header = header) ∧
    ∀ entry ∈ document.headerParameters, ∃ operation, document.DeclaresOperation operation ∧
      entry.header ∈ operation.configuredHeaders := by
  have hlisted (name header : String) :
      (∃ required, ⟨name, header, required⟩ ∈ document.headerParameters) ↔
        ∃ required, document.DeclaresHeader ⟨name, header, required⟩ := by
    simp only [mem_headerParameters]
    constructor
    · exact fun ⟨_, hoccurs, _⟩ => hoccurs
    · intro hoccurs
      by_cases hrequired : document.DeclaresHeader ⟨name, header, true⟩
      · exact ⟨true, hoccurs, iff_of_true rfl hrequired⟩
      · exact ⟨false, hoccurs, iff_of_false Bool.false_ne_true hrequired⟩
  refine ⟨document.pairwise_headerParameters, hlisted, ?_, ?_, ?_⟩
  · exact fun name header required hentry => (mem_headerParameters.mp hentry).2
  · intro operation hdeclared method path described hdescribed header hheader
    rw [(Operation.descriptor_eq_ok_iff.mp hdescribed).headerParameters,
      Operation.mem_configuredHeaders] at hheader
    obtain ⟨parameter, hparameter, ⟨name, hconfigures⟩, hname⟩ := hheader
    obtain ⟨required, hentry⟩ := (hlisted name header).mpr
      ⟨parameter.required, operation, hdeclared, parameter, hparameter, hconfigures, hname, rfl⟩
    exact ⟨_, hentry, rfl⟩
  · intro entry hentry
    obtain ⟨⟨required, operation, hdeclared, parameter, hparameter, hconfigures, hname, -⟩, -⟩ :=
      mem_headerParameters.mp hentry
    exact ⟨operation, hdeclared,
      Operation.mem_configuredHeaders.mpr ⟨parameter, hparameter, ⟨_, hconfigures⟩, hname⟩⟩

end Document

namespace Sample

/-- A header that is flagged with a text. -/
def flaggedHeader (header flag : String) (required : Bool) : Parameter :=
  { name := header, location := .header, required
    extensions := [("X-Terraform-Header", .text flag)] }

/-- Reading the ferries: the tide may be told. -/
def readFerries : Operation := { parameters := [flaggedHeader "X-Tide" " tide " false] }

/-- Sending a ferry: the tide must be told, the crew under the same name may be, and the cargo is
flagged with blank characters only. -/
def sendFerry : Operation :=
  { parameters := [flaggedHeader "X-Tide" "tide" true, flaggedHeader "X-Crew" "tide" false,
      flaggedHeader "X-Cargo" " " true] }

/-- Ferries with the same header at both operations. -/
def ferries : Document :=
  { paths := [("/v1/ferries", { get := some readFerries, post := some sendFerry })] }

/-- What the ferries flag: the tide twice, once as required, and the crew. -/
theorem headerOccurrences_ferries : ferries.headerOccurrences =
    [⟨"tide", "X-Tide", false⟩, ⟨"tide", "X-Tide", true⟩, ⟨"tide", "X-Crew", false⟩] := by
  decide +kernel

/-- The tide is listed as required, although reading the ferries does not require it. -/
theorem ferries_headers_summarised : ∃ described,
    readFerries.descriptor ferries .get "/v1/ferries" = .ok described ∧
      described.headerParameters = ["X-Tide"] ∧
      (∃ entry ∈ ferries.headerParameters, entry.header = "X-Tide") ∧
      ⟨"tide", "X-Tide", true⟩ ∈ ferries.headerParameters ∧
      ⟨"tide", "X-Crew", false⟩ ∈ ferries.headerParameters := by
  have hrun : (readFerries.descriptor ferries .get "/v1/ferries").toOption.map
      ResourceOperation.headerParameters = some ["X-Tide"] := by
    decide +kernel
  obtain ⟨described, hdescribed, hheaders⟩ := exists_of_toOption_map_eq_some hrun
  have hdeclared : ferries.DeclaresOperation readFerries := ⟨"/v1/ferries", _, .get, rfl, rfl⟩
  have hoccurs (occurrence : HeaderParameter) : ferries.DeclaresHeader occurrence ↔
      occurrence ∈ ferries.headerOccurrences := Document.mem_headerOccurrences.symm
  simp only [headerOccurrences_ferries] at hoccurs
  obtain ⟨-, hlisted, hrequired, hagree, -⟩ := Document.headers_summarised ferries
  obtain ⟨tide, htide⟩ := (hlisted "tide" "X-Tide").mpr ⟨true, (hoccurs _).mpr (by decide)⟩
  obtain ⟨crew, hcrew⟩ := (hlisted "tide" "X-Crew").mpr ⟨false, (hoccurs _).mpr (by decide)⟩
  have htideRequired : tide = true := (hrequired _ _ _ htide).mpr ((hoccurs _).mpr (by decide))
  have hcrewFree : crew = false := Bool.eq_false_iff.mpr fun hset =>
    absurd ((hoccurs _).mp ((hrequired _ _ _ hcrew).mp hset)) (by decide)
  refine ⟨described, hdescribed, hheaders, ?_, htideRequired ▸ htide, hcrewFree ▸ hcrew⟩
  exact hagree readFerries hdeclared .get "/v1/ferries" described hdescribed "X-Tide"
    (by simp [hheaders])

end Sample

end ResourceGraph
