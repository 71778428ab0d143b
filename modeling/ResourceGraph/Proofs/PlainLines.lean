import ResourceGraph.Proofs.JsonAnswer
import ResourceGraph.Proofs.Lists

/-!
# Plain lines

A table is printed as plain lines with tabs between the cells of a row.  The lines are read the way
they are meant to be read: a text falls into lines at line feeds, and a line into cells at tabs
(`PlainText.rows`).

A tab or a line feed inside a cell is printed like one that separates cells or rows.  So the rows
are read back exactly if no cell has one (`TextTable.rows_lines_iff`): what lies between separators
has none, however the text came about (`PlainText.isUnbroken_of_mem`).

In JSON the same table is read back whatever stands in its cells.  This makes the records of a run
in JSON the measure for the lines of a plain run (`Run.plain_rows_iff`).
-/

namespace ResourceGraph

/-! ## Reading plain lines -/

namespace PlainText

/-- The lines of a text, a line feed ending each of them. -/
def lines (text : String) : List String :=
  (text.toList.splitOn '\n').dropLast.map String.ofList

/-- The cells of a line, with tabs between them. -/
def cells (line : String) : List String := (line.toList.splitOn '\t').map String.ofList

/-- The cells of the lines of a text. -/
def rows (text : String) : List (List String) := (lines text).map cells

/-- A cell has no character that separates cells or lines. -/
def IsUnbroken (cell : String) : Prop := '\t' ∉ cell.toList ∧ '\n' ∉ cell.toList

instance (cell : String) : Decidable (IsUnbroken cell) := inferInstanceAs (Decidable (_ ∧ _))

/-- Cells that are read from a text are unbroken. -/
theorem isUnbroken_of_mem {text cell : String} {row : List String} (hrow : row ∈ rows text)
    (hcell : cell ∈ row) : IsUnbroken cell := by
  obtain ⟨line, hline, rfl⟩ := List.mem_map.mp hrow
  obtain ⟨characters, hcharacters, rfl⟩ := List.mem_map.mp hline
  obtain ⟨piece, hpiece, rfl⟩ := List.mem_map.mp hcell
  rw [IsUnbroken, String.toList_ofList]
  rw [String.toList_ofList] at hpiece
  -- a cell lies between tabs, and its line has no line feed that it could have taken over
  refine ⟨fun htab => (ne_and_mem_of_mem_splitOn hpiece htab).1 rfl, fun hfeed => ?_⟩
  have hmem := (ne_and_mem_of_mem_splitOn hpiece hfeed).2
  exact (ne_and_mem_of_mem_splitOn (List.dropLast_subset _ hcharacters) hmem).1 rfl

theorem not_mem_intercalate {c : Char} {separator : List Char} {parts : List (List Char)}
    (hseparator : c ∉ separator) (hparts : ∀ part ∈ parts, c ∉ part) :
    c ∉ separator.intercalate parts := by
  induction parts with
  | nil => simp
  | cons first rest ih =>
      obtain ⟨hfirst, hrest⟩ := List.forall_mem_cons.mp hparts
      cases rest with
      | nil => rwa [List.intercalate_singleton]
      | cons second rest =>
          rw [List.intercalate_cons_cons, List.mem_append, List.mem_append, not_or, not_or]
          exact ⟨⟨hfirst, hseparator⟩, ih hrest⟩

/-- Unbroken cells with tabs between them are read back. -/
theorem cells_intercalate {row : List String} (hrow : row ≠ [])
    (hcells : ∀ cell ∈ row, IsUnbroken cell) : cells ("\t".intercalate row) = row := by
  have htabs : ∀ characters ∈ row.map String.toList, '\t' ∉ characters :=
    List.forall_mem_map.mpr fun cell hcell => (hcells cell hcell).1
  have htab : "\t".toList = ['\t'] := rfl
  rw [cells, String.toList_intercalate, htab,
    List.splitOn_intercalate _ htabs (by simpa using hrow), List.map_map]
  simp

/-- Lines that each end with a line feed are read back. -/
theorem lines_join {texts : List String} (htexts : ∀ text ∈ texts, '\n' ∉ text.toList) :
    lines (String.join (texts.map (· ++ "\n"))) = texts := by
  have hsplit : (String.join (texts.map (· ++ "\n"))).toList.splitOn '\n' =
      texts.map String.toList ++ [[]] := by
    induction texts with
    | nil => rfl
    | cons first rest ih =>
        obtain ⟨hfirst, hrest⟩ := List.forall_mem_cons.mp htexts
        have hfeed : "\n".toList = ['\n'] := rfl
        rw [List.map_cons, String.join_cons, String.toList_append, String.toList_append, hfeed,
          List.append_assoc, List.singleton_append,
          List.splitOn_append_cons_self_of_not_mem hfirst, ih hrest]
        rfl
  rw [lines, hsplit, List.dropLast_concat, List.map_map]
  simp

end PlainText

/-! ## Tables -/

namespace TextTable

variable {table : TextTable}

theorem lines_eq (table : TextTable) :
    table.lines =
      String.join (((table.headers :: table.rows).map "\t".intercalate).map (· ++ "\n")) := by
  rw [List.map_map]
  rfl

/-- **The rows of plain lines are read back exactly if no cell has a separator.** -/
theorem rows_lines_iff (h : table.IsRectangular) :
    PlainText.rows table.lines = table.headers :: table.rows ↔
      ∀ row ∈ table.headers :: table.rows, ∀ cell ∈ row, PlainText.IsUnbroken cell := by
  constructor
  -- what is read is unbroken, so it does not matter how a broken cell comes out
  · intro hrows row hrow cell hcell
    rw [← hrows] at hrow
    exact PlainText.isUnbroken_of_mem hrow hcell
  · intro hunbroken
    have hnonempty : ∀ row ∈ table.headers :: table.rows, row ≠ [] := by
      refine List.forall_mem_cons.mpr ⟨h.nonempty, fun row hrow hempty => h.nonempty ?_⟩
      rw [← List.length_eq_zero_iff, ← h.rows row hrow, hempty, List.length_nil]
    have hfeeds : ∀ text ∈ (table.headers :: table.rows).map "\t".intercalate,
        '\n' ∉ text.toList := by
      refine List.forall_mem_map.mpr fun row hrow => ?_
      rw [String.toList_intercalate]
      exact PlainText.not_mem_intercalate (by decide)
        (List.forall_mem_map.mpr fun cell hcell => (hunbroken row hrow cell hcell).2)
    rw [PlainText.rows, lines_eq, PlainText.lines_join hfeeds, List.map_map]
    conv_rhs => rw [← List.map_id (table.headers :: table.rows)]
    exact List.map_congr_left fun row hrow =>
      PlainText.cells_intercalate (hnonempty row hrow) (hunbroken row hrow)

end TextTable

/-! ## Records -/

namespace Value

/-- The cells of a record, one for each of its keys. -/
def recordCells : Value → List String
  | .map entries => entries.filterMap fun entry => entry.2.asText?
  | _ => []

/-- The cells of records. -/
def recordRows : Value → List (List String)
  | .list records => records.map recordCells
  | _ => []

end Value

/-- The records of a table have the cells of its rows. -/
theorem TextTable.IsRectangular.recordRows_eq {table : TextTable} (h : table.IsRectangular) :
    table.toValue.recordRows = table.rows := by
  have hcells : ∀ row ∈ table.rows, (entryOf table.headers row).recordCells = row := by
    intro row hrow
    have hlength := h.rows row hrow
    rw [entryOf_eq h.distinct hlength, Value.recordCells, entries, List.filterMap_map]
    have htexts : ((fun entry : Scalar × Value => entry.2.asText?) ∘
        fun entry : String × String => (Scalar.text entry.1, Value.text entry.2)) =
          some ∘ Prod.snd := rfl
    rw [htexts, List.filterMap_eq_map, List.map_snd_zip hlength.le]
  rw [toValue, Value.recordRows, List.map_map]
  conv_rhs => rw [← List.map_id table.rows]
  exact List.map_congr_left hcells

theorem Command.isUnbroken_countedTable (subject : String) {headers : List String}
    (rows : List (List String)) (hheaders : ∀ header ∈ headers, PlainText.IsUnbroken header) :
    ∀ header ∈ (countedTable subject headers rows).headers, PlainText.IsUnbroken header :=
  hheaders

/-- The headers of the commands have no separators. -/
theorem Command.AsksFor.isUnbroken_headers {command : Command} {document : Document}
    {selection : Selection} {table : TextTable}
    (h : command.AsksFor document selection (.table table)) :
    ∀ header ∈ table.headers, PlainText.IsUnbroken header := by
  cases h <;> exact isUnbroken_countedTable _ _ (by decide +kernel)

namespace Run

variable {surroundings : Surroundings} {arguments arguments' : List String}
  {options options' : Options} {command : Command} {source : String}
  {settings settings' : Settings}

/-- **Plain lines carry the records in JSON exactly if no cell has a separator.**  Two runs put the
same question, one in plain lines and one in JSON; the rows of the first are the records of the
second, under the headers, if and only if there is no tab and no line feed in a cell and the command
is not mute. -/
theorem plain_rows_iff
    (harguments : Invocation.ofArguments arguments = .command options command (.source source))
    (harguments' : Invocation.ofArguments arguments' = .command options' command (.source source))
    (htable : command ≠ .analyse) (hsettled : Settled surroundings options settings)
    (hsettled' : Settled surroundings options' settings')
    (hplain : formatOf surroundings options settings = .plain)
    (hjson : formatOf surroundings options' settings' = .json)
    (hselection : settings'.selection = settings.selection)
    (hsuccess : (ofArguments surroundings arguments).exitCode = ExitCode.success) :
    ∃ document table, Document.load surroundings source = .ok document ∧
      command.AsksFor document settings.selection (.table table) ∧
      ((∃ records, Json.read (ofArguments surroundings arguments').output = .ok records ∧
          PlainText.rows (ofArguments surroundings arguments).output =
            table.headers :: records.recordRows) ↔
        ¬ command.IsMute (.table table) ∧
          ∀ row ∈ table.rows, ∀ cell ∈ row, PlainText.IsUnbroken cell) := by
  obtain ⟨document, answer, hload, hanswer⟩ := hsettled.exists_answer harguments hsuccess
  have houtput := hsettled.output_eq harguments hload hanswer
  have houtput' := hsettled'.output_eq harguments' hload (hselection ▸ hanswer)
  obtain ⟨data, hasks, hdata⟩ := Command.exists_asksFor hanswer
  cases data with
  | value content => cases hasks; exact absurd rfl htable
  | table table =>
      refine ⟨document, table, hload, hasks, ?_⟩
      have hrectangular := hasks.isRectangular
      rcases hdata with ⟨hmute, hdata⟩ | ⟨hmute, hdata⟩
      · have hread : Json.read (ofArguments surroundings arguments').output =
            .ok table.toValue := by
          rw [houtput', hdata, hjson]
          exact Json.read_print hrectangular.isTextual
        have hlines : (ofArguments surroundings arguments).output = table.lines := by
          rw [houtput, hdata, hplain]
          rfl
        constructor
        · rintro ⟨records, hrecords, hrows⟩
          cases hread.symm.trans hrecords
          rw [hrectangular.recordRows_eq, hlines, TextTable.rows_lines_iff hrectangular] at hrows
          exact ⟨hmute, fun row hrow => hrows row (List.mem_cons_of_mem _ hrow)⟩
        · rintro ⟨-, hcells⟩
          refine ⟨table.toValue, hread, ?_⟩
          rw [hrectangular.recordRows_eq, hlines, TextTable.rows_lines_iff hrectangular]
          exact List.forall_mem_cons.mpr ⟨hasks.isUnbroken_headers, hcells⟩
      -- a mute command does not even print the headers
      · have hempty : (ofArguments surroundings arguments).output = "" := by
          rw [houtput, hdata]
          rfl
        constructor
        · rintro ⟨records, -, hrows⟩
          rw [hempty] at hrows
          cases hrows
        · rintro ⟨hloud, -⟩
          exact absurd hmute hloud

end Run

/-! ## Sample runs -/

namespace Sample

/-- A document that declares a path. -/
def declaring (path : String) : String :=
  "\x7b\"swagger\": \"2.0\", \"paths\": \x7b\"" ++ path ++ "\": \x7b\x7d\x7d\x7d"

/-- A path without separators is listed alike in plain lines and in JSON. -/
theorem declaring_plain_rows :
    Invocation.ofArguments ["--plain", "paths", "-"] =
      .command { flags := [.plain] } .paths (.source "-") ∧
    Invocation.ofArguments ["--json", "paths", "-"] =
      .command { flags := [.json] } .paths (.source "-") ∧
    (Run.ofArguments (seated "80" (declaring "/a")) ["--plain", "paths", "-"]).exitCode =
      ExitCode.success ∧
    ∃ headers records,
      Json.read (Run.ofArguments (seated "80" (declaring "/a")) ["--json", "paths", "-"]).output =
        .ok records ∧
      PlainText.rows
        (Run.ofArguments (seated "80" (declaring "/a")) ["--plain", "paths", "-"]).output =
          headers :: records.recordRows := by
  have harguments : Invocation.ofArguments ["--plain", "paths", "-"] =
      .command { flags := [.plain] } .paths (.source "-") := by rfl
  have harguments' : Invocation.ofArguments ["--json", "paths", "-"] =
      .command { flags := [.json] } .paths (.source "-") := by rfl
  have hsuccess : (Run.ofArguments (seated "80" (declaring "/a"))
      ["--plain", "paths", "-"]).exitCode = ExitCode.success := by
    decide +kernel
  obtain ⟨document, table, hload, hasks, hiff⟩ := Run.plain_rows_iff harguments harguments'
    (by decide) (seated_settled (declaring "/a") rfl) (seated_settled (declaring "/a") rfl) rfl rfl
    rfl hsuccess
  have hunbroken : (Document.load (seated "80" (declaring "/a")) "-").toOption.map
      (fun document => decide (∀ row ∈ (Command.pathTable document).rows, ∀ cell ∈ row,
        PlainText.IsUnbroken cell)) = some true := by
    decide +kernel
  obtain ⟨document', hload', hcells⟩ := exists_of_toOption_map_eq_some hunbroken
  cases hload.symm.trans hload'
  cases hasks
  obtain ⟨records, hread, hrows⟩ :=
    hiff.mpr ⟨fun hmute => Command.noConfusion hmute.1, of_decide_eq_true hcells⟩
  exact ⟨harguments, harguments', hsuccess, _, records, hread, hrows⟩

/-- **A tab in a path shifts the cells after it.**  The path is read back from JSON and not from
plain lines, where it takes two cells. -/
theorem exists_shifted : ¬ ∀ (surroundings : Surroundings) (arguments arguments' : List String)
    (options options' : Options) (command : Command) (source : String)
    (settings settings' : Settings),
    Invocation.ofArguments arguments = .command options command (.source source) →
      Invocation.ofArguments arguments' = .command options' command (.source source) →
      command ≠ .analyse → Run.Settled surroundings options settings →
      Run.Settled surroundings options' settings' →
      Run.formatOf surroundings options settings = .plain →
      Run.formatOf surroundings options' settings' = .json →
      settings'.selection = settings.selection →
      (Run.ofArguments surroundings arguments).exitCode = ExitCode.success →
      ∃ headers records,
        Json.read (Run.ofArguments surroundings arguments').output = .ok records ∧
        PlainText.rows (Run.ofArguments surroundings arguments).output =
          headers :: records.recordRows := by
  intro h
  have hsuccess : (Run.ofArguments (seated "80" (declaring "/a\\tb"))
      ["--plain", "paths", "-"]).exitCode = ExitCode.success := by
    decide +kernel
  have hrows : PlainText.rows (Run.ofArguments (seated "80" (declaring "/a\\tb"))
      ["--plain", "paths", "-"]).output =
        [["Path", "Kind", "Operations"], ["/a", "b", "collection", ""]] := by
    decide +kernel
  have hrecords : (Json.read (Run.ofArguments (seated "80" (declaring "/a\\tb"))
      ["--json", "paths", "-"]).output).toOption.map Value.recordRows =
        some [["/a\tb", "collection", ""]] := by
    decide +kernel
  obtain ⟨headers, records, hread, hsame⟩ := h (seated "80" (declaring "/a\\tb"))
    ["--plain", "paths", "-"] ["--json", "paths", "-"] { flags := [.plain] } { flags := [.json] }
    .paths "-" (settingsFor .plain) (settingsFor .json) rfl rfl (by decide) (seated_settled _ rfl)
    (seated_settled _ rfl) rfl rfl rfl hsuccess
  rw [hread] at hrecords
  rw [hrows, Option.some.inj hrecords] at hsame
  exact absurd (List.cons.inj hsame).2 (by decide)

end Sample

end ResourceGraph
