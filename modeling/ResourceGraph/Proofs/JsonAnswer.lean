import ResourceGraph.Proofs.ExitCode
import ResourceGraph.Proofs.JsonReading

/-!
# Answers in JSON

Every command comes to its output in its own way, but what it is to show can be told for all of them
(`Command.AsksFor`).  A command answers with these data (`Command.exists_asksFor`) unless it is
mute: with no diagnostics to list it leaves a remark on the standard error and prints nothing at
all (`Command.IsMute`).

So a run in JSON that succeeds prints one value, and where the value is a listing it is read back
from the output (`Run.json_answer_iff`).  Listings are read back because their tables are
rectangular (`Command.AsksFor.isRectangular`): a row has a cell for each of the headers, and the
headers are different keys.

Being mute is an exception to this, not a case of it: other listings without rows are printed as
empty lists (`Sample.exists_mute`).
-/

namespace ResourceGraph

/-! ## What is asked for -/

/-- The value that data is. -/
def Data.toValue : Data → Value
  | .table rows => rows.toValue
  | .value content => content

theorem Data.print_json (data : Data) : data.print .json = Json.print data.toValue ++ "\n" := by
  cases data <;> rfl

/-- The data that a command is to show of a document. -/
inductive Command.AsksFor (document : Document) (selection : Selection) : Command → Data → Prop
  | paths : AsksFor document selection .paths (.table (pathTable document))
  | resources {findings : Findings} (h : document.resources selection = .ok findings) :
      AsksFor document selection .resources (.table (resourceTable findings.resources))
  | dataSources : AsksFor document selection .dataSources
      (.table (dataSourceTable (document.dataSources selection).dataSources))
  | security {definitions : List SecurityDefinition} {required : List GlobalScheme}
      (h : document.authentication = .ok (definitions, required)) :
      AsksFor document selection .security (.table (securityTable definitions required))
  | diagnostics {findings : Findings} (h : document.resources selection = .ok findings) :
      AsksFor document selection .diagnostics (.table (diagnosticTable
        (findings.diagnostics ++ (document.dataSources selection).diagnostics)))
  | analyse {result : AnalysisResult} (h : document.analyse selection = .ok result) :
      AsksFor document selection .analyse (.value result.toValue)

namespace Command

variable {command : Command} {document : Document} {selection : Selection} {answer : Answer}
  {data : Data}

/-- There are no diagnostics to list, which is answered by a remark alone. -/
def IsMute (command : Command) (data : Data) : Prop :=
  command = .diagnostics ∧ data.toValue = .list []

/-- A command that is not mute answers with the data it is to show. -/
theorem exists_asksFor (h : command.answer document selection = .ok answer) :
    ∃ data, command.AsksFor document selection data ∧
      (¬ command.IsMute data ∧ answer.data = some data ∨
        command.IsMute data ∧ answer.data = none) := by
  cases command with
  | paths =>
      cases h
      exact ⟨_, .paths, .inl ⟨fun hmute => (by cases hmute.1), rfl⟩⟩
  | resources =>
      obtain ⟨findings, hfindings, hanswer⟩ := bind_eq_ok.mp h
      cases hanswer
      exact ⟨_, .resources (mapError_eq_ok.mp hfindings),
        .inl ⟨fun hmute => (by cases hmute.1), rfl⟩⟩
  | dataSources =>
      cases h
      exact ⟨_, .dataSources, .inl ⟨fun hmute => (by cases hmute.1), rfl⟩⟩
  | security =>
      obtain ⟨⟨definitions, required⟩, hfound, hanswer⟩ := bind_eq_ok.mp h
      cases hanswer
      exact ⟨_, .security (mapError_eq_ok.mp hfound),
        .inl ⟨fun hmute => (by cases hmute.1), rfl⟩⟩
  | diagnostics =>
      obtain ⟨findings, hfindings, hanswer⟩ := bind_eq_ok.mp h
      cases hanswer
      refine ⟨_, .diagnostics (mapError_eq_ok.mp hfindings), ?_⟩
      -- the only command that asks whether there are rows before it shows its table
      unfold diagnosticAnswer
      cases findings.diagnostics ++ (document.dataSources selection).diagnostics with
      | nil => exact .inr ⟨⟨rfl, rfl⟩, rfl⟩
      | cons first rest => exact .inl ⟨fun hmute => (by cases hmute.2), rfl⟩
  | analyse =>
      obtain ⟨result, hresult, hanswer⟩ := bind_eq_ok.mp h
      cases hanswer
      exact ⟨_, .analyse hresult, .inl ⟨fun hmute => (by cases hmute.1), rfl⟩⟩

end Command

/-! ## Tables as values -/

theorem Json.print_list_nil : Json.print (.list []) = "[]" := by
  rw [print, printAt, printItems, printParts, if_pos List.isEmpty_nil]
  rfl

theorem Json.print_append_ne_empty (value : Value) : Json.print value ++ "\n" ≠ "" := by
  intro h
  have hcharacters := congrArg String.toList h
  rw [String.toList_append] at hcharacters
  exact List.append_ne_nil_of_right_ne_nil _ (List.cons_ne_nil '\n' []) hcharacters

namespace TextTable

/-- The headers are different and every row has a cell for each of them. -/
structure IsRectangular (table : TextTable) : Prop where
  nonempty : table.headers ≠ []
  distinct : table.headers.Nodup
  rows : ∀ row ∈ table.rows, row.length = table.headers.length

/-- The entries of a row under headers. -/
def entries (headers row : List String) : List (Scalar × Value) :=
  (headers.zip row).map fun entry => (.text entry.1, .text entry.2)

/-- Different headers with a cell for each are different keys. -/
theorem nodup_keys_entries {headers row : List String} (hdistinct : headers.Nodup)
    (hlength : row.length = headers.length) : (Entries.keys (entries headers row)).Nodup := by
  have hkeys : Entries.keys (entries headers row) = headers.map Key.text := by
    rw [entries, Entries.keys, List.map_map]
    conv_rhs => rw [← List.map_fst_zip hlength.ge, List.map_map]
    rfl
  rw [hkeys]
  exact hdistinct.map fun _ _ => Key.text.inj

/-- Under different headers a row keeps its cells. -/
theorem entryOf_eq {headers row : List String} (hdistinct : headers.Nodup)
    (hlength : row.length = headers.length) :
    entryOf headers row = .map (entries headers row) :=
  congrArg Value.map (Entries.ofList_eq_self (nodup_keys_entries hdistinct hlength))

theorem IsRectangular.isTextual {table : TextTable} (h : table.IsRectangular) :
    table.toValue.IsTextual := by
  refine .list (List.forall_mem_map.mpr fun row hrow => ?_)
  have hlength := h.rows row hrow
  rw [entryOf_eq h.distinct hlength]
  exact .map (List.forall_mem_map.mpr fun entry _ => ⟨entry.1, rfl⟩)
    (nodup_keys_entries h.distinct hlength)
    (List.forall_mem_map.mpr fun entry _ => .text entry.2)

end TextTable

theorem Command.isRectangular_countedTable (subject : String) {headers : List String}
    {rows : List (List String)} (hheaders : headers ≠ [] ∧ headers.Nodup)
    (hrows : ∀ row ∈ rows, row.length = headers.length) :
    (countedTable subject headers rows).IsRectangular :=
  ⟨hheaders.1, hheaders.2, hrows⟩

/-- The tables of the commands are rectangular. -/
theorem Command.AsksFor.isRectangular {command : Command} {document : Document}
    {selection : Selection} {table : TextTable}
    (h : command.AsksFor document selection (.table table)) : table.IsRectangular := by
  cases h <;>
    exact isRectangular_countedTable _ (by decide) (List.forall_mem_map.mpr fun _ _ => rfl)

namespace Run

variable {surroundings : Surroundings} {arguments : List String} {options : Options}
  {command : Command} {source : String} {settings : Settings}

/-- The format in which a run prints. -/
def formatOf (surroundings : Surroundings) (options : Options) (settings : Settings) :
    OutputFormat :=
  settings.outputFormat.format surroundings.interactive
    (!options.has .noColour && Printer.allowsColour surroundings.environment)

/-- A run that succeeds has loaded a document that its command has an answer for. -/
theorem Settled.exists_answer (hsettled : Settled surroundings options settings)
    (harguments : Invocation.ofArguments arguments = .command options command (.source source))
    (hsuccess : (ofArguments surroundings arguments).exitCode = ExitCode.success) :
    ∃ document answer, Document.load surroundings source = .ok document ∧
      command.answer document settings.selection = .ok answer := by
  obtain ⟨printer, shows, hrun⟩ := hsettled.ofArguments_eq harguments
  rw [hrun, ofSource] at hsuccess
  cases hload : Document.load surroundings source with
  | error failure =>
      rw [hload] at hsuccess
      cases failure <;> cases hsuccess
  | ok document =>
      simp only [hload, ofDocument] at hsuccess
      cases hanswer : command.answer document settings.selection with
      | error failure =>
          simp only [hanswer] at hsuccess
          cases failure <;> cases hsuccess
      | ok answer => exact ⟨document, answer, rfl, hanswer⟩

/-- The output is what the answer looks like in the format of the run. -/
theorem Settled.output_eq (hsettled : Settled surroundings options settings)
    (harguments : Invocation.ofArguments arguments = .command options command (.source source))
    {document : Document} (hload : Document.load surroundings source = .ok document)
    {answer : Answer} (hanswer : command.answer document settings.selection = .ok answer) :
    (ofArguments surroundings arguments).output =
      (answer.data.map fun data =>
        data.print (formatOf surroundings options settings)).getD "" := by
  obtain ⟨columns, hscreen⟩ := hsettled.screen
  rw [ofArguments, harguments]
  simp only [hscreen, ofCommand, hsettled.settings, ofSource, hload, ofDocument, hanswer]
  rfl

/-- **A run in JSON prints one value unless its command is mute.**  A listing is read back from
what is printed, and one without rows is an empty list. -/
theorem json_answer_iff
    (harguments : Invocation.ofArguments arguments = .command options command (.source source))
    (hsettled : Settled surroundings options settings)
    (hjson : formatOf surroundings options settings = .json)
    (hsuccess : (ofArguments surroundings arguments).exitCode = ExitCode.success) :
    ∃ document data, Document.load surroundings source = .ok document ∧
      command.AsksFor document settings.selection data ∧
      ((∃ value, (ofArguments surroundings arguments).output = Json.print value ++ "\n") ↔
        ¬ command.IsMute data) ∧
      (¬ command.IsMute data →
        (ofArguments surroundings arguments).output = Json.print data.toValue ++ "\n" ∧
        (command ≠ .analyse →
          Json.read (ofArguments surroundings arguments).output = .ok data.toValue) ∧
        (data.toValue = .list [] → (ofArguments surroundings arguments).output = "[]\n")) := by
  obtain ⟨document, answer, hload, hanswer⟩ := hsettled.exists_answer harguments hsuccess
  have houtput := hsettled.output_eq harguments hload hanswer
  obtain ⟨data, hasks, ⟨hmute, hdata⟩ | ⟨hmute, hdata⟩⟩ := Command.exists_asksFor hanswer
  · have hshown : (ofArguments surroundings arguments).output =
        Json.print data.toValue ++ "\n" := by
      rw [houtput, hdata, hjson]
      exact data.print_json
    refine ⟨document, data, hload, hasks, ⟨fun _ => hmute, fun _ => ⟨_, hshown⟩⟩, fun _ =>
      ⟨hshown, fun htable => ?_, fun hempty => ?_⟩⟩
    · rw [hshown]
      -- only the analysis as a whole is not a table
      cases data with
      | table table => exact Json.read_print hasks.isRectangular.isTextual
      | value content =>
          cases hasks
          exact absurd rfl htable
    · rw [hshown, hempty, Json.print_list_nil]
      rfl
  · have hsilent : (ofArguments surroundings arguments).output = "" := by
      rw [houtput, hdata]
      rfl
    refine ⟨document, data, hload, hasks, ⟨fun ⟨value, hvalue⟩ => ?_, fun h => absurd hmute h⟩,
      fun h => absurd hmute h⟩
    rw [hsilent] at hvalue
    exact absurd hvalue.symm (Json.print_append_ne_empty value)

end Run

/-! ## Sample runs -/

namespace Sample

/-- The settings of a run that is told its format and nothing else. -/
def settingsFor (format : OutputFormat) : Settings :=
  { logLevel := .warning, outputFormat := .fixed format, selection := {} }

theorem seated_settled (input : String) {options : Options} {format : OutputFormat}
    (hoptions : options.overrides = { outputFormat := some format.name }) :
    Run.Settled (seated "80" input) options (settingsFor format) := by
  have hscreen : Screen.columns [("COLUMNS", "80")] = .ok 80 := by decide +kernel
  have hproject : Settings.readProject (seated "80" input) (FilePath.ofText "/work") = .ok none :=
    rfl
  have hvalues : Settings.ofValues { outputFormat := some (.text format.name) } =
      .ok (settingsFor format) := by
    cases format <;> rfl
  refine ⟨⟨80, hscreen⟩, bind_eq_ok.mpr ⟨none, hproject, mapError_eq_ok.mpr ?_⟩⟩
  rw [hoptions]
  exact hvalues

/-- The resources of a bare document are listed, and the list is empty. -/
theorem bare_json_answer :
    Invocation.ofArguments ["--json", "resources", "-"] =
      .command { flags := [.json] } .resources (.source "-") ∧
    Run.Settled (seated "80" bare) { flags := [.json] } (settingsFor .json) ∧
    Run.formatOf (seated "80" bare) { flags := [.json] } (settingsFor .json) = .json ∧
    (Run.ofArguments (seated "80" bare) ["--json", "resources", "-"]).exitCode =
      ExitCode.success ∧
    ∃ value, (Run.ofArguments (seated "80" bare) ["--json", "resources", "-"]).output =
      Json.print value ++ "\n" := by
  have harguments : Invocation.ofArguments ["--json", "resources", "-"] =
      .command { flags := [.json] } .resources (.source "-") := by rfl
  have hsettled : Run.Settled (seated "80" bare) { flags := [.json] } (settingsFor .json) :=
    seated_settled bare rfl
  have hsuccess : (Run.ofArguments (seated "80" bare) ["--json", "resources", "-"]).exitCode =
      ExitCode.success := by
    decide +kernel
  obtain ⟨document, data, -, -, hiff, -⟩ := Run.json_answer_iff harguments hsettled rfl hsuccess
  exact ⟨harguments, hsettled, rfl, hsuccess,
    hiff.mpr fun hmute => Command.noConfusion hmute.1⟩

/-- **There is a run in JSON that prints no JSON.**  A bare document has no diagnostics, and instead
of an empty list nothing is printed. -/
theorem exists_mute : ¬ ∀ (surroundings : Surroundings) (arguments : List String)
    (options : Options) (command : Command) (source : String) (settings : Settings),
    Invocation.ofArguments arguments = .command options command (.source source) →
      Run.Settled surroundings options settings →
      Run.formatOf surroundings options settings = .json →
      (Run.ofArguments surroundings arguments).exitCode = ExitCode.success →
      ∃ value, (Run.ofArguments surroundings arguments).output = Json.print value ++ "\n" := by
  intro h
  have harguments : Invocation.ofArguments ["--json", "diagnostics", "-"] =
      .command { flags := [.json] } .diagnostics (.source "-") := by rfl
  have hsuccess : (Run.ofArguments (seated "80" bare) ["--json", "diagnostics", "-"]).exitCode =
      ExitCode.success := by
    decide +kernel
  have hempty : (Run.ofArguments (seated "80" bare) ["--json", "diagnostics", "-"]).output =
      "" := by
    decide +kernel
  obtain ⟨value, hvalue⟩ := h _ _ _ _ _ (settingsFor .json) harguments (seated_settled bare rfl) rfl
    hsuccess
  exact Json.print_append_ne_empty value (hvalue.symm.trans hempty)

end Sample

end ResourceGraph
