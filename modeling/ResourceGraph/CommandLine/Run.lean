import ResourceGraph.CommandLine.Arguments
import ResourceGraph.Log.Loading
import ResourceGraph.Output.Printer
import ResourceGraph.Storage.DataDirectory

/-!
# Runs

A run resolves its settings, loads a document, lets a command answer and prints the answer.  The
first of these steps that fails ends the run with an exit code of its own, and then nothing is
printed but the error.  An accident leaves a crash log behind.
-/

namespace ResourceGraph

/-- What a run leaves behind. -/
structure Run where
  exitCode : Nat
  /-- The text on the standard output. -/
  output : String := ""
  /-- What the log tells. -/
  events : List LogEvent := []
  /-- What follows the log on the standard error. -/
  remark : String := ""
  /-- The file with the crash log. -/
  crashLog : Option FilePath := none
  /-- Why nothing could be shown. -/
  blackout : Option Number.IntegerFault := none

namespace ExitCode

/-- All went well. -/
def success : Nat := 0

/-- The settings are faulty, or there was an accident. -/
def failure : Nat := 1

/-- The arguments are faulty. -/
def misuse : Nat := 2

/-- The document cannot be loaded. -/
def unloadable : Nat := 7

/-- The document asserts what it cannot honour. -/
def inconsistent : Nat := 8

end ExitCode

/-- The name and the version of the program. -/
def versionText : String := "specgraph 0.3.0\n"

/-- How to use the program. -/
def usageText : String :=
  "Usage: specgraph [OPTIONS] COMMAND SOURCE\n\n" ++
    "Options: " ++ ", ".intercalate (Flag.all.map Flag.long) ++ ", " ++
      Arguments.longPrefix ++ " TEXT\n" ++
    "Commands: " ++ ", ".intercalate (Command.all.map Command.name) ++ "\n" ++
    "Source: a file path, a URL, or '-' for the standard input\n"

namespace Run

/-- The run that ends with an error. -/
def failed (exitCode : Nat) (printer : Printer) (message : String) (events : List LogEvent) : Run :=
  { exitCode, events, remark := printer.error message }

/-- The run that an accident ends. -/
def crashed (surroundings : Surroundings) (printer : Printer) (events : List LogEvent) : Run :=
  let path := surroundings.crashLog
  { exitCode := ExitCode.failure
    events
    remark := printer.error ("Unexpected error. Debug log: " ++ path.text)
    crashLog := some path }

/-- The run that cannot show anything. -/
def blackedOut (surroundings : Surroundings) (fault : Number.IntegerFault) : Run :=
  { exitCode := ExitCode.failure
    remark := fault.message ++ "\n"
    crashLog := some surroundings.crashLog
    blackout := some fault }

/-- The run that is told how to use the program. -/
def misused : Run := { exitCode := ExitCode.misuse, remark := usageText }

/-- The run that prints an answer. -/
def answered (printer : Printer) (answer : Answer) (events : List LogEvent) : Run :=
  { exitCode := ExitCode.success
    output := (answer.data.map fun data => data.print printer.format).getD ""
    events
    remark := (answer.remark.map printer.info).getD "" }

/-- The run of a command on a document that is loaded. -/
def ofDocument (surroundings : Surroundings) (printer : Printer) (command : Command)
    (document : Document) (selection : Selection) (events : List LogEvent) : Run :=
  match command.answer document selection with
  | .ok answer => answered printer answer events
  | .error (.error reason) => failed ExitCode.inconsistent printer reason.message events
  | .error (.address _) | .error .unwritable => crashed surroundings printer events

/-- The run of a command on a source; `shows` tells which events the log shows. -/
def ofSource (surroundings : Surroundings) (printer : Printer) (shows : LogEvent → Bool)
    (command : Command) (selection : Selection) (source : String) : Run :=
  let loading := (Document.loadEvents surroundings source).filter shows
  match Document.load surroundings source with
  | .ok document =>
    ofDocument surroundings printer command document selection
      (loading ++ (command.events document selection).filter shows)
  | .error (.fault fault) => failed ExitCode.unloadable printer fault.message loading
  | .error (.accident _) => crashed surroundings printer loading

/-- The run of a command with options on a screen with some columns. -/
def ofCommand (surroundings : Surroundings) (columns : Nat) (options : Options) (command : Command)
    (operand : Arguments.Operand) : Run :=
  let standard := Printer.standard surroundings.interactive surroundings.environment columns
  match Settings.resolve surroundings surroundings.workingDirectory options.overrides with
  | .error (.fault fault) => failed ExitCode.failure standard fault.message []
  | .error (.accident _) => crashed surroundings standard []
  | .ok settings =>
    let printer := Printer.ofChoice settings.outputFormat (options.has .noColour)
      (options.has .quiet) surroundings.interactive surroundings.environment columns
    let shows (event : LogEvent) : Bool := settings.logLevel.severity ≤ event.level.severity
    match operand with
    | .misuse => misused
    | .help => { exitCode := ExitCode.success, output := usageText }
    | .source source => ofSource surroundings printer shows command settings.selection source

/-- The run with some arguments. -/
def ofArguments (surroundings : Surroundings) (arguments : List String) : Run :=
  match Invocation.ofArguments arguments with
  | .help => { exitCode := ExitCode.success, output := usageText }
  | .version => { exitCode := ExitCode.success, output := versionText }
  | .misuse => misused
  | .command options command operand =>
    match Screen.columns surroundings.environment with
    | .ok columns => ofCommand surroundings columns options command operand
    | .error fault => blackedOut surroundings fault

/-- The text on the standard error; `elapsed` is the time in seconds that the resources took. -/
def errorText (run : Run) (elapsed : String) : String :=
  String.join (run.events.map fun event => (event.record elapsed).line ++ "\n") ++ run.remark

end Run

end ResourceGraph
