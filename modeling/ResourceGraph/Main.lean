import ResourceGraph.CommandLine.Run

/-!
# The program

Looks around, makes the run and carries it out.  Everything is decided by the run; here files are
read and texts are written.
-/

namespace ResourceGraph.Program

/-- The environment variables that a run looks at. -/
def variableNames : List String :=
  [Settings.logLevelVariable, Settings.formatVariable, Settings.prefixVariable, "NO_COLOR", "TERM",
    "COLUMNS", "LINES", "XDG_DATA_HOME", "HOME"]

/-- The environment variables that are set. -/
def readVariables : IO (Table String) := do
  let values ← variableNames.mapM fun name => do
    return (← IO.getEnv name).map (name, ·)
  return values.filterMap id

/-- The rest of a stream. -/
partial def readAll (stream : IO.FS.Stream) (before : String) : IO String := do
  let line ← stream.getLine
  if line.isEmpty then return before
  readAll stream (before ++ line)

/-- What a path leads to. -/
def readFile (path : FilePath) : IO FileState := do
  try return .file (← IO.FS.readBinFile path.text)
  catch
    | .invalidArgument .. => return .nameTooLong
    | _ => return .missing

/-- The text that arguments name as the source of a document. -/
def sourceOf (arguments : List String) : Option String :=
  match Invocation.ofArguments arguments with
  | .command _ _ (.source text) => some text
  | _ => none

/-- The surroundings of a run with some arguments: its project file and its source are read. -/
def lookAround (arguments : List String) : IO Surroundings := do
  let workingDirectory := FilePath.ofText (← IO.currentDir).toString
  let source := sourceOf arguments
  let sourcePath := FilePath.ofText (source.getD "")
  let projectPath := workingDirectory.entry Settings.projectFileName
  let project ← readFile projectPath
  let document ← if source.isSome then readFile sourcePath else pure .missing
  let input ← if source == some "-" then readAll (← IO.getStdin) "" else pure ""
  return { workingDirectory
           environment := ← readVariables
           input
           files := fun path =>
             if path == projectPath then project
             else if path == sourcePath then document
             else .missing
           fetch := fun _ => .failed "unreachable"
           system := "Linux"
           interactive := ← (← IO.getStdout).isTty
           timestamp := toString (← IO.monoMsNow) }

/-- A time in milliseconds written in seconds. -/
def secondsText (milliseconds : Nat) : String :=
  let fraction := toString (milliseconds % 1000)
  toString (milliseconds / 1000) ++ "." ++
    String.ofList (List.replicate (3 - fraction.length) '0') ++ fraction

/-- Writes a crash log. -/
def writeCrashLog (path : FilePath) (arguments : List String) : IO Unit := do
  IO.FS.createDirAll path.directory.text
  IO.FS.writeFile path.text ("arguments: " ++ " ".intercalate arguments ++ "\n")

/-- Carries out the run with some arguments. -/
def carryOut (arguments : List String) : IO UInt32 := do
  let surroundings ← lookAround arguments
  let before ← IO.monoMsNow
  let run := Run.ofArguments surroundings arguments
  (← IO.getStdout).putStr run.output
  let after ← IO.monoMsNow
  (← IO.getStderr).putStr (run.errorText (secondsText (after - before)))
  if let some path := run.crashLog then writeCrashLog path arguments
  return run.exitCode.toUInt32

end ResourceGraph.Program

/-- Runs the program with the arguments of the command line. -/
def main (arguments : List String) : IO UInt32 := ResourceGraph.Program.carryOut arguments
