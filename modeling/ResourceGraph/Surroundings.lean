import ResourceGraph.Loading.Reply
import ResourceGraph.Storage.FileTree
import ResourceGraph.Table

/-!
# Surroundings

Everything outside the program that a run may look at.  A run is a function of its surroundings and
its arguments.
-/

namespace ResourceGraph

/-- What a run finds around it. -/
structure Surroundings where
  workingDirectory : FilePath
  /-- The environment variables that are set. -/
  environment : Table String
  /-- The text of the standard input. -/
  input : String
  files : FilePath → FileState
  fetch : String → Reply
  /-- The name of the operating system. -/
  system : String
  /-- Whether the standard output is a terminal. -/
  interactive : Bool
  /-- The date and the time, as they stand in the name of a crash log. -/
  timestamp : String

/-- The value of an environment variable, if it is set and not empty. -/
def Surroundings.valueOf? (surroundings : Surroundings) (name : String) : Option String :=
  (surroundings.environment.get? name).filter fun value => !value.isEmpty

end ResourceGraph
