import ResourceGraph.Surroundings

/-!
# The data directory

Where the program keeps its own files, which are the logs of crashes.  Linux and the systems of the
BSD family have a common directory for the data of all programs; elsewhere each program has a hidden
directory of its own.
-/

namespace ResourceGraph

namespace Surroundings

/-- The home directory when the environment names none. -/
def fallbackHome : String := "/root"

/-- The text that names the home directory, without the slashes at its end. -/
def homeText (surroundings : Surroundings) : String :=
  let named := ((surroundings.environment.get? "HOME").getD fallbackHome).toList
  let trimmed := (named.reverse.dropWhile (· == '/')).reverse
  if trimmed.isEmpty then "/" else String.ofList trimmed

/-- The home directory. -/
def home (surroundings : Surroundings) : FilePath := FilePath.ofText surroundings.homeText

/-- Whether the home directory is unknown: its name would stand for itself. -/
def isHomeUnknown (surroundings : Surroundings) : Bool :=
  surroundings.homeText.toList.head? == some '~'

/-- Whether programs share a directory for their data. -/
def sharesDataDirectory (surroundings : Surroundings) : Bool :=
  surroundings.system == "Linux" || "BSD".toList.isSuffixOf surroundings.system.toList

/-- The directory that programs share for their data. -/
def sharedDirectory? (surroundings : Surroundings) : Option FilePath :=
  if surroundings.sharesDataDirectory then
    (surroundings.valueOf? "XDG_DATA_HOME").map FilePath.ofText
  else none

/-- The directory for the data of the program. -/
def dataDirectory (surroundings : Surroundings) : FilePath :=
  match surroundings.sharedDirectory? with
  | some shared => shared.entry "specgraph"
  | none =>
    if surroundings.sharesDataDirectory then
      ((surroundings.home.entry ".local").entry "share").entry "specgraph"
    else surroundings.home.entry ".specgraph"

/-- Whether the directory for the data of the program is unknown. -/
def isDataDirectoryUnknown (surroundings : Surroundings) : Bool :=
  surroundings.sharedDirectory?.isNone && surroundings.isHomeUnknown

/-- The file that the log of a crash is written to. -/
def crashLog (surroundings : Surroundings) : FilePath :=
  (surroundings.dataDirectory.entry "logs").entry ("crash-" ++ surroundings.timestamp ++ ".log")

end Surroundings

end ResourceGraph
