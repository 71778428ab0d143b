/-!
# Levels of the log

A record of the log has a level, and only records of a high enough level are shown.  A level may be
named in any mixture of capital and small letters.
-/

namespace ResourceGraph

/-- How important a record of the log is. -/
inductive LogLevel where
  | debug
  | info
  | warning
  | error
  | critical
deriving DecidableEq, Repr

namespace LogLevel

/-- The name of a level. -/
def name : LogLevel → String
  | debug => "DEBUG"
  | info => "INFO"
  | warning => "WARNING"
  | error => "ERROR"
  | critical => "CRITICAL"

/-- The rank of a level among the levels. -/
def severity : LogLevel → Nat
  | debug => 10
  | info => 20
  | warning => 30
  | error => 40
  | critical => 50

/-- The levels, the least important first. -/
def all : List LogLevel := [debug, info, warning, error, critical]

/-- The characters outside ASCII whose capital form is written with letters from `A` to `Z`. -/
def foreignCapitals : List (Nat × List Char) :=
  [(0xDF, ['S', 'S']), (0x131, ['I']), (0x17F, ['S']), (0xFB00, ['F', 'F']), (0xFB01, ['F', 'I']),
    (0xFB02, ['F', 'L']), (0xFB03, ['F', 'F', 'I']), (0xFB04, ['F', 'F', 'L']),
    (0xFB05, ['S', 'T']), (0xFB06, ['S', 'T'])]

/-- The capital form of a character, as far as it is written with letters from `A` to `Z`. -/
def capital (c : Char) : List Char := (foreignCapitals.lookup c.toNat).getD [c.toUpper]

/-- A text in capital letters. -/
def capitals (text : String) : String := String.ofList (text.toList.flatMap capital)

/-- The level with a name. -/
def ofName? (text : String) : Option LogLevel :=
  all.find? fun level => level.name == capitals text

/-- Further names of severities. -/
def aliases : List (String × Nat) :=
  [("WARN", warning.severity), ("FATAL", critical.severity), ("NOTSET", 0)]

/-- Why no threshold belongs to a name: it is the name of another setting of the log. -/
inductive ThresholdFault where
  /-- The setting is a text. -/
  | text (value : String)
  /-- The setting is a table. -/
  | table
deriving DecidableEq, Repr

/-- The words that explain a fault. -/
def ThresholdFault.message : ThresholdFault → String
  | text value => "Unknown level: '" ++ value ++ "'"
  | table => "Level not an integer or a valid string"

/-- The names of the other settings of the log. -/
def otherSettings : List (String × ThresholdFault) :=
  [("BASIC_FORMAT", .text "%(levelname)s:%(name)s:%(message)s"), ("_STYLES", .table)]

/-- The least severity of the records that are shown when a level is named; a warning is shown when
the name is unknown. -/
def thresholdOf (text : String) : Except ThresholdFault Nat :=
  match ofName? text with
  | some level => .ok level.severity
  | none =>
    match otherSettings.lookup (capitals text) with
    | some fault => .error fault
    | none => .ok ((aliases.lookup (capitals text)).getD warning.severity)

end LogLevel

end ResourceGraph
