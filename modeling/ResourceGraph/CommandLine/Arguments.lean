import ResourceGraph.CommandLine.Command
import ResourceGraph.Settings.Resolve

/-!
# Arguments

The arguments of a run are options, the name of a command and the source of a document.  Options
stand before the command; two dashes end them.  Short options may be joined, and the value of an
option may follow it directly.
-/

namespace ResourceGraph

/-- The options without a value. -/
inductive Flag where
  | help
  | version
  | json
  | plain
  | noColour
  | quiet
  | verbose
deriving DecidableEq, Repr

namespace Flag

/-- The flags. -/
def all : List Flag := [help, version, json, plain, noColour, quiet, verbose]

/-- The long form of a flag. -/
def long : Flag → String
  | help => "--help"
  | version => "--version"
  | json => "--json"
  | plain => "--plain"
  | noColour => "--no-color"
  | quiet => "--quiet"
  | verbose => "--verbose"

/-- The letter of a flag that has one. -/
def letter? : Flag → Option Char
  | quiet => some 'q'
  | verbose => some 'v'
  | _ => none

end Flag

/-- The options in the order in which they are given. -/
structure Options where
  flags : List Flag := []
  prefixes : List String := []
deriving DecidableEq, Repr

/-- Where the value of an option stands. -/
inductive OptionValue where
  | absent
  /-- The value is joined to the option. -/
  | joined (text : String)
  /-- The value is the next argument. -/
  | next
deriving DecidableEq, Repr

namespace Arguments

/-- Whether an argument is written like an option. -/
def isOption (argument : String) : Bool :=
  match argument.toList with
  | '-' :: _ :: _ => true
  | _ => false

/-- The long form of the option for prefixes. -/
def longPrefix : String := "--include-prefix"

/-- The letter of the option for prefixes. -/
def letterPrefix : Char := 'i'

/-- The flags of joined letters, and the value of the option for prefixes if it is the last one. -/
def readLetters : List Char → Option (List Flag × OptionValue)
  | [] => some ([], .absent)
  | letter :: rest =>
    if letter = letterPrefix then
      some ([], if rest.isEmpty then .next else .joined (String.ofList rest))
    else do
      let flag ← Flag.all.find? fun flag => flag.letter? == some letter
      let (flags, value) ← readLetters rest
      return (flag :: flags, value)

/-- What a long option means. -/
def readLong (argument : String) : Option (List Flag × OptionValue) :=
  let name := String.ofList (argument.toList.takeWhile (· != '='))
  match argument.toList.dropWhile (· != '=') with
  | [] =>
    if name == longPrefix then some ([], .next)
    else (Flag.all.find? fun flag => flag.long == name).map fun flag => ([flag], .absent)
  | _ :: value => if name == longPrefix then some ([], .joined (String.ofList value)) else none

/-- What an option means. -/
def readOption (argument : String) : Option (List Flag × OptionValue) :=
  match argument.toList with
  | '-' :: '-' :: _ => readLong argument
  | _ :: letters => readLetters letters
  | [] => none

/-- The options in front, and the arguments after them. -/
def splitOptions (options : Options) : List String → Option (Options × List String)
  | [] => some (options, [])
  | argument :: rest =>
    if argument == "--" then some (options, rest)
    else if !isOption argument then some (options, argument :: rest)
    else
      match readOption argument with
      | none => none
      | some (flags, .absent) =>
        splitOptions { options with flags := options.flags ++ flags } rest
      | some (flags, .joined text) =>
        splitOptions
          { flags := options.flags ++ flags, prefixes := options.prefixes ++ [text] } rest
      | some (flags, .next) =>
        match rest with
        | [] => none
        | text :: further =>
          splitOptions
            { flags := options.flags ++ flags, prefixes := options.prefixes ++ [text] } further

/-- What stands after the name of a command. -/
inductive Operand where
  | source (text : String)
  | help
  | misuse
deriving DecidableEq, Repr

/-- The arguments of a command that are no options, and whether help is wanted; none if an option is
unknown. -/
def splitOperands : List String → Option (List String × Bool)
  | [] => some ([], false)
  | argument :: rest =>
    if argument == "--" then some (rest, false)
    else if !isOption argument then
      (splitOperands rest).map fun (operands, help) => (argument :: operands, help)
    else if argument == Flag.help.long then
      (splitOperands rest).map fun (operands, _) => (operands, true)
    else none

/-- The operand of a command. -/
def operand (arguments : List String) : Operand :=
  match splitOperands arguments with
  | some (_, true) => .help
  | some ([text], false) => .source text
  | _ => .misuse

end Arguments

/-- What a run is asked to do. -/
inductive Invocation where
  | help
  | version
  | misuse
  | command (options : Options) (command : Command) (operand : Arguments.Operand)

namespace Invocation

/-- The first flag that asks for nothing but a notice. -/
def notice? (options : Options) : Option Flag :=
  options.flags.find? fun flag => flag == .help || flag == .version

/-- What arguments ask for. -/
def ofArguments (arguments : List String) : Invocation :=
  if arguments.isEmpty then .help
  else
    match Arguments.splitOptions {} arguments with
    | none => .misuse
    | some (options, rest) =>
      match notice? options, rest with
      | some .version, _ => .version
      | some _, _ => .help
      | none, [] => .misuse
      | none, name :: further =>
        match Command.ofName? name with
        | some wanted => .command options wanted (Arguments.operand further)
        | none => .misuse

end Invocation

namespace Options

/-- Whether a flag is given. -/
def has (options : Options) (flag : Flag) : Bool := options.flags.contains flag

/-- The preferences that options give: JSON wins over plain lines, and much to log over little. -/
def overrides (options : Options) : Overrides :=
  { logLevel :=
      if options.has .verbose then some LogLevel.debug.name
      else if options.has .quiet then some LogLevel.error.name
      else none
    outputFormat :=
      if options.has .json then some OutputFormat.json.name
      else if options.has .plain then some OutputFormat.plain.name
      else none
    prefixes := options.prefixes }

end Options

end ResourceGraph
