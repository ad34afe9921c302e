/-! The arguments of an invocation, and how it can end before it begins. -/

namespace UploadRunner

structure Arguments where
  configuration : Option String
  artifact : String
  flags : List String
  deriving DecidableEq, Repr

namespace Arguments

def verboseFlag : String := "-v"

/-- Whether commands are shown before they run: only the place right behind the
artifact counts. -/
def isVerbose (arguments : Arguments) : Bool :=
  arguments.flags.head? = some verboseFlag

/-! ## Tokens -/

def separator : String := "--"

def configurationOption : String := "--config"

def asksForHelp (token : String) : Bool :=
  token = "--help" || token = "help"

def isOption (token : String) : Bool :=
  token.toList.head? = some '-'

/-! ## Early ends -/

inductive UsageError
  | optionBehindHelp
  | unknownOption (token : String)
  | missingValue
  | repeatedValue (value : String)
  | missingArtifact
  deriving DecidableEq, Repr

def UsageError.message : UsageError → String
  | .optionBehindHelp => "Trailing arguments are not allowed after `help`."
  | .unknownOption token => "Unrecognized argument: " ++ token ++ "\n"
  | .missingValue => "No value provided for option '" ++ configurationOption ++ "'.\n"
  | .repeatedValue value =>
      "Error parsing option '" ++ configurationOption ++ "' with value '" ++ value ++
        "': duplicate values provided\n"
  | .missingArtifact => "Required positional arguments not provided:\n    artifact\n"

inductive EarlyExit
  | help
  | usage (error : UsageError)
  deriving DecidableEq, Repr

def usageText (program : String) : String :=
  "Usage: " ++ program ++ " [--config <config>] [--] <artifact> [flags...]\n\n" ++
  "Strips and converts a PROS program built by cargo, then uploads it to a V5 brain. " ++
  "Intended to be used as the cargo `runner` for the armv7a-vexos-eabi target.\n\n" ++
  "Positional Arguments:\n" ++
  "  artifact          path to the executable image produced by the build\n\n" ++
  "Options:\n" ++
  "  --config          load tool names, stripped symbols, the excluded section,\n" ++
  "                    target and slot from a JSON file. Must be given before the\n" ++
  "                    artifact path.\n" ++
  "  --help, help      display usage information\n"

def EarlyExit.text (program : String) : EarlyExit → String
  | .help => usageText program
  | .usage error => error.message

end Arguments

end UploadRunner
