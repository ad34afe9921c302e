import UploadRunner.Arguments.Basic

/-! Reading arguments.

`parsePlain` reads options wherever they stand before the end of the options, also
behind the artifact. `parse` first puts a separator behind the artifact, so that
whatever follows it is left alone. -/

namespace UploadRunner.Arguments

/-! ## Options and positional tokens -/

structure Progress where
  asksHelp : Bool := false
  optionsEnded : Bool := false
  configuration : Option String := none
  artifact : Option String := none
  flags : List String := []
  deriving DecidableEq, Repr

namespace Progress

/-- Take a positional token: the first is the artifact, and the second ends the
options and begins the flags. -/
def place (progress : Progress) (token : String) : Progress :=
  match progress.artifact with
  | none => { progress with artifact := some token }
  | some _ => { progress with optionsEnded := true, flags := progress.flags ++ [token] }

def setConfiguration (progress : Progress) (value : String) : Except UsageError Progress :=
  match progress.configuration with
  | none => .ok { progress with configuration := some value }
  | some _ => .error (.repeatedValue value)

def read (progress : Progress) : List String → Except UsageError Progress
  | [] => .ok progress
  | token :: rest =>
      if progress.optionsEnded then (progress.place token).read rest
      else if asksForHelp token then { progress with asksHelp := true }.read rest
      else if !isOption token then (progress.place token).read rest
      else if token = separator then { progress with optionsEnded := true }.read rest
      else if progress.asksHelp then .error .optionBehindHelp
      else if token = configurationOption then
        match rest with
        | [] => .error .missingValue
        | value :: rest =>
            match progress.setConfiguration value with
            | .error error => .error error
            | .ok progress => progress.read rest
      else .error (.unknownOption token)

def finish (progress : Progress) : Except EarlyExit Arguments :=
  if progress.asksHelp then .error .help
  else
    match progress.artifact with
    | none => .error (.usage .missingArtifact)
    | some artifact =>
        .ok { configuration := progress.configuration, artifact, flags := progress.flags }

end Progress

def parsePlain (tokens : List String) : Except EarlyExit Arguments :=
  match Progress.read {} tokens with
  | .error error => .error (.usage error)
  | .ok progress => progress.finish

/-! ## The separator behind the artifact -/

def separated (tokens : List String) : List String :=
  if tokens.head? = some separator then tokens else separator :: tokens

/-- Put a separator behind the first token that is neither an option nor the value
of one, unless the options end before it. -/
def insertSeparator : List String → List String
  | [] => []
  | token :: rest =>
      if token = separator then token :: rest
      else if token = configurationOption then
        match rest with
        | [] => [token]
        | value :: rest => token :: value :: insertSeparator rest
      else if isOption token then token :: insertSeparator rest
      else token :: separated rest

def parse (tokens : List String) : Except EarlyExit Arguments :=
  parsePlain (insertSeparator tokens)

example : insertSeparator ["--config", "a.json", "out", "-v"] =
    ["--config", "a.json", "out", "--", "-v"] := by
  decide

example : insertSeparator ["out", "--", "-v"] = ["out", "--", "-v"] := by decide

example : (parse ["out", "--config", "--help"]).toOption =
    some ⟨none, "out", ["--config", "--help"]⟩ := by
  decide

end UploadRunner.Arguments
