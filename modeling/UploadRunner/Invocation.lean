import UploadRunner.Arguments.Parse
import UploadRunner.Configuration.Load
import UploadRunner.Host.Machine
import UploadRunner.Text.Separated

/-! Invocations: their words, how they end early, and what they log. -/

namespace UploadRunner

structure Invocation where
  program : Word
  arguments : List Word
  deriving DecidableEq, Repr

structure Appearance where
  output : Word
  errors : Word
  executions : List Execution
  status : UInt8
  deriving DecidableEq, Repr

namespace Invocation

/-! ## Words -/

def string (word : Word) : Except Word String :=
  match Word.text? word with
  | none => .error word
  | some text => .ok (String.ofList text)

def strings (invocation : Invocation) : Except Word (String × List String) :=
  match string invocation.program with
  | .error word => .error word
  | .ok program => (invocation.arguments.mapM string).map fun tokens => (program, tokens)

def standardName : String := "pros-runner"

/-- The name that messages give the program: the last component of its path. -/
def name (program : String) : String :=
  let components :=
    (separatedBy '/' program.toList).filter fun component =>
      component ≠ [] && component ≠ ['.']
  match components.getLast? with
  | none => standardName
  | some component =>
      if component = ['.', '.'] then standardName else String.ofList component

example : name "/usr/bin/my-runner" = "my-runner" := by decide +kernel

example : name "x/.." = "pros-runner" := by decide +kernel

/-! ## Early ends -/

def refused (text : String) : Appearance where
  output := []
  errors := Word.ofString text
  executions := []
  status := 1

def abortedStatus : UInt8 := 101

/-- Help is written without a way to report a refusal, which aborts the program. -/
def help (site : AbortSite) (output : Output) (usage : String) : Appearance :=
  let word := Word.ofString (usage ++ "\n")
  if output.hasRoom word then
    { output := output.accepted word, errors := [], executions := [], status := 0 }
  else
    { output := output.accepted word
      errors :=
        Word.ofString (site.report ("failed printing to stdout: " ++ output.refusal.message))
      executions := []
      status := abortedStatus }

def usageMessage (name : String) (error : Arguments.UsageError) : String :=
  error.message ++ "\nRun " ++ name ++ " --help for more information.\n"

/-! ## Runs -/

def record (level : Log.Level) (message : String) : Log.Record :=
  ⟨level, .runner, message⟩

def greeting : Log.Record :=
  record .info "PROS Runner v0.1.0"

def configurationRecord (path : String) : Log.Record :=
  record .info ("Runner configuration: " ++ Quoted.ofWord (Word.ofString path))

def artifactRecord (artifact : Word) (steps : List Step) : Log.Record :=
  record .debug
    ("Artifact " ++ Quoted.ofWord artifact ++ " needs " ++
      Numeral.natural steps.length ++ " steps.")

def fatalRecord (fault : Fault) : Log.Record :=
  record .error ("Fatal error: " ++ fault.report)

def finalRecord (outcome : Outcome) : Log.Record :=
  if outcome.isSuccess then record .info "Upload successful."
  else record .error "Upload unsuccessful."

def configuration (read : Word → Except IoFault Word) (arguments : Arguments) :
    Except Fault Configuration :=
  match arguments.configuration with
  | none => .ok .standard
  | some path =>
      (Configuration.load read (Word.ofString path)).mapError (·.within .loadingConfiguration)

def closing : Except Fault (Option Outcome) → List Log.Record × UInt8
  | .error fault => ([fatalRecord (fault.within .runningPipeline)], 1)
  | .ok none => ([], 0)
  | .ok (some outcome) => ([finalRecord outcome], UInt8.ofInt outcome.exitCode)

end Invocation

end UploadRunner
