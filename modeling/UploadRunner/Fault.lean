import UploadRunner.Configuration.Check
import UploadRunner.Host.IoFault
import UploadRunner.Json.Problem

/-! Faults: a cause, and what was being done when it arose.

Whoever passes a fault on adds a context to it. Its report shows the outermost
message first and the cause last. -/

namespace UploadRunner

inductive Cause
  | io (fault : IoFault)
  | decoding (diagnosis : Json.Diagnosis)
  | configuration (problem : Configuration.Problem)
  | reported (message : String)
  deriving DecidableEq, Repr

inductive Context
  | readingConfiguration (path : Word)
  | decodingConfiguration (path : Word)
  | checkingConfiguration (path : Word)
  | loadingConfiguration
  | runningPipeline
  | writingProgress
  | writingCommand
  | flushingOutput
  | startingTool (program : Word)
  | awaitingTool (program : Word)
  | reported (message : String)
  deriving DecidableEq, Repr

/-- A cause with its contexts, the innermost first. -/
structure Fault where
  cause : Cause
  contexts : List Context := []
  deriving DecidableEq, Repr

def Cause.message : Cause → String
  | .io fault => fault.message
  | .decoding diagnosis => diagnosis.message
  | .configuration problem => problem.message
  | .reported message => message

def Context.message : Context → String
  | .readingConfiguration path => "Failed to read " ++ Quoted.ofWord path ++ "."
  | .decodingConfiguration path => "Failed to decode " ++ Quoted.ofWord path ++ "."
  | .checkingConfiguration path =>
      Quoted.ofWord path ++ " is not a valid runner configuration."
  | .loadingConfiguration => "Failed to load runner configuration"
  | .runningPipeline => "Failed to run pipeline"
  | .writingProgress => "Failed to write progress."
  | .writingCommand => "Failed to write command."
  | .flushingOutput => "Failed to flush output."
  | .startingTool program => "Failed to spawn `" ++ String.ofList (Word.lossy program) ++ "`."
  | .awaitingTool program =>
      "Failed to wait for `" ++ String.ofList (Word.lossy program) ++ "` to complete."
  | .reported message => message

namespace Fault

def within (fault : Fault) (context : Context) : Fault :=
  { fault with contexts := fault.contexts ++ [context] }

def chain (fault : Fault) : List String :=
  fault.contexts.reverse.map Context.message ++ [fault.cause.message]

def message (fault : Fault) : String :=
  ": ".intercalate fault.chain

/-! ## Reports -/

def hang (indentation : Nat) (text : String) : String :=
  let margin := List.replicate indentation ' '
  String.ofList (text.toList.flatMap fun character =>
    if character = '\n' then '\n' :: margin else [character])

def itemMark (number : Nat) : String :=
  let digits := Numeral.digits number
  String.ofList (List.replicate (5 - digits.length) ' ' ++ digits ++ [':', ' '])

/-- The causes below the outermost message: a single one is indented, and several
are numbered from the outermost on. -/
def causeList : List String → String
  | [] => ""
  | [cause] => "\n\nCaused by:\n    " ++ hang 4 cause
  | causes =>
      "\n\nCaused by:" ++ String.join (causes.zipIdx.map fun (cause, number) =>
        "\n" ++ itemMark number ++ hang 7 cause)

def report (fault : Fault) : String :=
  match fault.chain with
  | [] => ""
  | outermost :: causes => outermost ++ causeList causes

example : (Fault.mk (.reported "no\ntool") [.reported "first", .reported "last"]).report =
    "last\n\nCaused by:\n    0: first\n    1: no\n       tool" := by
  decide +kernel

end Fault

end UploadRunner
