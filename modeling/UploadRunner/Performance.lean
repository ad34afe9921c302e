import UploadRunner.Invocation
import UploadRunner.Log.Journal

/-! Invocations as they take place.

An invocation ends early, because its words are not text, its arguments are wrong or it asks for
help, or it opens a journal, loads a configuration and runs a pipeline. It logs while the steps
run. What it writes to its two outputs is put together as it goes along. -/

namespace UploadRunner

/-! ## Steps -/

structure Underway (State : Type) where
  state : State
  output : Output
  written : Word
  executions : List Execution
  journal : Log.Journal

namespace Underway

variable {State : Type}

def log (underway : Underway State) (record : Log.Record) : Underway State :=
  { underway with journal := underway.journal.add record }

def announce (underway : Underway State) (announced : Writing) : Underway State :=
  { underway with
    output := announced.output
    written := underway.written ++ announced.accepted }

def execute (underway : Underway State) (runner : Runner State) (step : Step)
    (announced : Writing) : Underway State :=
  let started := underway.log step.startRecord
  let (reply, state) := runner step.command started.state
  let replied : Underway State :=
    { started with
      state
      written := started.written ++ reply.shown
      executions := started.executions ++ [⟨announced.accepted, announced.output, step, reply⟩]
      journal := started.journal.write reply.errors }
  replied.log (step.endRecord reply.outcome)

/-- Run steps up to the end or to an announcement that is refused. -/
def perform (runner : Runner State) (isVerbose : Bool) :
    List Step → Underway State → Underway State × Option Fault
  | [], underway => (underway, none)
  | step :: later, underway =>
      let announced := step.announce isVerbose underway.output
      let underway := underway.announce announced
      match announced.fault with
      | some fault => (underway, some fault)
      | none => perform runner isVerbose later (underway.execute runner step announced)

end Underway

/-! ## Invocations -/

namespace Invocation

def conclude {State : Type} (underway : Underway State) (fault : Option Fault) : Appearance :=
  let (last, status) := closing (resultOf underway.executions fault)
  { output := underway.written
    errors := (last.foldl Log.Journal.add underway.journal).written
    executions := underway.executions
    status }

def openJournal (request : Text) (arguments : Arguments) : Log.Journal :=
  let greeted := (Log.Journal.opened request).add greeting
  match arguments.configuration with
  | none => greeted
  | some path => greeted.add (configurationRecord path)

def performArguments {State : Type} (machine : Machine State) (output : Output)
    (request : Text) (arguments : Arguments) : Appearance :=
  let journal := openJournal request arguments
  match configuration machine.content arguments with
  | .error fault =>
      { output := []
        errors := (journal.add (fatalRecord fault)).written
        executions := []
        status := 1 }
  | .ok configuration =>
      let artifact := Word.ofString arguments.artifact
      let steps := Pipeline.steps artifact configuration
      let (underway, fault) :=
        Underway.perform (machine.runner request) arguments.isVerbose steps
          { state := machine.stateBehind arguments.configuration
            output
            written := []
            executions := []
            journal := journal.add (artifactRecord artifact steps) }
      conclude underway fault

/-- Perform an invocation on a machine. The request is what of its log is asked for. -/
def perform {State : Type} (machine : Machine State) (output : Output) (request : Text)
    (invocation : Invocation) : Appearance :=
  match invocation.strings with
  | .error word => refused ("Invalid utf8: " ++ String.ofList (Word.lossy word) ++ "\n")
  | .ok (program, tokens) =>
      match Arguments.parse tokens with
      | .error .help => help machine.abortSite output (Arguments.usageText (name program))
      | .error (.usage error) => refused (usageMessage (name program) error)
      | .ok arguments => performArguments machine output request arguments

end Invocation

end UploadRunner
