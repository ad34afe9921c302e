import UploadRunner.Log.Basic
import UploadRunner.Pipeline.Basic
import UploadRunner.Pipeline.Output
import UploadRunner.Tool.Attempt

/-! Running the steps of a pipeline.

Each step is announced, and its command runs once the announcement has been written
and flushed, because tools share the output. A tool that fails does not keep the
later steps from running; an output that refuses an announcement ends the run. -/

namespace UploadRunner

/-- Something that runs commands and keeps a state between them. -/
abbrev Runner (State : Type) := Command → State → Reply × State

structure Execution where
  /-- What was written since the command before. -/
  printed : Word
  /-- The output when the command runs. -/
  output : Output
  step : Step
  reply : Reply
  deriving DecidableEq, Repr

structure Run where
  executions : List Execution
  /-- What was written behind the last command. -/
  trailing : Word
  output : Output
  records : List Log.Record
  fault : Option Fault
  deriving DecidableEq, Repr

/-! ## Announcements -/

def announcementLine (text : Text) : Word :=
  Word.ofText (text ++ ['\n'])

/-- Announce a step: its progress, then its command if asked for, then a flush. -/
def Step.announce (step : Step) (isVerbose : Bool) (output : Output) : Writing :=
  let progress :=
    (Writing.start output).write .writingProgress (announcementLine step.progress)
  let command :=
    if isVerbose then progress.write .writingCommand (announcementLine step.command.line)
    else progress
  command.flush

/-! ## Records -/

def pipelineRecord (level : Log.Level) (message : String) : Log.Record :=
  ⟨level, .pipeline, message⟩

def Step.startRecord (step : Step) : Log.Record :=
  pipelineRecord .debug
    ("Running " ++ step.kind.name ++ " step: " ++ step.command.description)

def Step.endRecord (step : Step) (outcome : Outcome) : Log.Record :=
  match outcome with
  | .exited (some 0) => pipelineRecord .debug (step.kind.name ++ " step successful.")
  | .exited (some code) =>
      pipelineRecord .warn
        (step.kind.name ++ " step exited with status " ++ Numeral.integer code ++ ".")
  | .exited none =>
      pipelineRecord .warn (step.kind.name ++ " step exited without a status code.")
  | .signaled signal =>
      pipelineRecord .warn
        (step.kind.name ++ " step was terminated by signal " ++ Numeral.integer signal ++ ".")
  | .failed fault => pipelineRecord .error (step.kind.name ++ " step failed: " ++ fault.report)

/-! ## Runs -/

def resultOf (executions : List Execution) (fault : Option Fault) :
    Except Fault (Option Outcome) :=
  match fault with
  | some fault => .error fault
  | none => .ok (executions.getLast?.map (·.reply.outcome))

namespace Run

def preceded (run : Run) (execution : Execution) : Run :=
  let outcome := execution.reply.outcome
  { run with
    executions := execution :: run.executions
    records := execution.step.startRecord :: execution.step.endRecord outcome :: run.records }

def result (run : Run) : Except Fault (Option Outcome) :=
  resultOf run.executions run.fault

/-- What stands on the output: what was written and what the tools showed, in the
order in which it happened. -/
def transcript (run : Run) : Word :=
  run.executions.flatMap (fun execution => execution.printed ++ execution.reply.shown) ++
    run.trailing

end Run

def runSteps {State : Type} (runner : Runner State) (isVerbose : Bool) :
    List Step → Output → State → Run
  | [], output, _ => ⟨[], [], output, [], none⟩
  | step :: later, output, state =>
      let announced := step.announce isVerbose output
      match announced.fault with
      | some fault => ⟨[], announced.accepted, announced.output, [], some fault⟩
      | none =>
          let (reply, state) := runner step.command state
          (runSteps runner isVerbose later announced.output state).preceded
            ⟨announced.accepted, announced.output, step, reply⟩

/-! ## Scripted outcomes -/

def scriptedRunner : Runner (List Outcome) := fun _ script =>
  match script with
  | [] => ({ outcome := .exited (some 0) }, [])
  | outcome :: rest => ({ outcome }, rest)

end UploadRunner
