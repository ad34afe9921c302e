import UploadRunner.Performance
import UploadRunner.Proofs.Log.Journals

/-! Sessions.

A session is what accepted arguments do, with everything that comes onto the standard error output
in one list. An invocation that logs while it runs shows what is left of that list once the records
are taken out that are not asked for. -/

namespace UploadRunner

/-! ## Steps -/

def Execution.remarks (execution : Execution) : List Log.Remark :=
  [.logged execution.step.startRecord, .shown execution.reply.errors,
    .logged (execution.step.endRecord execution.reply.outcome)]

namespace Underway

variable {State : Type}

def followed (underway : Underway State) (run : Run) (state : State) : Underway State where
  state := state
  output := run.output
  written := underway.written ++ run.transcript
  executions := underway.executions ++ run.executions
  journal := (run.executions.flatMap Execution.remarks).foldl Log.Journal.note underway.journal

theorem execute_followed (underway : Underway State) (runner : Runner State) (step : Step)
    (announced : Writing) (run : Run) (state : State) :
    ((underway.announce announced).execute runner step announced).followed run state =
      underway.followed (run.preceded ⟨announced.accepted, announced.output, step,
        (runner step.command underway.state).1⟩) state := by
  simp only [followed, execute, announce, log, Run.preceded, Run.transcript, List.flatMap_cons,
    List.append_assoc, List.cons_append, List.nil_append, Execution.remarks, List.foldl_cons]
  rfl

/-- Steps that are performed do what a run of them does. -/
theorem perform_followed (runner : Runner State) (isVerbose : Bool) (steps : List Step) :
    ∀ underway : Underway State, ∃ state,
      perform runner isVerbose steps underway =
        (underway.followed (runSteps runner isVerbose steps underway.output underway.state) state,
          (runSteps runner isVerbose steps underway.output underway.state).fault) := by
  -- What is over is part of what the steps start from, so the induction is for any of it.
  induction steps with
  | nil =>
      intro underway
      refine ⟨underway.state, ?_⟩
      simp [perform, runSteps, followed, Run.transcript]
  | cons step later induction =>
      intro underway
      rw [perform, runSteps]
      simp only
      cases refused : (step.announce isVerbose underway.output).fault with
      | some fault =>
          refine ⟨underway.state, ?_⟩
          simp [followed, announce, Run.transcript]
      | none =>
          rcases induction ((underway.announce (step.announce isVerbose underway.output)).execute
            runner step (step.announce isVerbose underway.output)) with ⟨state, performed⟩
          refine ⟨state, ?_⟩
          rw [performed, execute_followed]
          rfl

end Underway

/-! ## Sessions -/

structure Session where
  output : Word
  /-- What comes onto the standard error output if every record does. -/
  remarks : List Log.Remark
  executions : List Execution
  status : UInt8
  deriving DecidableEq, Repr

def Session.appearance (session : Session) (request : Text) : Appearance where
  output := session.output
  errors := Log.writtenUnder request session.remarks
  executions := session.executions
  status := session.status

namespace Invocation

def openingRecords (arguments : Arguments) : List Log.Record :=
  greeting :: (arguments.configuration.map configurationRecord).toList

section

variable {State : Type} (machine : Machine State) (output : Output) (request : Text)
  (arguments : Arguments)

def unconfigured (fault : Fault) : Session where
  output := []
  remarks := (openingRecords arguments ++ [fatalRecord fault]).map .logged
  executions := []
  status := 1

def configured (chosen : Configuration) : Session :=
  let artifact := Word.ofString arguments.artifact
  let steps := Pipeline.steps artifact chosen
  let run := runSteps (machine.runner request) arguments.isVerbose steps output
    (machine.stateBehind arguments.configuration)
  let (last, status) := closing run.result
  { output := run.transcript
    remarks := (openingRecords arguments ++ [artifactRecord artifact steps]).map .logged ++
      run.executions.flatMap Execution.remarks ++ last.map .logged
    executions := run.executions
    status }

def session : Session :=
  match configuration machine.content arguments with
  | .error fault => unconfigured arguments fault
  | .ok chosen => configured machine output request arguments chosen

theorem openJournal_eq :
    openJournal request arguments =
      ((openingRecords arguments).map .logged).foldl Log.Journal.note (.opened request) := by
  rw [openJournal, openingRecords]
  cases arguments.configuration <;> rfl

theorem conclude_followed (journal : Log.Journal) (start : State) (run : Run) (state : State) :
    conclude (Underway.followed ⟨start, output, [], [], journal⟩ run state) run.fault =
      { output := run.transcript
        errors := ((run.executions.flatMap Execution.remarks ++
          (closing run.result).1.map Log.Remark.logged).foldl Log.Journal.note journal).written
        executions := run.executions
        status := (closing run.result).2 } := by
  rw [conclude, Underway.followed, List.foldl_append, ← Log.Journal.foldl_add]
  rfl

/-- What accepted arguments show is what their session leaves under the request. -/
theorem performArguments_eq :
    performArguments machine output request arguments =
      (session machine output request arguments).appearance request := by
  simp only [performArguments, session, openJournal_eq]
  cases configuration machine.content arguments with
  | error fault =>
      simp only [Session.appearance, unconfigured, ← Log.Journal.written_opened, List.map_append,
        List.foldl_append]
      rfl
  | ok chosen =>
      rcases Underway.perform_followed (machine.runner request) arguments.isVerbose
        (Pipeline.steps (Word.ofString arguments.artifact) chosen)
        { state := machine.stateBehind arguments.configuration
          output
          written := []
          executions := []
          journal := (((openingRecords arguments).map .logged).foldl Log.Journal.note
            (.opened request)).add (artifactRecord (Word.ofString arguments.artifact)
              (Pipeline.steps (Word.ofString arguments.artifact) chosen)) } with
        ⟨state, performed⟩
      simp only [performed, conclude_followed, Session.appearance, configured,
        ← Log.Journal.written_opened, List.map_append, List.foldl_append]
      rfl

end

end Invocation

end UploadRunner
