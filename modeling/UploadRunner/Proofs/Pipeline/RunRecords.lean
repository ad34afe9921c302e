import Mathlib.Data.List.Infix
import UploadRunner.Proofs.Pipeline.OpenOutput

/-! The log of a run.

Every command that is run leaves two records: that it is run, and what became of it. The log of
a run that an output cuts short is the beginning of the log of the whole run. -/

namespace UploadRunner

/-! ## Records of an outcome -/

structure Outcome.IsReportedAt (outcome : Outcome) (level : Log.Level) : Prop where
  succeeded : level = .debug ↔ outcome.isSuccess = true
  warned : level = .warn ↔
    (∃ code, outcome = .exited code ∧ code ≠ some 0) ∨ ∃ signal, outcome = .signaled signal
  failed : level = .error ↔ ∃ fault, outcome = .failed fault

theorem Outcome.isSuccess_of_ne {code : Option Int} (unsuccessful : code ≠ some 0) :
    (Outcome.exited code).isSuccess = false := by
  rw [isSuccess]
  intro zero
  exact unsuccessful (Outcome.exited.inj zero)

theorem endRecord_cases (step : Step) (outcome : Outcome) :
    (outcome = .exited (some 0) ∧ (step.endRecord outcome).level = .debug) ∨
      (∃ code, outcome = .exited code ∧ code ≠ some 0 ∧
        (step.endRecord outcome).level = .warn) ∨
      (∃ signal, outcome = .signaled signal ∧ (step.endRecord outcome).level = .warn) ∨
      ∃ fault, outcome = .failed fault ∧ (step.endRecord outcome).level = .error := by
  cases outcome with
  | exited code =>
      by_cases success : code = some 0
      · rw [success]
        exact Or.inl ⟨rfl, rfl⟩
      · refine Or.inr (Or.inl ⟨code, rfl, success, ?_⟩)
        cases code with
        | none => rfl
        | some code =>
            have nonzero : code ≠ 0 := fun zero => success (congrArg some zero)
            rw [Step.endRecord]
            · rfl
            · exact nonzero
  | signaled signal => exact Or.inr (Or.inr (Or.inl ⟨signal, rfl, rfl⟩))
  | failed fault => exact Or.inr (Or.inr (Or.inr ⟨fault, rfl, rfl⟩))

theorem endRecord_isReportedAt (step : Step) (outcome : Outcome) :
    outcome.IsReportedAt (step.endRecord outcome).level := by
  rcases endRecord_cases step outcome with
    ⟨rfl, level⟩ | ⟨code, rfl, unsuccessful, level⟩ | ⟨signal, rfl, level⟩ | ⟨fault, rfl, level⟩
  · rw [level]
    exact ⟨by simp [Outcome.isSuccess], by simp, by simp⟩
  · rw [level]
    exact ⟨by simp [Outcome.isSuccess_of_ne unsuccessful], by simp [unsuccessful], by simp⟩
  · rw [level]
    exact ⟨by simp [Outcome.isSuccess], by simp, by simp⟩
  · rw [level]
    exact ⟨by simp [Outcome.isSuccess], by simp, by simp⟩

theorem endRecord_named (step : Step) (outcome : Outcome) :
    ∃ text, (step.endRecord outcome).message = step.kind.name ++ text := by
  rw [Step.endRecord.eq_def]
  split
  · exact ⟨_, rfl⟩
  · exact ⟨_, by rw [pipelineRecord, String.append_assoc, String.append_assoc]⟩
  · exact ⟨_, rfl⟩
  · exact ⟨_, by rw [pipelineRecord, String.append_assoc, String.append_assoc]⟩
  · exact ⟨_, by rw [pipelineRecord, String.append_assoc]⟩

/-! ## Records of executions -/

/-- Whether two records tell of an execution: the first that its command is run, the second
what became of it. -/
structure Execution.IsToldBy (execution : Execution) (start ending : Log.Record) : Prop where
  started : start.level = .debug ∧ start.message =
    "Running " ++ execution.step.kind.name ++ " step: " ++ execution.step.command.description
  named : ∃ text, ending.message = execution.step.kind.name ++ text
  reported : execution.reply.outcome.IsReportedAt ending.level

inductive Tell : List Log.Record → List Execution → Prop
  | nil : Tell [] []
  | cons {start ending : Log.Record} {records : List Log.Record} {execution : Execution}
      {executions : List Execution} :
      execution.IsToldBy start ending → Tell records executions →
      Tell (start :: ending :: records) (execution :: executions)

theorem tell_records (executions : List Execution) :
    Tell (executions.flatMap Execution.records) executions := by
  induction executions with
  | nil => exact .nil
  | cons execution later induction =>
      have told : execution.IsToldBy execution.step.startRecord
          (execution.step.endRecord execution.reply.outcome) := {
        started := ⟨rfl, rfl⟩
        named := endRecord_named _ _
        reported := endRecord_isReportedAt _ _ }
      exact .cons told induction

theorem Tell.length_eq {records : List Log.Record} {executions : List Execution}
    (tell : Tell records executions) : records.length = 2 * executions.length := by
  induction tell with
  | nil => rfl
  | cons _ _ induction =>
      rw [List.length_cons, List.length_cons, List.length_cons, induction]
      omega

def Log.Record.isAlarm (record : Log.Record) : Bool :=
  record.level = .warn || record.level = .error

theorem isAlarm_startRecord (step : Step) : step.startRecord.isAlarm = false := rfl

theorem isAlarm_endRecord (step : Step) (outcome : Outcome) :
    (step.endRecord outcome).isAlarm = !outcome.isSuccess := by
  rcases endRecord_cases step outcome with
    ⟨rfl, level⟩ | ⟨code, rfl, unsuccessful, level⟩ | ⟨signal, rfl, level⟩ | ⟨fault, rfl, level⟩
  · rfl
  · rw [Log.Record.isAlarm, level, Outcome.isSuccess_of_ne unsuccessful]
    rfl
  · rfl
  · rfl

/-- There is one alarm for each command that did not succeed. -/
theorem countP_isAlarm (executions : List Execution) :
    (executions.flatMap Execution.records).countP Log.Record.isAlarm =
      executions.countP fun execution => !execution.reply.outcome.isSuccess := by
  induction executions with
  | nil => rfl
  | cons execution later induction =>
      rw [List.flatMap_cons, List.countP_append, induction, Execution.records, List.countP_cons,
        List.countP_cons, List.countP_nil, isAlarm_startRecord, isAlarm_endRecord, List.countP_cons,
        if_neg Bool.false_ne_true, Nat.add_zero, Nat.zero_add, Nat.add_comm]

/-! ## Runs -/

structure Run.IsLogged {State : Type} (runner : Runner State) (isVerbose : Bool)
    (steps : List Step) (output : Output) (state : State) (run : Run) : Prop where
  told : Tell run.records run.executions
  executed : run.executions.map Execution.step = steps.take run.executions.length
  replied : run.executions.map Execution.reply =
    runner.replies (run.executions.map fun execution => execution.step.command) state
  counted : run.records.countP Log.Record.isAlarm =
    run.executions.countP fun execution => !execution.reply.outcome.isSuccess
  /-- A step leaves records exactly if the output takes all announcements up to its own and
  grants all their flushes. -/
  reached : ∀ index < steps.length,
    (2 * index < run.records.length ↔ output.Admits isVerbose steps (index + 1))
  /-- The log of a run of which everything is written, with commands or without, begins with
  these records. -/
  begins : ∀ showsCommands,
    run.records <+: (runSteps runner showsCommands steps .unlimited state).records

theorem runSteps_isLogged {State : Type} (runner : Runner State) (isVerbose : Bool)
    (steps : List Step) (output : Output) (state : State) :
    Run.IsLogged runner isVerbose steps output state
      (runSteps runner isVerbose steps output state) := by
  have tell : Tell (runSteps runner isVerbose steps output state).records
      (runSteps runner isVerbose steps output state).executions := by
    rw [runSteps_records]
    exact tell_records _
  exact {
    told := tell
    executed := executions_step runner isVerbose steps output state
    replied := executions_handed runner isVerbose steps output state
    counted := by
      rw [runSteps_records]
      exact countP_isAlarm _
    reached := by
      intro index bound
      have count := le_executions_iff runner isVerbose steps output state (index + 1) bound
      rw [← count, tell.length_eq]
      omega
    begins := by
      intro showsCommands
      have whole : (steps.zip (runner.replies (steps.map Step.command) state)).length ≤
          steps.length := by
        rw [List.length_zip]
        exact Nat.min_le_left _ _
      -- Records tell of exchanges alone, of which the output settles no more than the number.
      rw [records_exchange, records_exchange]
      apply List.IsPrefix.flatMap
      rw [executions_exchange, executions_exchange, unlimited_length,
        List.take_of_length_le whole]
      exact List.take_prefix _ _ }

end UploadRunner
