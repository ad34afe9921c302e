import UploadRunner.Proofs.Pipeline.FaultyOutput

/-! Runs on an output that accepts everything.

Every step is run, and what stands on the output is what announces each step and what its
tool shows, in that order. The order does not hang on when the output passes on what is
written to it, because nothing is left to be passed on when a tool runs. -/

namespace UploadRunner

def Output.unlimited : Output := {}

theorem unlimited_eq_fresh : Output.unlimited = .fresh none .outputFull none := rfl

/-! ## Executions -/

section

variable {State : Type} (runner : Runner State) (isVerbose : Bool) (steps : List Step)
  (state : State)

theorem unlimited_length :
    (runSteps runner isVerbose steps .unlimited state).executions.length = steps.length := by
  apply Nat.le_antisymm
  · have lengths := congrArg List.length (executions_step runner isVerbose steps .unlimited state)
    rw [List.length_map, List.length_take] at lengths
    omega
  · rw [unlimited_eq_fresh, reached_iff runner isVerbose steps state none .outputFull none le_rfl]
    exact ⟨by simp [Fits], by simp⟩

theorem unlimited_step :
    (runSteps runner isVerbose steps .unlimited state).executions.map Execution.step = steps := by
  rw [executions_step, unlimited_length, List.take_length]

theorem unlimited_reply :
    (runSteps runner isVerbose steps .unlimited state).executions.map Execution.reply =
      runner.replies (steps.map Step.command) state := by
  rw [executions_reply, unlimited_length, List.take_length]

theorem unlimited_announced {execution : Execution}
    (member : execution ∈ (runSteps runner isVerbose steps .unlimited state).executions) :
    execution.printed = execution.step.announcement isVerbose ∧
      execution.output.unflushed = 0 := by
  rcases List.mem_iff_getElem?.mp member with ⟨index, found⟩
  rcases execution_announced runner isVerbose steps .unlimited state index execution found with
    ⟨printed, flushed, _⟩
  exact ⟨printed, flushed⟩

/-! ## Results -/

theorem unlimited_result :
    (runSteps runner isVerbose steps .unlimited state).result =
      .ok ((runSteps runner isVerbose steps .unlimited state).executions.getLast?.map
        (·.reply.outcome)) := by
  have unfailed : (runSteps runner isVerbose steps .unlimited state).fault = none := by
    rw [fault_eq, unlimited_length, List.getElem?_length]
    rfl
  rw [Run.result, unfailed, resultOf]

theorem unlimited_trailing :
    (runSteps runner isVerbose steps .unlimited state).trailing = [] := by
  have printed := executions_printed runner isVerbose steps state .unlimited steps.length
  rw [unlimited_length, List.take_length, List.take_length, ← unlimited_length runner isVerbose
    steps state, List.take_length] at printed
  have written := written_eq runner isVerbose steps .unlimited state
  rw [unlimited_length, List.take_of_length_le (Nat.le_succ _), Run.written, printed] at written
  exact List.append_right_eq_self.mp written

/-! ## The order on the output -/

theorem unlimited_transcript :
    (runSteps runner isVerbose steps .unlimited state).transcript =
      (runSteps runner isVerbose steps .unlimited state).executions.flatMap fun execution =>
        execution.step.announcement isVerbose ++ execution.reply.shown := by
  rw [Run.transcript, unlimited_trailing, List.append_nil]
  apply List.flatMap_congr
  intro execution member
  rw [(unlimited_announced runner isVerbose steps state member).1]

end

/-- What stands on an output that is passed on only when it is flushed and at the end: what
was written and had not been flushed when a command ran comes behind what the command
shows. -/
def arrivals (held : Word) : List Execution → Word
  | [] => held
  | execution :: later =>
      let written := held ++ execution.printed
      let flushed := written.length - execution.output.unflushed
      written.take flushed ++ execution.reply.shown ++ arrivals (written.drop flushed) later

example (execution : Execution) : arrivals [] [{ execution with
      printed := [1, 2, 3]
      output := { unflushed := 2 }
      reply := { outcome := .exited none, shown := [9] } }] =
    [1, 9, 2, 3] := rfl

theorem arrivals_of_flushed {executions : List Execution}
    (flushed : ∀ execution ∈ executions, execution.output.unflushed = 0) :
    arrivals [] executions =
      executions.flatMap fun execution => execution.printed ++ execution.reply.shown := by
  induction executions with
  | nil => rfl
  | cons execution later induction =>
      have first := flushed execution List.mem_cons_self
      have others := induction fun other member =>
        flushed other (List.mem_cons_of_mem execution member)
      simp only [arrivals, first, Nat.sub_zero, List.take_length, List.drop_length, others,
        List.nil_append, List.flatMap_cons]

theorem unlimited_arrivals {State : Type} (runner : Runner State) (isVerbose : Bool)
    (steps : List Step) (state : State) :
    arrivals [] (runSteps runner isVerbose steps .unlimited state).executions =
      (runSteps runner isVerbose steps .unlimited state).transcript := by
  rw [Run.transcript, unlimited_trailing, List.append_nil]
  apply arrivals_of_flushed
  intro execution member
  exact (unlimited_announced runner isVerbose steps state member).2

/-! ## Exchanges -/

def Execution.exchange (execution : Execution) : Step × Reply :=
  (execution.step, execution.reply)

theorem flatMap_congr_exchange {α : Type} (shown : Step × Reply → List α)
    {first second : List Execution}
    (same : first.map Execution.exchange = second.map Execution.exchange) :
    (first.flatMap fun execution => shown execution.exchange) =
      second.flatMap fun execution => shown execution.exchange := by
  have collected : ∀ executions : List Execution,
      (executions.flatMap fun execution => shown execution.exchange) =
        (executions.map Execution.exchange).flatMap shown := by
    intro executions
    rw [List.flatMap_map]
  rw [collected, collected, same]

theorem replies_take {State : Type} (runner : Runner State) (commands : List Command) :
    ∀ (state : State) (count : Nat),
      runner.replies (commands.take count) state = (runner.replies commands state).take count := by
  induction commands with
  | nil =>
      intro state count
      rw [List.take_nil]
      exact List.take_nil.symm
  | cons command later induction =>
      intro state count
      cases count with
      | zero => rfl
      | succ count =>
          rw [List.take_succ_cons, Runner.replies, Runner.replies, List.take_succ_cons, induction]

/-- What is run on an output and what it replies hang on that output only in their number. -/
theorem executions_exchange {State : Type} (runner : Runner State) (isVerbose : Bool)
    (steps : List Step) (output : Output) (state : State) :
    (runSteps runner isVerbose steps output state).executions.map Execution.exchange =
      (steps.zip (runner.replies (steps.map Step.command) state)).take
        (runSteps runner isVerbose steps output state).executions.length := by
  have reached := executions_step runner isVerbose steps output state
  have replied := executions_reply runner isVerbose steps output state
  rw [List.map_take, replies_take] at replied
  rw [List.zip, List.take_zipWith, ← reached, ← replied]
  exact List.zip_map'.symm

/-! ## Records -/

def Execution.records (execution : Execution) : List Log.Record :=
  [execution.step.startRecord, execution.step.endRecord execution.reply.outcome]

theorem runSteps_records {State : Type} (runner : Runner State) (isVerbose : Bool)
    (steps : List Step) :
    ∀ (output : Output) (state : State),
      (runSteps runner isVerbose steps output state).records =
        (runSteps runner isVerbose steps output state).executions.flatMap Execution.records := by
  induction steps with
  | nil =>
      intro output state
      rfl
  | cons step later induction =>
      intro output state
      cases refused : step.refusal isVerbose output with
      | some fault =>
          rw [runSteps_refused runner isVerbose refused]
          rfl
      | none =>
          rw [runSteps_granted runner isVerbose refused]
          simp only [Run.preceded, List.flatMap_cons, induction]
          rfl

theorem records_exchange {State : Type} (runner : Runner State) (isVerbose : Bool)
    (steps : List Step) (output : Output) (state : State) :
    (runSteps runner isVerbose steps output state).records =
      ((runSteps runner isVerbose steps output state).executions.map
        Execution.exchange).flatMap fun exchange =>
          [exchange.1.startRecord, exchange.1.endRecord exchange.2.outcome] := by
  rw [runSteps_records, List.flatMap_map]
  rfl

/-! ## Showing commands -/

section

variable {State : Type} (runner : Runner State) (steps : List Step) (state : State)
  (first second : Bool)

theorem unlimited_exchanges :
    (runSteps runner first steps .unlimited state).executions.map Execution.exchange =
      (runSteps runner second steps .unlimited state).executions.map Execution.exchange := by
  rw [executions_exchange, executions_exchange, unlimited_length, unlimited_length]

theorem unlimited_result_eq :
    (runSteps runner first steps .unlimited state).result =
      (runSteps runner second steps .unlimited state).result := by
  have ended : ∀ isVerbose, (runSteps runner isVerbose steps .unlimited state).result =
      .ok (((runSteps runner isVerbose steps .unlimited state).executions.map
        Execution.exchange).getLast?.map (·.2.outcome)) := by
    intro isVerbose
    rw [unlimited_result, List.getLast?_map, Option.map_map]
    rfl
  rw [ended first, ended second, unlimited_exchanges runner steps state first second]

end

end UploadRunner
