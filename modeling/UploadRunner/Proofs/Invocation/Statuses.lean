import UploadRunner.Host.Basic
import UploadRunner.Proofs.Invocation.Readings
import UploadRunner.Proofs.Pipeline.OpenOutput

/-! The status with which an invocation ends.

What is wrong with an invocation, and the wish for help, end it before any tool is
started. Every other invocation runs all the steps of its pipeline, and the upload alone
decides its status, as it would decide that of a shell. -/

namespace UploadRunner

/-! ## What comes of a command -/

namespace Attempt

/-- The status that a shell gives to a command. -/
def status : Attempt → Nat
  | ended (.exited code) _ => code.toNat
  | ended (.killed signal _) _ => 128 + signal.val
  | _ => 127

theorem status_lt (attempt : Attempt) : attempt.status < 256 := by
  cases attempt with
  | notStarted fault => exact (by decide : 127 < 256)
  | notAwaited fault shown => exact (by decide : 127 < 256)
  | ended status shown =>
      cases status with
      | exited code => exact code.toNat_lt
      | killed signal isSignal =>
          have bound := signal.isLt
          rw [Attempt.status]
          omega

theorem exitCode_outcome (attempt : Attempt) (command : Command) :
    (attempt.outcome command).exitCode = attempt.status := by
  cases attempt with
  | notStarted fault => rfl
  | notAwaited fault shown => rfl
  | ended status shown => cases status <;> rfl

theorem toNat_exitCode (attempt : Attempt) (command : Command) :
    (UInt8.ofInt (attempt.outcome command).exitCode).toNat = attempt.status := by
  have bound := attempt.status_lt
  rw [exitCode_outcome, UInt8.ofInt, UInt8.toNat_ofNat']
  omega

theorem status_eq_zero_iff (attempt : Attempt) (command : Command) :
    attempt.status = 0 ↔ attempt.outcome command = .exited (some 0) := by
  cases attempt with
  | notStarted fault => simp [Attempt.status, outcome]
  | notAwaited fault shown => simp [Attempt.status, outcome]
  | ended status shown =>
      cases status with
      | exited code =>
          simp [Attempt.status, outcome, ExitStatus.outcome, ExitStatus.signal?, ExitStatus.code?]
      | killed signal isSignal =>
          simp [Attempt.status, outcome, ExitStatus.outcome, ExitStatus.signal?]

end Attempt

/-! ## The last step -/

theorem Pipeline.getLast?_steps (artifact : Word) (configuration : Configuration) :
    (steps artifact configuration).getLast? =
      some ⟨.upload, binaryFile artifact, uploadCommand artifact configuration⟩ := by
  rw [steps, List.getLast?_append]
  rfl

namespace Invocation

section

variable {State : Type} (machine : Machine State) (request : Text)

/-- What an invocation does that is not ended early: it runs every step, whatever became of the
steps before, and ends with the status of the upload. -/
structure IsPerformed (arguments : Arguments) (configuration : Configuration)
    (seen : Appearance) : Prop where
  steps : seen.executions.map Execution.step =
    Pipeline.steps (Word.ofString arguments.artifact) configuration
  replies : seen.executions.map Execution.reply =
    (machine.runner request).replies
      ((Pipeline.steps (Word.ofString arguments.artifact) configuration).map Step.command)
      (machine.stateBehind arguments.configuration)
  status : ∃ (upload : Execution) (state : State),
    seen.executions.getLast? = some upload ∧ upload.step.kind = .upload ∧
      upload.reply = (machine.attempt request upload.step.command state).1.reply
        upload.step.command ∧
      seen.status.toNat = (machine.attempt request upload.step.command state).1.status

/-- What an invocation does before and instead of running tools, and what decides its
status. -/
structure IsGated (invocation : Invocation) (seen : Appearance) : Prop where
  wrong : IsWrong machine.content invocation →
    seen.executions = [] ∧ seen.output = [] ∧ seen.status = 1
  help : ∀ program, AsksForHelp invocation program →
    seen.executions = [] ∧
      seen.output = Word.ofString (Arguments.usageText (name program) ++ "\n") ∧
      seen.status = 0
  otherwise : ¬ IsWrong machine.content invocation →
    (¬ ∃ program, AsksForHelp invocation program) →
      ∃ arguments configuration, Orders machine.content invocation arguments configuration ∧
        IsPerformed machine request arguments configuration seen
  status_eq_zero_iff : seen.status = 0 ↔
    (∃ program, AsksForHelp invocation program) ∨
      ∃ upload, seen.executions.getLast? = some upload ∧ upload.step.kind = .upload ∧
        upload.reply.outcome = .exited (some 0)

/-! ## Performances -/

theorem perform_of_isWrong (output : Output) {invocation : Invocation}
    (wrong : IsWrong machine.content invocation) :
    (perform machine output request invocation).executions = [] ∧
      (perform machine output request invocation).output = [] ∧
      (perform machine output request invocation).status = 1 := by
  cases wrong with
  | words word member illFormed =>
      rcases perform_of_illFormed machine output member illFormed with ⟨message, ended⟩
      rw [ended]
      exact ⟨rfl, rfl, rfl⟩
  | usage program tokens error spells parsed =>
      rw [perform_of_usage machine output request spells parsed]
      exact ⟨rfl, rfl, rfl⟩
  | configuration program tokens arguments path spells parsed named unusable =>
      have accepts : invocation.Accepts arguments := ⟨program, tokens, spells, parsed⟩
      rcases session_of_unusable machine output request named unusable with ⟨fault, ended⟩
      rw [perform_of_accepts machine output request accepts, ended]
      exact ⟨rfl, rfl, rfl⟩

variable {machine request}

theorem closing_of_last (isVerbose : Bool) {steps : List Step} {step : Step}
    (isLast : steps.getLast? = some step) (state : State) :
    let performed := runSteps (machine.runner request) isVerbose steps .unlimited state
    ∃ (execution : Execution) (left : State),
      performed.executions.getLast? = some execution ∧ execution.step = step ∧
        execution.reply =
          (machine.attempt request execution.step.command left).1.reply execution.step.command ∧
        (closing performed.result).2.toNat =
          (machine.attempt request execution.step.command left).1.status := by
  intro performed
  have last : performed.executions.getLast?.map Execution.step = some step := by
    rw [← List.getLast?_map, unlimited_step, isLast]
  rcases Option.map_eq_some_iff.mp last with ⟨execution, executed, isStep⟩
  have handed : performed.executions.map Execution.reply = (machine.runner request).replies
      (performed.executions.map fun execution => execution.step.command) state :=
    executions_handed (machine.runner request) isVerbose steps .unlimited state
  rcases reply_of_handed _ handed execution (List.mem_of_getLast? executed) with ⟨left, replied⟩
  have ended : performed.result = .ok (performed.executions.getLast?.map (·.reply.outcome)) :=
    unlimited_result (machine.runner request) isVerbose steps state
  refine ⟨execution, left, executed, isStep, replied, ?_⟩
  rw [ended, executed, Option.map_some, replied]
  exact Attempt.toNat_exitCode _ _

theorem perform_isPerformed {invocation : Invocation} {arguments : Arguments}
    {configuration : Configuration}
    (orders : Orders machine.content invocation arguments configuration) :
    IsPerformed machine request arguments configuration
      (perform machine .unlimited request invocation) := by
  rw [perform_of_orders machine .unlimited request orders]
  refine ⟨unlimited_step _ _ _ _, unlimited_reply _ _ _ _, ?_⟩
  have isLast := Pipeline.getLast?_steps (Word.ofString arguments.artifact) configuration
  rcases closing_of_last arguments.isVerbose isLast (machine.stateBehind arguments.configuration)
    with ⟨upload, state, executed, isUpload, replied, status⟩
  exact ⟨upload, state, executed, by rw [isUpload], replied, status⟩

theorem IsPerformed.status_eq_zero_iff {arguments : Arguments} {configuration : Configuration}
    {seen : Appearance} (performed : IsPerformed machine request arguments configuration seen) :
    seen.status = 0 ↔ ∃ upload, seen.executions.getLast? = some upload ∧
      upload.step.kind = .upload ∧ upload.reply.outcome = .exited (some 0) := by
  rcases performed.status with ⟨upload, state, isLast, isUpload, replied, status⟩
  have decides := Attempt.status_eq_zero_iff
    (machine.attempt request upload.step.command state).1 upload.step.command
  have outcome := congrArg Reply.outcome replied
  rw [← UInt8.toNat_inj, status, UInt8.toNat_zero, decides]
  constructor
  · intro succeeded
    exact ⟨upload, isLast, isUpload, outcome.trans succeeded⟩
  · rintro ⟨other, otherIsLast, _, succeeded⟩
    rw [isLast, Option.some.injEq] at otherIsLast
    rw [← otherIsLast] at succeeded
    exact outcome.symm.trans succeeded

theorem perform_of_asksForHelp {invocation : Invocation} {program : String}
    (asks : AsksForHelp invocation program) :
    (perform machine .unlimited request invocation).executions = [] ∧
      (perform machine .unlimited request invocation).output =
        Word.ofString (Arguments.usageText (name program) ++ "\n") ∧
      (perform machine .unlimited request invocation).status = 0 := by
  rcases asks with ⟨tokens, spells, parsed⟩
  rw [perform_of_help machine .unlimited request spells parsed]
  generalize Arguments.usageText (name program) = usage
  exact ⟨rfl, rfl, rfl⟩

theorem perform_isGated (invocation : Invocation) :
    IsGated machine request invocation (perform machine .unlimited request invocation) := by
  -- Of the three kinds of invocation, only orders start anything.
  have possible := wrong_or_help_or_orders machine.content invocation
  refine ⟨perform_of_isWrong machine request .unlimited, fun program => perform_of_asksForHelp,
    ?_, ?_, ?_⟩
  · intro fine unasked
    rcases possible with wrong | asks | ⟨arguments, configuration, orders⟩
    · exact absurd wrong fine
    · exact absurd asks unasked
    · exact ⟨arguments, configuration, orders, perform_isPerformed orders⟩
  · intro succeeded
    rcases possible with wrong | asks | ⟨arguments, configuration, orders⟩
    · rw [(perform_of_isWrong machine request .unlimited wrong).2.2] at succeeded
      cases succeeded
    · exact Or.inl asks
    · exact Or.inr ((perform_isPerformed orders).status_eq_zero_iff.mp succeeded)
  · intro reason
    rcases possible with wrong | ⟨program, asks⟩ | ⟨arguments, configuration, orders⟩
    · rcases reason with ⟨program, asks⟩ | ⟨upload, isLast, _⟩
      · exact (perform_of_asksForHelp asks).2.2
      · rw [(perform_of_isWrong machine request .unlimited wrong).1] at isLast
        cases isLast
    · exact (perform_of_asksForHelp asks).2.2
    · rcases reason with ⟨program, asks⟩ | uploaded
      · exact (perform_of_asksForHelp asks).2.2
      · exact (perform_isPerformed orders).status_eq_zero_iff.mpr uploaded

end

def bareHost : Host where
  tools := [(Word.ofString "pros", { ending := .killed ⟨15, by decide⟩ })]

theorem bareHost_isGated :
    let invocation := ⟨Word.ofString "pros-runner", [Word.ofString "out.elf"]⟩
    let seen := perform bareHost.machine .unlimited [] invocation
    seen.status = 143 ∧ IsGated bareHost.machine [] invocation seen :=
  ⟨by decide +kernel, perform_isGated _⟩

end Invocation

end UploadRunner
