import UploadRunner.Proofs.Invocation.Statuses
import UploadRunner.Proofs.Pipeline.FaultyOutput

/-! Invocations whose standard output takes nothing.

Whatever an invocation would write, it ends at the first write, before any tool is started.
A run reports the refusal like every other fault. Help has no log to report it in: the
program is aborted while it writes its usage. -/

namespace UploadRunner

/-! ## Outputs without room -/

theorem announcementLine_ne_nil (text : Text) : announcementLine text ≠ [] := by
  rw [announcementLine, Word.ofText_append]
  exact List.append_ne_nil_of_right_ne_nil _ (by decide)

section

variable {output : Output}

theorem hasRoom_of_closed (closed : output.room = some 0) {word : Word} (nonempty : word ≠ []) :
    output.hasRoom word = false := by
  rw [Output.hasRoom, closed]
  simpa using nonempty

theorem accepted_of_closed (closed : output.room = some 0) (word : Word) :
    output.accepted word = [] := by
  rw [Output.accepted, closed]
  exact List.take_zero

theorem runSteps_of_closed {State : Type} (runner : Runner State) (isVerbose : Bool)
    (closed : output.room = some 0) {steps : List Step} (nonempty : steps ≠ []) (state : State) :
    ∃ behind, runSteps runner isVerbose steps output state =
      ⟨[], [], behind, [], some ⟨.io output.refusal, [.writingProgress]⟩⟩ := by
  cases steps with
  | nil => exact absurd rfl nonempty
  | cons step later =>
      have refused : step.refusal isVerbose output =
          some ⟨.io output.refusal, [.writingProgress]⟩ := by
        rw [Step.refusal, if_pos (hasRoom_of_closed closed (announcementLine_ne_nil step.progress))]
      rw [runSteps_refused runner isVerbose refused, accepted_of_closed closed]
      exact ⟨_, rfl⟩

end

/-! ## Performances -/

namespace Invocation

section

variable {State : Type} (machine : Machine State) (output : Output) (request : Text)

/-- What an invocation does when nothing can be written: it starts no tool, and ends with an
ordinary failure that a run reports, unless it asks for help. -/
structure IsStopped (invocation : Invocation) (seen : Appearance) : Prop where
  idle : seen.executions = [] ∧ seen.output = []
  failed : (¬ ∃ program, AsksForHelp invocation program) → seen.status = 1
  aborted : (∃ program, AsksForHelp invocation program) →
    seen.status = abortedStatus ∧
      seen.errors = Word.ofString
        (machine.abortSite.report ("failed printing to stdout: " ++ output.refusal.message))
  reported : ∀ arguments configuration,
    Orders machine.content invocation arguments configuration →
      let artifact := Word.ofString arguments.artifact
      let records := openingRecords arguments ++
        [artifactRecord artifact (Pipeline.steps artifact configuration),
          fatalRecord ⟨.io output.refusal, [.writingProgress, .runningPipeline]⟩]
      seen.errors = Log.writtenUnder request (records.map .logged)

variable {machine output request}

theorem configured_of_closed (closed : output.room = some 0) (arguments : Arguments)
    (configuration : Configuration) :
    let artifact := Word.ofString arguments.artifact
    configured machine output request arguments configuration =
      ⟨[], (openingRecords arguments ++
        [artifactRecord artifact (Pipeline.steps artifact configuration),
          fatalRecord ⟨.io output.refusal, [.writingProgress, .runningPipeline]⟩]).map .logged,
        [], 1⟩ := by
  intro artifact
  have nonempty : Pipeline.steps artifact configuration ≠ [] := by
    intro nothing
    have isLast := Pipeline.getLast?_steps artifact configuration
    rw [nothing] at isLast
    cases isLast
  rcases runSteps_of_closed (machine.runner request) arguments.isVerbose closed nonempty
    (machine.stateBehind arguments.configuration) with ⟨behind, stopped⟩
  simp only [configured, artifact, stopped, Run.result, resultOf, closing, List.map_append,
    List.append_assoc]
  rfl

theorem help_of_closed (closed : output.room = some 0) (usage : String) :
    help machine.abortSite output usage =
      ⟨[], Word.ofString
        (machine.abortSite.report ("failed printing to stdout: " ++ output.refusal.message)),
        [], abortedStatus⟩ := by
  have line : Word.ofString (usage ++ "\n") = announcementLine usage.toList := by
    rw [Word.ofString, String.toList_append]
    rfl
  have full := hasRoom_of_closed closed (announcementLine_ne_nil usage.toList)
  simp only [help, line, full, accepted_of_closed closed]
  rfl

theorem perform_of_closed (closed : output.room = some 0) {invocation : Invocation}
    {program : String} (asks : AsksForHelp invocation program) :
    perform machine output request invocation =
      ⟨[], Word.ofString
        (machine.abortSite.report ("failed printing to stdout: " ++ output.refusal.message)),
        [], abortedStatus⟩ := by
  rcases asks with ⟨tokens, spells, parsed⟩
  rw [perform_of_help machine output request spells parsed]
  exact help_of_closed closed _

theorem perform_isStopped (closed : output.room = some 0) (invocation : Invocation) :
    IsStopped machine output request invocation (perform machine output request invocation) := by
  have possible := wrong_or_help_or_orders machine.content invocation
  constructor
  case idle =>
    rcases possible with wrong | ⟨program, asks⟩ | ⟨arguments, configuration, orders⟩
    · rcases perform_of_isWrong machine request output wrong with ⟨idle, silent, _⟩
      exact ⟨idle, silent⟩
    · rw [perform_of_closed closed asks]
      exact ⟨rfl, rfl⟩
    · rw [perform_of_orders machine output request orders, configured_of_closed closed]
      exact ⟨rfl, rfl⟩
  case failed =>
    intro unasked
    rcases possible with wrong | asks | ⟨arguments, configuration, orders⟩
    · exact (perform_of_isWrong machine request output wrong).2.2
    · exact absurd asks unasked
    · rw [perform_of_orders machine output request orders, configured_of_closed closed]
      rfl
  case aborted =>
    rintro ⟨program, asks⟩
    simp only [perform_of_closed closed asks, and_self]
  case reported =>
    intro arguments configuration orders
    rw [perform_of_orders machine output request orders, configured_of_closed closed]
    rfl

theorem fullDevice_isStopped :
    let host : Host := { tools := [(Word.ofString "pros", {})] }
    let output : Output := { room := some 0, refusal := .noSpace }
    let invocation := ⟨Word.ofString "pros-runner", [Word.ofString "out.elf", Word.ofString "-v"]⟩
    output.room = some 0 ∧
      IsStopped host.machine output [] invocation (perform host.machine output [] invocation) :=
  ⟨rfl, perform_isStopped rfl _⟩

/-- On it, a wish for help does not end like other failures. -/
theorem fullDevice_help_status :
    let host : Host := {}
    let output : Output := { room := some 0, refusal := .noSpace }
    let invocation := ⟨Word.ofString "pros-runner", [Word.ofString "--help"]⟩
    let seen := perform host.machine output [] invocation
    seen.status = 101 ∧ seen.status ≠ 1 ∧
      seen.errors = Word.ofString (host.abortSite.report
        "failed printing to stdout: No space left on device (os error 28)") := by
  intro host output invocation seen
  have parsed : Arguments.parse ["--help"] = .error .help := by decide +kernel
  have asks : AsksForHelp invocation "pros-runner" := ⟨["--help"], ⟨rfl, rfl⟩, parsed⟩
  have closed : output.room = some 0 := rfl
  have aborted : seen = _ := perform_of_closed closed asks
  have report : "failed printing to stdout: " ++ output.refusal.message =
      "failed printing to stdout: No space left on device (os error 28)" := by decide +kernel
  have site : host.machine.abortSite = host.abortSite := rfl
  simp only [aborted, report, site, and_true]
  decide

end

end Invocation

end UploadRunner
