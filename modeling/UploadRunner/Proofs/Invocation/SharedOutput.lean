import UploadRunner.Proofs.Host.StandardInput
import UploadRunner.Proofs.Invocation.Readings
import UploadRunner.Proofs.Pipeline.OpenOutput

/-! What an invocation and its tools share.

They write to one output, on which nothing comes too late. The tools read one input, of which the
invocation takes nothing, unless its configuration is read from there. -/

namespace UploadRunner

theorem Attempt.eq_notStarted {attempt : Attempt} {command : Command} {cause : Cause}
    {program : Word} (failed : attempt.outcome command = .failed ⟨cause, [.startingTool program]⟩) :
    ∃ fault, attempt = .notStarted fault := by
  cases attempt with
  | notStarted fault => exact ⟨fault, rfl⟩
  | notAwaited fault shown => cases failed
  | ended status shown => cases status <;> cases failed

namespace Invocation

/-- How an invocation and the tools of a machine use what they share, when the invocation orders
a run on an output that accepts everything. -/
structure IsShared {State : Type} (machine : Machine State) (request : Text)
    (arguments : Arguments) (configuration : Configuration) (seen : Appearance) : Prop where
  steps : seen.executions.map Execution.step =
    Pipeline.steps (Word.ofString arguments.artifact) configuration
  output : seen.output = seen.executions.flatMap fun execution =>
    execution.step.announcement arguments.isVerbose ++ execution.reply.shown
  /-- This holds also where what is written arrives only once it is flushed. -/
  arrivals : arrivals [] seen.executions = seen.output
  /-- Nothing is done to the machine between two commands, and nothing before the first one but
  the loading of the configuration. -/
  handed : seen.executions.map Execution.reply =
    (machine.runner request).replies (seen.executions.map (·.step.command))
      (machine.stateBehind arguments.configuration)
  refused : ∀ execution ∈ seen.executions, ∀ fault,
    execution.reply.outcome = .failed ⟨.io fault, [.startingTool execution.step.command.program]⟩ →
      execution.reply.shown = []
  started : ∀ execution ∈ seen.executions,
    (∀ fault, execution.reply.outcome ≠
      .failed ⟨.io fault, [.startingTool execution.step.command.program]⟩) →
        execution.step.command.prepared = execution.step.command ∧
          ∃ state, execution.reply =
            (machine.start request execution.step.command state).1.reply execution.step.command
  /-- The tools that read a line have the lines of the input, in order, unless the configuration
  is read from it. -/
  lines : ∀ input : machine.LineInput request,
    (∀ path, arguments.configuration = some path →
      input.isInput (Word.ofString path) = false) →
    ∀ (index : Nat) (execution : Execution),
      (seen.executions.filter fun execution => input.reads execution.step.command)[index]? =
        some execution →
      execution.reply = (input.act execution.step.command
        (Tool.lines (input.left machine.state))[index]?).reply execution.step.command
  /-- If it is, nothing is left for them. -/
  usedUp : ∀ (input : machine.LineInput request) (path : String),
    arguments.configuration = some path → input.isInput (Word.ofString path) = true →
    ∀ execution ∈ seen.executions, input.reads execution.step.command = true →
      execution.reply = (input.act execution.step.command none).reply execution.step.command

section

variable {State : Type} {machine : Machine State} {request : Text}

theorem reply_of_usedUp (input : machine.LineInput request) {executions : List Execution}
    {state : State} (nothing : Tool.lines (input.left state) = [])
    (replied : executions.map Execution.reply =
      (machine.runner request).replies (executions.map (·.step.command)) state)
    {execution : Execution} (member : execution ∈ executions)
    (reads : input.reads execution.step.command = true) :
    execution.reply = (input.act execution.step.command none).reply execution.step.command := by
  have isReader : execution ∈
      executions.filter fun execution => input.reads execution.step.command :=
    List.mem_filter.mpr ⟨member, reads⟩
  rcases List.mem_iff_getElem?.mp isReader with ⟨index, found⟩
  have answer := input.replies_lines replied found
  rw [nothing, List.getElem?_nil] at answer
  exact answer

end

def readingHost : Host where
  tools :=
    [(Word.ofString "objcopy", { readsLine := true, ending := .killed 9 }),
      (Word.ofString "pros", { readsLine := true })]
  files := Files.adding {} (Word.ofString "c.json")
    (.file (Word.ofString "\x7b\"objcopy\": \"objcopy\", \"strip_symbols\": [\"main\"]\x7d"))
  input := Word.ofString "one\ntwo\nthree"

end Invocation

end UploadRunner
