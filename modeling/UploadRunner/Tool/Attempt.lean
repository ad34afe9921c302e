import UploadRunner.Tool.Command
import UploadRunner.Tool.Outcome

/-! Attempts to run a command.

The system starts a process for a command, unless it refuses to, and tells how the process ended
once it has been waited for. -/

namespace UploadRunner

/-- How a process ended. The system puts a code into a byte, and a signal into seven bits of
one. -/
inductive ExitStatus
  | exited (code : UInt8)
  | killed (signal : Fin 128) (isSignal : 0 < signal.val)
  deriving DecidableEq, Repr

namespace ExitStatus

def signal? : ExitStatus → Option Int
  | exited _ => none
  | killed signal _ => some signal.val

def code? : ExitStatus → Option Int
  | exited code => some code.toNat
  | killed _ _ => none

def outcome (status : ExitStatus) : Outcome :=
  match status.signal? with
  | some signal => .signaled signal
  | none => .exited status.code?

end ExitStatus

structure Shown where
  output : Word := []
  errors : Word := []
  deriving DecidableEq, Repr

inductive Attempt
  | notStarted (fault : IoFault)
  /-- There is a process, but its end cannot be learned. -/
  | notAwaited (fault : IoFault) (shown : Shown)
  | ended (status : ExitStatus) (shown : Shown)
  deriving DecidableEq, Repr

structure Reply where
  outcome : Outcome
  shown : Word := []
  errors : Word := []
  deriving DecidableEq, Repr

namespace Attempt

def outcome (command : Command) : Attempt → Outcome
  | notStarted fault => .failed ⟨.io fault, [.startingTool command.program]⟩
  | notAwaited fault _ => .failed ⟨.io fault, [.awaitingTool command.program]⟩
  | ended status _ => status.outcome

def shown : Attempt → Shown
  | notStarted _ => {}
  | notAwaited _ shown => shown
  | ended _ shown => shown

def reply (attempt : Attempt) (command : Command) : Reply where
  outcome := attempt.outcome command
  shown := attempt.shown.output
  errors := attempt.shown.errors

example :
    let attempt := notAwaited (.reported "gone") {}
    (attempt.reply ⟨Word.ofString "pros", []⟩).outcome.description =
      "Failed(Failed to wait for `pros` to complete.\n\nCaused by:\n    gone)" := by
  decide +kernel

end Attempt

end UploadRunner
