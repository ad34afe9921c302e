import UploadRunner.Fault
import UploadRunner.Text.Numeral

/-! What became of a tool. -/

namespace UploadRunner

inductive Outcome
  /-- The tool ran to its end. Some systems report no code. -/
  | exited (code : Option Int)
  | signaled (signal : Int)
  | failed (fault : Fault)
  deriving DecidableEq, Repr

namespace Outcome

def isSuccess : Outcome → Bool
  | .exited (some 0) => true
  | _ => false

/-- The code that reports the outcome of the last tool, chosen as a shell chooses
it. -/
def exitCode : Outcome → Int
  | .exited (some code) => code
  | .exited none => 1
  | .signaled signal => 128 + signal
  | .failed _ => 127

def description : Outcome → String
  | .exited (some code) => "Exited(Some(" ++ Numeral.integer code ++ "))"
  | .exited none => "Exited(None)"
  | .signaled signal => "Signaled(" ++ Numeral.integer signal ++ ")"
  | .failed fault => "Failed(" ++ fault.report ++ ")"

example : (Outcome.signaled 15).exitCode = 143 := by decide

example : (Outcome.exited (some (-1))).description = "Exited(Some(-1))" := by decide +kernel

end Outcome

end UploadRunner
