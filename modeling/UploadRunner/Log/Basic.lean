import UploadRunner.Text.ControlSequences

/-! The log of a run. -/

namespace UploadRunner

namespace Log

inductive Level
  | error
  | warn
  | info
  | debug
  | trace
  deriving DecidableEq, Repr

/-- The rank of a level. A limit admits the ranks up to its own. -/
def Level.rank : Level → Nat
  | .error => 1
  | .warn => 2
  | .info => 3
  | .debug => 4
  | .trace => 5

inductive Origin
  | runner
  | pipeline
  deriving DecidableEq, Repr

def Origin.name : Origin → String
  | .runner => "pros_runner"
  | .pipeline => "pros_runner::pipeline"

structure Record where
  level : Level
  origin : Origin
  message : String
  deriving DecidableEq, Repr

def Level.mark : Level → String
  | .error => "[E] "
  | .warn => "[W] "
  | .info => "[*] "
  | .debug => "[D] "
  | .trace => "[T] "

def continuation : Text :=
  ['\n', ' ', '|', ' ', ' ']

def Record.text (record : Record) : String :=
  let message := record.message.toList.flatMap fun character =>
    if character = '\n' then continuation else [character]
  String.ofList
    (ControlSequences.strip (record.level.mark.toList ++ message ++ ['\n']))

example : (Record.mk .error .runner "one\ntwo").text = "[E] one\n |  two\n" := by
  decide +kernel

end Log

end UploadRunner
