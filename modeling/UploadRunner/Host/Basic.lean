import UploadRunner.Host.Files
import UploadRunner.Host.Machine

/-! A machine with tools that stand in for real ones.

A host has files, tools on its search path, and an input of which its tools may read lines. -/

namespace UploadRunner

structure Host where
  files : Files := {}
  tools : List (Word × Tool) := []
  input : Word := []
  abortSite : AbortSite := ⟨1, "help"⟩
  deriving DecidableEq, Repr

namespace Host

def execute (tool : Tool) : Except IoFault Tool :=
  if tool.isExecutable then .ok tool else .error .permissionDenied

/-- Find a program. One whose name has a slash is a path; any other is looked for among the
tools, where two names stand for directories. -/
def locate (host : Host) (program : Word) : Except IoFault Tool :=
  if program.contains Files.slash then
    match host.files.find program with
    | .error fault => .error fault
    | .ok (.leaf (.program _ tool)) => execute tool
    | .ok _ => .error .permissionDenied
  else if program = Files.here ∨ program = Files.above then .error .permissionDenied
  else if Files.longestName < program.length then .error .nameTooLong
  else
    match host.tools.lookup program with
    | none => .error .notFound
    | some tool => execute tool

def start (host : Host) (command : Command) (input : Word) : Attempt × Word :=
  match host.locate command.program with
  | .ok tool => tool.run command input
  | .error fault => (.notStarted fault, input)

/-- The machine that a host is. Its state is what is left of the input, and no tool looks at what
is asked for of the log. -/
def machine (host : Host) : Machine Word where
  read := host.files.read
  start := fun _ => host.start
  state := host.input
  abortSite := host.abortSite

end Host

end UploadRunner
