import UploadRunner.Pipeline.Run

/-! What an invocation needs from the machine that it runs on.

A machine reads files and starts processes. Either may use something up, so that both leave the
machine in a state of its own: what is read of a standard input, under whatever name, is not there
for the tools any more. -/

namespace UploadRunner

/-- Where the program is aborted when it cannot even write its help: a thread, and a place in its
runtime. -/
structure AbortSite where
  thread : Nat
  place : String
  deriving DecidableEq, Repr

def AbortSite.report (site : AbortSite) (reason : String) : String :=
  "\nthread 'main' (" ++ Numeral.natural site.thread ++ ") panicked at " ++ site.place ++ ":\n" ++
    reason ++
    "\nnote: run with `RUST_BACKTRACE=1` environment variable to display a backtrace\n"

structure Machine (State : Type) where
  read : Word → State → Except IoFault Word × State
  /-- Start a process and wait for it. It inherits what is asked for of the log. -/
  start : Text → Command → State → Attempt × State
  state : State
  abortSite : AbortSite

namespace Machine

variable {State : Type} (machine : Machine State)

/-- Attempt to run a command. The system is not bothered with one that it could not take. -/
def attempt (request : Text) (command : Command) (state : State) : Attempt × State :=
  if command.canStart then machine.start request command state
  else (.notStarted .nulInCommand, state)

def runner (request : Text) : Runner State := fun command state =>
  let (attempt, state) := machine.attempt request command state
  (attempt.reply command, state)

def content (path : Word) : Except IoFault Word :=
  (machine.read path machine.state).1

def stateBehind : Option String → State
  | none => machine.state
  | some path => (machine.read (Word.ofString path) machine.state).2

end Machine

end UploadRunner
