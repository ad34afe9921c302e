import UploadRunner.Tool.Attempt

/-! The tools that stand in for those of a real machine.

A tool shows its name and its arguments, then the line that it reads if it reads one, and
ends. -/

namespace UploadRunner

inductive Ending
  | exits (code : UInt8)
  | killed (signal : Fin 128)
  deriving DecidableEq, Repr

structure Tool where
  isExecutable : Bool := true
  readsLine : Bool := false
  ending : Ending := .exits 0
  deriving DecidableEq, Repr

namespace Tool

/-- The signals that end no program which does nothing about them: none at all, a child
that has ended, a request to go on, urgent data, and a change of the window. -/
def harmlessSignals : List Nat :=
  [0, 17, 18, 23, 28]

theorem pos_of_harmful {signal : Nat} (harmful : signal ∉ harmlessSignals) : 0 < signal := by
  apply Nat.pos_of_ne_zero
  intro isZero
  apply harmful
  rw [isZero]
  exact List.mem_cons_self

/-- How a tool ends. One that sends itself a harmless signal comes to its end behind it. -/
def status (tool : Tool) : ExitStatus :=
  match tool.ending with
  | .exits code => .exited code
  | .killed signal =>
      if harmful : signal.val ∉ harmlessSignals then .killed signal (pos_of_harmful harmful)
      else .exited 0

def lineFeed : UInt8 := 0x0A

/-- The next line of an input and the rest of it. What is not ended is no line, and
is used up by looking for one. -/
def takeLine (input : Word) : Option Word × Word :=
  if input.contains lineFeed then
    (some (input.takeWhile (· ≠ lineFeed)), (input.dropWhile (· ≠ lineFeed)).drop 1)
  else (none, [])

example : takeLine (Word.ofString "one\ntwo") =
    (some (Word.ofString "one"), Word.ofString "two") := by
  decide +kernel

def bracketed (word : Word) : Word :=
  Word.ofString "<" ++ word ++ Word.ofString ">"

def greeting (name : Word) (arguments : List Word) : Word :=
  Word.ofString "tool " ++ name ++ Word.ofString "\n" ++
    arguments.flatMap fun argument =>
      Word.ofString "  " ++ bracketed argument ++ Word.ofString "\n"

def echo : Option Word → Word
  | some line => Word.ofString "  stdin " ++ bracketed line ++ Word.ofString "\n"
  | none => Word.ofString "  stdin eof\n"

def act (tool : Tool) (command : Command) (line : Option Word) : Attempt :=
  let echoed := if tool.readsLine then echo line else []
  .ended tool.status { output := greeting command.program command.arguments ++ echoed }

def run (tool : Tool) (command : Command) (input : Word) : Attempt × Word :=
  if tool.readsLine then
    let (line, rest) := takeLine input
    (tool.act command line, rest)
  else (tool.act command none, input)

end Tool

end UploadRunner
