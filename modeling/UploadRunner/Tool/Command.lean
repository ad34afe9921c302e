import UploadRunner.Shell.Quoting
import UploadRunner.Text.Quoted

/-! Commands: a program and the arguments it is started with, never read by a shell. -/

namespace UploadRunner

structure Command where
  program : Word
  arguments : List Word := []
  deriving DecidableEq, Repr

namespace Command

def argument (command : Command) (word : Word) : Command :=
  { command with arguments := command.arguments ++ [word] }

def extend (command : Command) (words : List Word) : Command :=
  { command with arguments := command.arguments ++ words }

def words (command : Command) : List Word :=
  command.program :: command.arguments

@[simp] theorem arguments_argument (command : Command) (word : Word) :
    (command.argument word).arguments = command.arguments ++ [word] := rfl

@[simp] theorem arguments_extend (command : Command) (words : List Word) :
    (command.extend words).arguments = command.arguments ++ words := rfl

def line (command : Command) : Text :=
  Shell.line (Word.lossy command.program) (command.arguments.map Word.lossy)

def description (command : Command) : String :=
  "ToolCommand \x7b program: " ++ Quoted.ofWord command.program ++ ", args: [" ++
    ", ".intercalate (command.arguments.map Quoted.ofWord) ++ "] \x7d"

example : (Command.mk (Word.ofString "pros") [Word.ofString "a b"]).description =
    "ToolCommand \x7b program: \"pros\", args: [\"a b\"] \x7d" := by
  decide +kernel

/-! ## NUL bytes

The system takes words that end at their first NUL byte, so that a word which holds
one cannot be handed to it. -/

def isPassable (word : Word) : Bool :=
  !word.contains 0

/-- What stands in place of a word that cannot be handed to the system. -/
def placeholder : Word :=
  Word.ofString "<string-with-nul>"

def passed (word : Word) : Word :=
  if isPassable word then word else placeholder

def prepared (command : Command) : Command where
  program := passed command.program
  arguments := command.arguments.map passed

def canStart (command : Command) : Bool :=
  command.words.all isPassable

end Command

end UploadRunner
