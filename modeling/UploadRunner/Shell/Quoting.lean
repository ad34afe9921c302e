import UploadRunner.Text.Utf8

/-! Command lines as they would be typed into a POSIX shell.

A word made of harmless characters is written as it is. Any other word, the empty
one included, stands between single quotes; a single quote inside it leaves the
quotes, is escaped by a backslash, and enters them again. -/

namespace UploadRunner.Shell

def isPlain (character : Char) : Bool :=
  character.isAlphanum || ['-', '_', '.', '/', '=', ':', ',', '+', '@', '%'].contains character

def quoteCharacter (character : Char) : Text :=
  if character = '\'' then ['\'', '\\', '\'', '\''] else [character]

def quote (word : Text) : Text :=
  if !word.isEmpty && word.all isPlain then word
  else '\'' :: word.flatMap quoteCharacter ++ ['\'']

/-- A program and its arguments as they are typed, one space before each argument. -/
def line (program : Text) (arguments : List Text) : Text :=
  quote program ++ arguments.flatMap fun argument => ' ' :: quote argument

example : quote "build/out.elf".toList = "build/out.elf".toList := by decide

example : quote [] = ['\'', '\''] := rfl

example : line "pros".toList ["it's".toList, []] = "pros 'it'\\''s' ''".toList := by decide

end UploadRunner.Shell
