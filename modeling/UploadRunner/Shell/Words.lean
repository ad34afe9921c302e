import UploadRunner.Shell.Quoting

/-! The words that a POSIX shell reads from a line.

Unquoted blanks separate words, single quotes keep everything up to the next single
quote, an unquoted backslash keeps the next character, and adjacent parts join into
one word. -/

namespace UploadRunner.Shell

/-- Where a reader stands in a line. Inside a word it holds the characters read so
far, the last one first. -/
inductive Reading
  | between
  | inWord (reversed : Text)
  | inQuotes (reversed : Text)
  | afterBackslash (reversed : Text)
  deriving DecidableEq, Repr

def isBlank (character : Char) : Bool :=
  character = ' ' || character = '\t'

def Reading.continueWord (reversed : Text) (character : Char) : Reading :=
  if character = '\'' then .inQuotes reversed
  else if character = '\\' then .afterBackslash reversed
  else .inWord (character :: reversed)

/-- The words of the rest of a line, unless it ends inside quotes or after a
backslash. -/
def splitFrom : Reading → Text → Option (List Text)
  | .between, [] => some []
  | .inWord reversed, [] => some [reversed.reverse]
  | .inQuotes _, [] => none
  | .afterBackslash _, [] => none
  | .between, character :: rest =>
      if isBlank character then splitFrom .between rest
      else splitFrom (.continueWord [] character) rest
  | .inWord reversed, character :: rest =>
      if isBlank character then (splitFrom .between rest).map (reversed.reverse :: ·)
      else splitFrom (.continueWord reversed character) rest
  | .inQuotes reversed, character :: rest =>
      if character = '\'' then splitFrom (.inWord reversed) rest
      else splitFrom (.inQuotes (character :: reversed)) rest
  | .afterBackslash reversed, character :: rest =>
      splitFrom (.inWord (character :: reversed)) rest

def split (line : Text) : Option (List Text) :=
  splitFrom .between line

/-- Leaving the quotes for an escaped quote does not end the word. -/
example : split "pros 'it'\\''s'  ''".toList =
    some ["pros".toList, "it's".toList, []] := by decide

example : split "a 'b".toList = none := by decide

end UploadRunner.Shell
