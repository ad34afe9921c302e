import UploadRunner.Log.Filter
import UploadRunner.Text.Utf8

/-! Logs that are written while something runs.

What is to be logged is decided when a journal is opened. From then on every record is
written at once, or never. Tools write to the same place. -/

namespace UploadRunner.Log

structure Journal where
  filter : Filter
  written : Word
  deriving DecidableEq, Repr

namespace Journal

def opened (request : Text) : Journal where
  filter := Filter.ofText request
  written := Word.ofString (String.join (warnings request))

def write (journal : Journal) (word : Word) : Journal :=
  { journal with written := journal.written ++ word }

def add (journal : Journal) (record : Record) : Journal :=
  if journal.filter.admits record then journal.write (Word.ofString record.text) else journal

example : (((opened "warn".toList).add ⟨.info, .runner, "one"⟩).add
    ⟨.warn, .runner, "two"⟩).written =
    Word.ofString "[W] two\n" := by
  decide +kernel

end Journal

end UploadRunner.Log
