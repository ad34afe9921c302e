import UploadRunner.Log.Journal

/-! What is written around a journal: the warnings it was opened with, and then, remark by remark,
what tools show and the texts of the records that the filter of the journal admits. -/

namespace UploadRunner.Log

/-- What comes to the place of a journal: a record, which may not pass, or what a tool shows. -/
inductive Remark
  | logged (record : Record)
  | shown (word : Word)
  deriving DecidableEq, Repr

namespace Remark

def word : Remark → Word
  | logged record => Word.ofString record.text
  | shown word => word

def record? : Remark → Option Record
  | logged record => some record
  | shown _ => none

def passes (admits : Record → Bool) : Remark → Bool
  | logged record => admits record
  | shown _ => true

end Remark

def written (admits : Record → Bool) (remarks : List Remark) : Word :=
  (remarks.filter (Remark.passes admits)).flatMap Remark.word

def writtenUnder (request : Text) (remarks : List Remark) : Word :=
  Word.ofString (String.join (warnings request)) ++ written (Filter.ofText request).admits remarks

theorem written_append (admits : Record → Bool) (first second : List Remark) :
    written admits (first ++ second) = written admits first ++ written admits second := by
  rw [written, List.filter_append, List.flatMap_append]
  rfl

theorem written_cons (admits : Record → Bool) (remark : Remark) (remarks : List Remark) :
    written admits (remark :: remarks) =
      (if remark.passes admits then remark.word else []) ++ written admits remarks := by
  rw [written, List.filter_cons]
  split
  · rfl
  · rfl

def records (remarks : List Remark) : List Record :=
  remarks.filterMap Remark.record?

theorem written_of_silent (admits : Record → Bool) {remarks : List Remark}
    (silent : ∀ word, .shown word ∈ remarks → word = []) :
    written admits remarks =
      Word.ofString (String.join (((records remarks).filter admits).map Record.text)) := by
  induction remarks with
  | nil => rfl
  | cons remark remarks induction =>
      have others := induction fun word member => silent word (List.mem_cons_of_mem remark member)
      rw [written_cons, others]
      cases remark with
      | logged record =>
          have first : records (.logged record :: remarks) = record :: records remarks := rfl
          rw [first, List.filter_cons, Remark.passes, Remark.word]
          split
          · rw [List.map_cons, String.join_cons, Word.ofString_append]
          · rfl
      | shown word =>
          rw [Remark.word, silent word List.mem_cons_self]
          rfl

namespace Journal

def note (journal : Journal) : Remark → Journal
  | .logged record => journal.add record
  | .shown word => journal.write word

theorem note_eq (journal : Journal) (remark : Remark) :
    journal.note remark = journal.write (Log.written journal.filter.admits [remark]) := by
  rw [written_cons]
  cases remark with
  | logged record =>
      rw [note, add, Remark.passes, Remark.word]
      split
      · exact congrArg journal.write (List.append_nil _).symm
      · exact congrArg (Journal.mk journal.filter) (List.append_nil _).symm
  | shown word => exact congrArg journal.write (List.append_nil _).symm

theorem write_write (journal : Journal) (first second : Word) :
    (journal.write first).write second = journal.write (first ++ second) :=
  congrArg (Journal.mk journal.filter) (List.append_assoc _ _ _)

theorem foldl_note (remarks : List Remark) (journal : Journal) :
    remarks.foldl note journal =
      journal.write (Log.written journal.filter.admits remarks) := by
  induction remarks generalizing journal with
  | nil => exact congrArg (Journal.mk journal.filter) (List.append_nil _).symm
  | cons remark remarks induction =>
      have split : Log.written journal.filter.admits (remark :: remarks) =
          Log.written journal.filter.admits [remark] ++
            Log.written journal.filter.admits remarks :=
        written_append _ [remark] remarks
      rw [List.foldl_cons, induction, note_eq, split, ← write_write]
      rfl

/-- A journal that is opened under a request holds what the request leaves of the remarks that
come to it. -/
theorem written_opened (request : Text) (remarks : List Remark) :
    (remarks.foldl note (opened request)).written = writtenUnder request remarks := by
  rw [foldl_note]
  rfl

theorem foldl_add (records : List Record) (journal : Journal) :
    records.foldl add journal = (records.map .logged).foldl note journal := by
  rw [List.foldl_map]
  rfl

end Journal

end UploadRunner.Log
