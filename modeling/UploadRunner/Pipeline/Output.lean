import UploadRunner.Fault

/-! Outputs that may refuse what they are given.

An output accepts a number of bytes in all, or any number. A write is cut short
where the room ends and refused behind it. One flush, counted from the first, may be
refused; every other one passes on all that has been accepted. -/

namespace UploadRunner

structure Output where
  room : Option Nat := none
  refusal : IoFault := .outputFull
  /-- The number of the flush that it refuses. -/
  refusedFlush : Option Nat := none
  flushes : Nat := 0
  /-- The number of bytes accepted since the last flush that was not refused. -/
  unflushed : Nat := 0
  deriving DecidableEq, Repr

namespace Output

def accepted (output : Output) (word : Word) : Word :=
  match output.room with
  | none => word
  | some room => word.take room

def hasRoom (output : Output) (word : Word) : Bool :=
  match output.room with
  | none => true
  | some room => word.length ≤ room

def afterWrite (output : Output) (word : Word) : Output :=
  { output with
    room := output.room.map (· - word.length)
    unflushed := output.unflushed + (output.accepted word).length }

def refusesFlush (output : Output) : Bool :=
  output.refusedFlush = some (output.flushes + 1)

def afterFlush (output : Output) : Output :=
  { output with
    flushes := output.flushes + 1
    unflushed := if output.refusesFlush then output.unflushed else 0 }

end Output

/-! ## Writing -/

/-- What has been written: the bytes that were accepted, the output behind them, and
the fault that ended it. -/
structure Writing where
  accepted : Word
  output : Output
  fault : Option Fault := none
  deriving DecidableEq, Repr

namespace Writing

def start (output : Output) : Writing where
  accepted := []
  output := output

def write (writing : Writing) (context : Context) (word : Word) : Writing :=
  match writing.fault with
  | some _ => writing
  | none =>
      { accepted := writing.accepted ++ writing.output.accepted word
        output := writing.output.afterWrite word
        fault :=
          if writing.output.hasRoom word then none
          else some ⟨.io writing.output.refusal, [context]⟩ }

def flush (writing : Writing) : Writing :=
  match writing.fault with
  | some _ => writing
  | none =>
      { writing with
        output := writing.output.afterFlush
        fault :=
          if writing.output.refusesFlush then some ⟨.io .flushRefused, [.flushingOutput]⟩
          else none }

end Writing

example : (Writing.start { room := some 4 }).write .writingProgress [1, 2, 3, 4, 5] =
    { accepted := [1, 2, 3, 4]
      output := { room := some 0, unflushed := 4 }
      fault := some ⟨.io .outputFull, [.writingProgress]⟩ } := by
  decide

end UploadRunner
