import UploadRunner.Text.Utf8

/-! Text without terminal control sequences.

An escape character begins a sequence that a terminal obeys instead of showing it. A
stream that is no terminal gets the text without such sequences and without control
characters, except those that are blanks.

A blank control character inside a sequence is shown, and so is the text behind it up
to the next control character. There the sequence goes on, unless that text has ended
it with a character beyond ASCII. -/

namespace UploadRunner.ControlSequences

inductive State
  | ground
  | escape
  | intermediate
  | control
  | command
  | device
  | deviceParameter
  | deviceIntermediate
  | string
  deriving DecidableEq, Repr

def afterEscape (byte : UInt8) : State :=
  if byte < 0x20 then .escape
  else if byte < 0x30 then .intermediate
  else if byte = 0x50 then .device
  else if byte = 0x5B then .control
  else if byte = 0x5D then .command
  else if byte = 0x58 ∨ byte = 0x5E ∨ byte = 0x5F then .string
  else if byte < 0x7F then .ground
  else .escape

/-- The state behind a byte of a sequence that the bytes from `least` up to `~`
end. -/
def endedFrom (least byte : UInt8) (state next : State) : State :=
  if least ≤ byte ∧ byte < 0x7F then next else state

/-- The state behind a byte. An escape character begins a sequence anywhere, and a
cancel or a substitute character ends any. -/
def State.next (state : State) (byte : UInt8) : State :=
  if byte = 0x1B then .escape
  else if byte = 0x18 ∨ byte = 0x1A then .ground
  else
    match state with
    | .ground => .ground
    | .escape => afterEscape byte
    | .intermediate => endedFrom 0x30 byte .intermediate .ground
    | .control => endedFrom 0x40 byte .control .ground
    | .command => if byte = 0x07 then .ground else .command
    | .device =>
        if 0x20 ≤ byte ∧ byte < 0x30 then .deviceIntermediate
        else if 0x30 ≤ byte ∧ byte < 0x40 then .deviceParameter
        else endedFrom 0x40 byte .device .string
    | .deviceParameter =>
        if 0x20 ≤ byte ∧ byte < 0x30 then .deviceIntermediate
        else endedFrom 0x3C byte .deviceParameter .string
    | .deviceIntermediate => endedFrom 0x30 byte .deviceIntermediate .string
    | .string => if byte = 0x9C then .ground else .string

/-- Whether control characters take effect inside a sequence instead of belonging to
it. -/
def State.obeys : State → Bool
  | .ground | .escape | .intermediate | .control => true
  | _ => false

def isBlankControl (character : Char) : Bool :=
  character = '\t' || character = '\n' || character = '\x0c' || character = '\r'

def isPlain (character : Char) : Bool :=
  isBlankControl character || (0x20 ≤ character.toNat && character.toNat ≠ 0x7F)

def State.shows (state : State) (character : Char) : Bool :=
  if isBlankControl character then state.obeys
  else state = .ground && isPlain character

def State.behind (state : State) (character : Char) : State :=
  (String.utf8EncodeChar character).foldl State.next state

/-- Something that reads text: where it stands, and whether it shows what it reads or
passes over it. -/
structure Reader where
  state : State := .ground
  isShowing : Bool := false
  deriving DecidableEq, Repr

def Reader.shows (reader : Reader) (character : Char) : Bool :=
  reader.state.shows character || (reader.isShowing && isPlain character)

def Reader.behindShown (reader : Reader) (character : Char) : Reader where
  state := if character.toNat < 0x80 then reader.state else .ground
  isShowing := true

def Reader.behindPassed (reader : Reader) (character : Char) : Reader where
  state := reader.state.behind character
  isShowing := false

def Reader.shown (reader : Reader) : Text → Text
  | [] => []
  | character :: rest =>
      if reader.shows character then character :: (reader.behindShown character).shown rest
      else (reader.behindPassed character).shown rest

def strip (text : Text) : Text :=
  Reader.shown {} text

example : strip "a\x00b\tc".toList = "ab\tc".toList := by decide +kernel

example : strip "\x1b[1;31mred\x1b[0m".toList = "red".toList := by decide +kernel

/-- A tab inside a sequence shows the text behind it up to the bell. There the sequence
goes on, and ends with the next letter. -/
example : strip "\x1b[\t31\x07mZ".toList = "\t31Z".toList := by decide +kernel

example : strip "\x1b]0;title\x07é".toList = "é".toList := by decide +kernel

end UploadRunner.ControlSequences
