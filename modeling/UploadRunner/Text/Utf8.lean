/-! Words and their UTF-8 text.

File names, program arguments and standard output are words: any bytes at all.
Text is what a reader sees of them. `Utf8.pieces` cuts a word into the characters
it encodes and the ill-formed sequences between them; strict decoding accepts a
word that has no ill-formed piece, and lossy decoding shows each such piece as one
replacement character. -/

namespace UploadRunner

abbrev Word := List UInt8

abbrev Text := List Char

namespace Utf8

/-! ## Pieces -/

/-- A part of a word: an encoded character, or a longest run of bytes that begins
like one and cannot be completed. -/
inductive Piece
  | character (value : Char)
  | illFormed (bytes : Word)
  deriving DecidableEq, Repr

structure Pending where
  bytes : Word
  value : Nat
  /-- How many bytes follow the next one. -/
  remaining : Nat
  low : UInt8
  high : UInt8
  deriving DecidableEq, Repr

/-- Read one byte between two characters. The ranges of the second byte rule out
overlong forms, surrogates and values above U+10FFFF. -/
def enter (byte : UInt8) : List Piece × Option Pending :=
  if byte < 0x80 then
    ([.character (Char.ofNat byte.toNat)], none)
  else if byte < 0xC2 then
    ([.illFormed [byte]], none)
  else if byte < 0xE0 then
    ([], some ⟨[byte], byte.toNat - 0xC0, 0, 0x80, 0xBF⟩)
  else if byte < 0xF0 then
    ([], some ⟨[byte], byte.toNat - 0xE0, 1,
      if byte = 0xE0 then 0xA0 else 0x80, if byte = 0xED then 0x9F else 0xBF⟩)
  else if byte < 0xF5 then
    ([], some ⟨[byte], byte.toNat - 0xF0, 2,
      if byte = 0xF0 then 0x90 else 0x80, if byte = 0xF4 then 0x8F else 0xBF⟩)
  else
    ([.illFormed [byte]], none)

/-- Read one byte: the pieces that it completes, and what is pending after it. A
byte that a pending character does not admit ends it and is read afresh. -/
def step (pending : Option Pending) (byte : UInt8) : List Piece × Option Pending :=
  match pending with
  | none => enter byte
  | some begun =>
      if begun.low ≤ byte ∧ byte ≤ begun.high then
        let value := begun.value * 64 + (byte.toNat - 0x80)
        match begun.remaining with
        | 0 => ([.character (Char.ofNat value)], none)
        | remaining + 1 =>
            ([], some ⟨begun.bytes ++ [byte], value, remaining, 0x80, 0xBF⟩)
      else
        let (completed, next) := enter byte
        (.illFormed begun.bytes :: completed, next)

def piecesFrom (pending : Option Pending) : Word → List Piece
  | [] => (pending.map (Piece.illFormed ·.bytes)).toList
  | byte :: rest =>
      let (completed, next) := step pending byte
      completed ++ piecesFrom next rest

def pieces (word : Word) : List Piece :=
  piecesFrom none word

/-- `C3 A9` encodes one character; `E2 82` lacks its last byte and is one piece;
`FF` begins nothing. -/
example : pieces [0xC3, 0xA9, 0xE2, 0x82, 0xFF, 0x41] =
    [.character 'é', .illFormed [0xE2, 0x82], .illFormed [0xFF], .character 'A'] := by
  decide

namespace Piece

def bytes : Piece → Word
  | .character value => String.utf8EncodeChar value
  | .illFormed bytes => bytes

def shown : Piece → Char
  | .character value => value
  | .illFormed _ => '\uFFFD'

def character? : Piece → Option Char
  | .character value => some value
  | .illFormed _ => none

end Piece

end Utf8

/-! ## Decoding and encoding -/

namespace Word

def ofText (text : Text) : Word :=
  text.flatMap String.utf8EncodeChar

def ofString (string : String) : Word :=
  ofText string.toList

/-- The text of a word, with U+FFFD for each ill-formed sequence. -/
def lossy (word : Word) : Text :=
  (Utf8.pieces word).map Utf8.Piece.shown

def text? (word : Word) : Option Text :=
  (Utf8.pieces word).mapM Utf8.Piece.character?

def wellFormedLength (word : Word) : Nat :=
  (((Utf8.pieces word).takeWhile (·.character?.isSome)).flatMap Utf8.Piece.bytes).length

@[simp] theorem ofText_nil : ofText [] = [] := rfl

@[simp] theorem ofText_append (left right : Text) :
    ofText (left ++ right) = ofText left ++ ofText right := by
  simp [ofText]

@[simp] theorem ofString_append (left right : String) :
    ofString (left ++ right) = ofString left ++ ofString right := by
  simp [ofString]

example : lossy [0x61, 0xF0, 0x9F, 0xA4, 0x22] = ['a', '\uFFFD', '"'] := by decide

example : text? [0x61, 0xC3, 0xA9] = some ['a', 'é'] := by decide

example : text? [0xC0, 0x80] = none := by decide

example : text? [0xED, 0xA0, 0x80] = none := by decide

end Word

end UploadRunner
