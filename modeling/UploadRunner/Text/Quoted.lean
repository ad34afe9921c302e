import UploadRunner.Text.Utf8
import UploadRunner.Text.CharacterRanges

/-! The quoted form of words and strings in messages.

Quoted text stands between double quotes and shows every character on one line.
The quote and the backslash are escaped, as are tabs, line ends and NUL; what
leaves no mark, or attaches to the character before it, is written as a code
point; a byte that encodes nothing is written in hexadecimal. -/

namespace UploadRunner

namespace Quoted

def hexadecimal (number : Nat) : Text :=
  Nat.toDigits 16 number

def escapeByte (byte : UInt8) : Text :=
  ['\\', 'x', (Nat.digitChar (byte.toNat / 16)).toUpper, (Nat.digitChar (byte.toNat % 16)).toUpper]

def escapeCharacter (character : Char) : Text :=
  match character with
  | '"' => ['\\', '"']
  | '\\' => ['\\', '\\']
  | '\t' => ['\\', 't']
  | '\r' => ['\\', 'r']
  | '\n' => ['\\', 'n']
  | '\x00' => ['\\', '0']
  | _ =>
      if isPrintable character && !isExtendingMark character then
        [character]
      else
        ['\\', 'u', '\x7b'] ++ hexadecimal character.toNat ++ ['\x7d']

def escapePiece : Utf8.Piece → Text
  | .character value => escapeCharacter value
  | .illFormed bytes => bytes.flatMap escapeByte

def enclose (escaped : Text) : String :=
  String.ofList ('"' :: escaped ++ ['"'])

def ofString (string : String) : String :=
  enclose (string.toList.flatMap escapeCharacter)

def ofWord (word : Word) : String :=
  enclose ((Utf8.pieces word).flatMap escapePiece)

example : ofString "it's \"new\"\n" = "\"it's \\\"new\\\"\\n\"" := by decide +kernel

example : ofString "e\u0301" = "\"e\\u\x7b301\x7d\"" := by decide +kernel

example : ofWord [0x62, 0xFF, 0xE2, 0x82] = "\"b\\xFF\\xE2\\x82\"" := by decide +kernel

end Quoted

end UploadRunner
