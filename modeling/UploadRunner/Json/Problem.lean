import UploadRunner.Json.Number
import UploadRunner.Text.Quoted

/-! What can be wrong with a JSON text, and where. -/

namespace UploadRunner.Json

inductive Found
  | null
  | boolean (value : Bool)
  | number (value : Number)
  | string (value : String)
  | array
  | object
  deriving DecidableEq, Repr

inductive Expected
  | string
  | array
  | byte
  | configuration
  deriving DecidableEq, Repr

inductive Problem
  | endOfValue
  | endOfString
  | endOfArray
  | endOfObject
  | expectedValue
  | expectedLiteral
  | expectedColon
  | expectedCommaOrBracket
  | expectedCommaOrBrace
  | keyMustBeString
  | trailingComma
  | trailingCharacters
  | controlCharacter
  | invalidEscape
  | loneSurrogate
  | unfinishedPair
  | illFormedText
  | invalidNumber
  | numberOutOfRange
  | wrongType (found : Found) (expected : Expected)
  | wrongValue (number : Number) (expected : Expected)
  | unknownField (name : String) (known : List String)
  | duplicateField (name : String)
  deriving DecidableEq, Repr

def Found.description : Found → String
  | .null => "null"
  | .boolean value => "boolean `" ++ (if value then "true" else "false") ++ "`"
  | .number value => value.description
  | .string value => "string " ++ Quoted.ofString value
  | .array => "sequence"
  | .object => "map"

def Expected.description : Expected → String
  | .string => "a string"
  | .array => "a sequence"
  | .byte => "u8"
  | .configuration => "struct RunnerConfig"

def nameList (names : List String) : String :=
  ", ".intercalate (names.map fun name => "`" ++ name ++ "`")

def Problem.message : Problem → String
  | .endOfValue => "EOF while parsing a value"
  | .endOfString => "EOF while parsing a string"
  | .endOfArray => "EOF while parsing a list"
  | .endOfObject => "EOF while parsing an object"
  | .expectedValue => "expected value"
  | .expectedLiteral => "expected ident"
  | .expectedColon => "expected `:`"
  | .expectedCommaOrBracket => "expected `,` or `]`"
  | .expectedCommaOrBrace => "expected `,` or `\x7d`"
  | .keyMustBeString => "key must be a string"
  | .trailingComma => "trailing comma"
  | .trailingCharacters => "trailing characters"
  | .controlCharacter => "control character (\\u0000-\\u001F) found while parsing a string"
  | .invalidEscape => "invalid escape"
  | .loneSurrogate => "lone leading surrogate in hex escape"
  | .unfinishedPair => "unexpected end of hex escape"
  | .illFormedText => "invalid unicode code point"
  | .invalidNumber => "invalid number"
  | .numberOutOfRange => "number out of range"
  | .wrongType found expected =>
      "invalid type: " ++ found.description ++ ", expected " ++ expected.description
  | .wrongValue number expected =>
      "invalid value: " ++ number.description ++ ", expected " ++ expected.description
  | .unknownField name known =>
      "unknown field `" ++ name ++ "`, expected one of " ++ nameList known
  | .duplicateField name => "duplicate field `" ++ name ++ "`"

/-! ## Places -/

/-- A problem and the input that is left behind it when it is noticed. -/
structure Failure where
  problem : Problem
  unread : Word
  deriving DecidableEq, Repr

/-- A place in a text: the number of its line, from one, and the number of bytes of
that line before it. -/
structure Place where
  line : Nat
  column : Nat
  deriving DecidableEq, Repr

def lineFeed : UInt8 := 0x0A

def Place.after (input : Word) : Place where
  line := input.count lineFeed + 1
  column := (input.reverse.takeWhile (· ≠ lineFeed)).length

example : Place.after [0x7B, 0x0A, 0x20, 0x20] = ⟨2, 2⟩ := by decide

structure Diagnosis where
  problem : Problem
  place : Place
  deriving DecidableEq, Repr

def Failure.locate (failure : Failure) (text : Word) : Diagnosis where
  problem := failure.problem
  place := Place.after (text.take (text.length - failure.unread.length))

def Diagnosis.message (diagnosis : Diagnosis) : String :=
  diagnosis.problem.message ++
    " at line " ++ Numeral.natural diagnosis.place.line ++
    " column " ++ Numeral.natural diagnosis.place.column

end UploadRunner.Json
