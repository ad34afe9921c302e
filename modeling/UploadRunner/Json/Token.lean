import UploadRunner.Json.Problem

/-! The tokens of a JSON text.

`scan` cuts a text into its tokens and passes over the blanks between them. A byte
that begins no token, or a literal, number or string that is broken, ends the list:
what a reader makes of it depends on whether a value is expected there. -/

namespace UploadRunner.Json

def isBlank (byte : UInt8) : Bool :=
  byte = 0x20 || byte = 0x09 || byte = 0x0A || byte = 0x0D

abbrev quotationMark : UInt8 := 0x22

abbrev backslash : UInt8 := 0x5C

abbrev codeUnitMark : UInt8 := 0x75

/-! ## Literals -/

def readLetters : Word → Word → Except Failure Word
  | [], input => .ok input
  | _ :: _, [] => .error ⟨.endOfValue, []⟩
  | letter :: letters, byte :: rest =>
      if byte = letter then readLetters letters rest
      else .error ⟨.expectedLiteral, rest⟩

/-! ## Strings -/

inductive StringState
  | plain
  | escape
  /-- Inside the four digits of a code unit, of which some have been read. The unit
  completes a pair if there is one before it. -/
  | codeUnit (leading : Option Nat) (digits : Word)
  | pairEscape (leading : Nat)
  | pairMark (leading : Nat)
  deriving DecidableEq, Repr

/-- The byte that a short escape stands for: a quotation mark, a backslash or a slash
stands for itself, and `b`, `f`, `n`, `r` and `t` stand for control characters. -/
def shortEscape? (byte : UInt8) : Option UInt8 :=
  match byte with
  | 0x22 => some 0x22
  | 0x5C => some 0x5C
  | 0x2F => some 0x2F
  | 0x62 => some 0x08
  | 0x66 => some 0x0C
  | 0x6E => some 0x0A
  | 0x72 => some 0x0D
  | 0x74 => some 0x09
  | _ => none

def hexDigit? (byte : UInt8) : Option Nat :=
  if 0x30 ≤ byte ∧ byte ≤ 0x39 then some (byte.toNat - 0x30)
  else if 0x41 ≤ byte ∧ byte ≤ 0x46 then some (byte.toNat - 0x41 + 10)
  else if 0x61 ≤ byte ∧ byte ≤ 0x66 then some (byte.toNat - 0x61 + 10)
  else none

def hexValue? (digits : Word) : Option Nat :=
  digits.foldlM (fun value digit => (hexDigit? digit).map (value * 16 + ·)) 0

def isLeading (codeUnit : Nat) : Bool :=
  0xD800 ≤ codeUnit && codeUnit ≤ 0xDBFF

def isTrailing (codeUnit : Nat) : Bool :=
  0xDC00 ≤ codeUnit && codeUnit ≤ 0xDFFF

def encode (codePoint : Nat) : Word :=
  String.utf8EncodeChar (Char.ofNat codePoint)

def pairValue (leading trailing : Nat) : Nat :=
  0x10000 + (leading - 0xD800) * 0x400 + (trailing - 0xDC00)

def prepend (bytes : Word) (read : Except Failure (Word × Word)) :
    Except Failure (Word × Word) :=
  read.map fun (more, rest) => (bytes ++ more, rest)

def readBytes : StringState → Word → Except Failure (Word × Word)
  | _, [] => .error ⟨.endOfString, []⟩
  | .plain, byte :: rest =>
      if byte = quotationMark then .ok ([], rest)
      else if byte = backslash then readBytes .escape rest
      else if byte < 0x20 then .error ⟨.controlCharacter, rest⟩
      else prepend [byte] (readBytes .plain rest)
  | .escape, byte :: rest =>
      if byte = codeUnitMark then readBytes (.codeUnit none []) rest
      else
        match shortEscape? byte with
        | some meant => prepend [meant] (readBytes .plain rest)
        | none => .error ⟨.invalidEscape, rest⟩
  | .codeUnit leading digits, byte :: rest =>
      if digits.length < 3 then readBytes (.codeUnit leading (digits ++ [byte])) rest
      else
        match hexValue? (digits ++ [byte]), leading with
        | none, _ => .error ⟨.invalidEscape, rest⟩
        | some unit, none =>
            if isLeading unit then readBytes (.pairEscape unit) rest
            else if isTrailing unit then .error ⟨.loneSurrogate, rest⟩
            else prepend (encode unit) (readBytes .plain rest)
        | some unit, some leading =>
            if isTrailing unit then
              prepend (encode (pairValue leading unit)) (readBytes .plain rest)
            else .error ⟨.loneSurrogate, rest⟩
  | .pairEscape leading, byte :: rest =>
      if byte = backslash then readBytes (.pairMark leading) rest
      else .error ⟨.unfinishedPair, rest⟩
  | .pairMark leading, byte :: rest =>
      if byte = codeUnitMark then readBytes (.codeUnit (some leading) []) rest
      else .error ⟨.unfinishedPair, rest⟩

def lastBytes (count : Nat) (input : Word) : Word :=
  input.drop (input.length - count)

/-- Read a string behind its opening quote. Only a string that is complete is checked
for ill-formed text. The place where that is noticed is counted back from behind the
closing quote, by the bytes that the string stands for from the ill-formed ones on. -/
def readString (input : Word) : Except Failure (String × Word) :=
  match readBytes .plain input with
  | .error failure => .error failure
  | .ok (bytes, rest) =>
      match Word.text? bytes with
      | some text => .ok (String.ofList text, rest)
      | none =>
          let affected := bytes.length - Word.wellFormedLength bytes
          .error ⟨.illFormedText, lastBytes (rest.length + affected) input⟩

/-! ## Numbers -/

def isDigit (byte : UInt8) : Bool :=
  0x30 ≤ byte && byte ≤ 0x39

def digitValue (byte : UInt8) : Nat :=
  byte.toNat - 0x30

def greatestSignificand : Nat := 0xFFFFFFFFFFFFFFFF

def greatestExponent : Nat := 0x7FFFFFFF

/-- A significand, the decimal exponent that belongs to it, and whether it takes no
more digits because the next one made it too great. -/
structure Significand where
  value : Nat
  exponent : Int
  isFull : Bool
  deriving DecidableEq, Repr

/-- Append a digit of the whole part. One that is not taken raises the exponent. -/
def Significand.pushWhole (significand : Significand) (digit : UInt8) : Significand :=
  let value := significand.value * 10 + digitValue digit
  if significand.isFull || greatestSignificand < value then
    { significand with exponent := significand.exponent + 1, isFull := true }
  else { significand with value }

def Significand.pushFraction (significand : Significand) (digit : UInt8) : Significand :=
  let value := significand.value * 10 + digitValue digit
  if significand.isFull || greatestSignificand < value then
    { significand with isFull := true }
  else { significand with value, exponent := significand.exponent - 1 }

def readReal (isNegative : Bool) (value : Nat) (exponent : Int) (rest : Word) :
    Except Failure (Number × Word) :=
  match Binary64.ofDecimal? value exponent with
  | some magnitude => .ok (.real isNegative magnitude, rest)
  | none => .error ⟨.numberOutOfRange, rest⟩

/-- Read the digits of an exponent of which `exponent` has been read. There is no
value if it becomes too great, and the input left is behind the digit that did it. -/
def readExponentDigits (exponent : Nat) : Word → Option Nat × Word
  | [] => (some exponent, [])
  | byte :: rest =>
      if isDigit byte then
        let next := exponent * 10 + digitValue byte
        if greatestExponent < next then (none, rest) else readExponentDigits next rest
      else (some exponent, byte :: rest)

def readExponent (isNegative : Bool) (significand : Significand) (lowers : Bool) :
    Word → Except Failure (Number × Word)
  | [] => .error ⟨.endOfValue, []⟩
  | byte :: rest =>
      if !isDigit byte then .error ⟨.invalidNumber, rest⟩
      else
        match readExponentDigits (digitValue byte) rest with
        | (some exponent, rest) =>
            let exponent : Int := if lowers then -exponent else exponent
            readReal isNegative significand.value (significand.exponent + exponent) rest
        | (none, rest) =>
            if significand.value ≠ 0 ∧ !lowers then .error ⟨.numberOutOfRange, rest⟩
            else .ok (.real isNegative .zero, rest.dropWhile isDigit)

def beginsExponent (byte : UInt8) : Bool :=
  byte = 0x65 || byte = 0x45

def readTail (isNegative : Bool) (significand : Significand) :
    Word → Except Failure (Number × Word)
  | [] => readReal isNegative significand.value significand.exponent []
  | byte :: rest =>
      if beginsExponent byte then
        match rest with
        | 0x2B :: digits => readExponent isNegative significand false digits
        | 0x2D :: digits => readExponent isNegative significand true digits
        | _ => readExponent isNegative significand false rest
      else readReal isNegative significand.value significand.exponent (byte :: rest)

def readFraction (isNegative : Bool) (significand : Significand) (input : Word) :
    Except Failure (Number × Word) :=
  let digits := input.takeWhile isDigit
  let rest := input.dropWhile isDigit
  if digits.isEmpty then
    match rest with
    | [] => .error ⟨.endOfValue, []⟩
    | _ :: behind => .error ⟨.invalidNumber, behind⟩
  else
    readTail isNegative
      (digits.foldl Significand.pushFraction { significand with isFull := false }) rest

/-- The number of a whole part that nothing follows. A negative zero, and a negative
number whose magnitude needs all 64 bits, are floating-point numbers. -/
def readWhole (isNegative : Bool) (value : Nat) (rest : Word) :
    Except Failure (Number × Word) :=
  if !isNegative then .ok (.natural value, rest)
  else if 0 < value ∧ value ≤ 0x8000000000000000 then .ok (.negative value, rest)
  else readReal true value 0 rest

def readAfterWhole (isNegative : Bool) (significand : Significand) (input : Word) :
    Except Failure (Number × Word) :=
  match input with
  | 0x2E :: rest => readFraction isNegative significand rest
  | _ =>
      if significand.isFull || input.head?.any beginsExponent then
        readTail isNegative significand input
      else readWhole isNegative significand.value input

def readNumber (isNegative : Bool) : Word → Except Failure (Number × Word)
  | [] => .error ⟨.endOfValue, []⟩
  | first :: rest =>
      if !isDigit first then .error ⟨.invalidNumber, rest⟩
      else if first = 0x30 then
        match rest with
        | [] => readWhole isNegative 0 []
        | next :: behind =>
            if isDigit next then .error ⟨.invalidNumber, behind⟩
            else readAfterWhole isNegative ⟨0, 0, false⟩ rest
      else
        let input := first :: rest
        readAfterWhole isNegative
          ((input.takeWhile isDigit).foldl Significand.pushWhole ⟨0, 0, false⟩)
          (input.dropWhile isDigit)

/-! ## Tokens -/

inductive Lexeme
  | openBrace
  | closeBrace
  | openBracket
  | closeBracket
  | colon
  | comma
  | null
  | boolean (value : Bool)
  | number (value : Number)
  | string (value : String)
  | stray
  | broken (failure : Failure)
  deriving DecidableEq, Repr

structure Token where
  lexeme : Lexeme
  here : Word
  behind : Word
  deriving DecidableEq, Repr

def lexemeOf {α : Type} (lexeme : α → Lexeme) : Except Failure (α × Word) → Lexeme × Word
  | .ok (value, rest) => (lexeme value, rest)
  | .error failure => (.broken failure, [])

def literal (lexeme : Lexeme) (letters rest : Word) : Lexeme × Word :=
  lexemeOf (fun _ => lexeme) ((readLetters letters rest).map fun behind => ((), behind))

def readLexeme (byte : UInt8) (rest : Word) : Lexeme × Word :=
  match byte with
  | 0x7B => (.openBrace, rest)
  | 0x7D => (.closeBrace, rest)
  | 0x5B => (.openBracket, rest)
  | 0x5D => (.closeBracket, rest)
  | 0x3A => (.colon, rest)
  | 0x2C => (.comma, rest)
  | 0x6E => literal .null (Word.ofString "ull") rest
  | 0x74 => literal (.boolean true) (Word.ofString "rue") rest
  | 0x66 => literal (.boolean false) (Word.ofString "alse") rest
  | 0x22 => lexemeOf .string (readString rest)
  | 0x2D => lexemeOf .number (readNumber true rest)
  | _ =>
      if isDigit byte then lexemeOf .number (readNumber false (byte :: rest))
      else (.stray, rest)

def Lexeme.isWhole : Lexeme → Bool
  | .stray => false
  | .broken _ => false
  | _ => true

def scanFirst : Nat → Word → List Token
  | 0, _ => []
  | more + 1, input =>
      match input.dropWhile isBlank with
      | [] => []
      | byte :: rest =>
          let (lexeme, behind) := readLexeme byte rest
          ⟨lexeme, byte :: rest, behind⟩ ::
            if lexeme.isWhole then scanFirst more behind else []

def scan (text : Word) : List Token :=
  scanFirst text.length text

example : (scan (Word.ofString " [1, null]\n")).map Token.lexeme =
    [.openBracket, .number (.natural 1), .comma, .null, .closeBracket] := by decide +kernel

example : (scan (Word.ofString "\"\\ud83e\\uDD16\\n\"")).map Token.lexeme =
    [.string "🤖\n"] := by decide +kernel

/-- An escape behind ill-formed text counts as the one byte that it stands for. -/
example : (scan [0x22, 0xFF, 0x5C, 0x6E, 0x22]).map Token.lexeme =
    [.broken ⟨.illFormedText, [0x6E, 0x22]⟩] := by decide +kernel

example : (scan (Word.ofString "01 \"a\"")).map Token.lexeme =
    [.broken ⟨.invalidNumber, Word.ofString " \"a\""⟩] := by decide +kernel

end UploadRunner.Json
