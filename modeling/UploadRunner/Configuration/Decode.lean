import UploadRunner.Configuration.Basic
import UploadRunner.Json.Token

/-! Configurations in JSON texts.

A configuration is an object whose members are fields, each at most once and in any
order, or an array of values for the first fields in the order of `Field.all`.
Fields that are not given keep their standard values.

A reader of tokens returns the tokens that it leaves. A failure is noticed at the
first token that does not fit: one that must not stand there is noticed behind its
first byte, a value of a wrong kind behind the value. -/

namespace UploadRunner.Configuration

open Json

abbrev Read (α : Type) := Except Failure (α × List Token)

/-! ## Failures at tokens -/

def unexpected (problem : Json.Problem) (token : Token) : Failure :=
  ⟨problem, token.here.drop 1⟩

def ended (problem : Json.Problem) : Failure :=
  ⟨problem, []⟩

/-- A token that is not the expected value. The first byte of an array or object
settles its kind, so that nothing of it is read. -/
def mismatch (token : Token) (expected : Expected) : Failure :=
  match token.lexeme with
  | .null => ⟨.wrongType .null expected, token.behind⟩
  | .boolean value => ⟨.wrongType (.boolean value) expected, token.behind⟩
  | .number value => ⟨.wrongType (.number value) expected, token.behind⟩
  | .string value => ⟨.wrongType (.string value) expected, token.behind⟩
  | .openBracket => ⟨.wrongType .array expected, token.here⟩
  | .openBrace => ⟨.wrongType .object expected, token.here⟩
  | .broken failure => failure
  | .closeBrace | .closeBracket | .colon | .comma | .stray => unexpected .expectedValue token

/-! ## Values -/

def readText : List Token → Read String
  | [] => .error (ended .endOfValue)
  | token :: rest =>
      match token.lexeme with
      | .string value => .ok (value, rest)
      | _ => .error (mismatch token .string)

def readByte : List Token → Read UInt8
  | [] => .error (ended .endOfValue)
  | token :: rest =>
      match token.lexeme with
      | .number (.natural value) =>
          if value < 256 then .ok (UInt8.ofNat value, rest)
          else .error ⟨.wrongValue (.natural value) .byte, token.behind⟩
      | .number (.negative magnitude) =>
          .error ⟨.wrongValue (.negative magnitude) .byte, token.behind⟩
      | _ => .error (mismatch token .byte)

def readTexts : List Token → Read (List String)
  | [] => .error (ended .endOfValue)
  | token :: rest =>
      match token.lexeme with
      | .string value =>
          match rest with
          | [] => .error (ended .endOfArray)
          | separator :: rest =>
              match separator.lexeme with
              | .closeBracket => .ok ([value], rest)
              | .comma =>
                  match rest with
                  | [] => .error (ended .endOfValue)
                  | next :: more =>
                      match next.lexeme with
                      | .closeBracket => .error (unexpected .trailingComma next)
                      | _ => (readTexts (next :: more)).map fun (values, rest) =>
                          (value :: values, rest)
              | _ => .error (unexpected .expectedCommaOrBracket separator)
      | _ => .error (mismatch token .string)

def readTextArray : List Token → Read (List String)
  | [] => .error (ended .endOfValue)
  | token :: rest =>
      match token.lexeme with
      | .openBracket =>
          match rest with
          | [] => .error (ended .endOfArray)
          | next :: more =>
              match next.lexeme with
              | .closeBracket => .ok ([], more)
              | _ => readTexts (next :: more)
      | _ => .error (mismatch token .array)

def readField (overrides : Overrides) (field : Field) (tokens : List Token) : Read Overrides :=
  match field with
  | .objcopy => (readText tokens).map fun (value, rest) =>
      ({ overrides with objcopy := some value }, rest)
  | .uploader => (readText tokens).map fun (value, rest) =>
      ({ overrides with uploader := some value }, rest)
  | .stripSymbols => (readTextArray tokens).map fun (values, rest) =>
      ({ overrides with stripSymbols := some values }, rest)
  | .excludedSection => (readText tokens).map fun (value, rest) =>
      ({ overrides with excludedSection := some value }, rest)
  | .target => (readText tokens).map fun (value, rest) =>
      ({ overrides with target := some value }, rest)
  | .slot => (readByte tokens).map fun (value, rest) =>
      ({ overrides with slot := some value }, rest)

/-! ## Objects

No field is given twice, so the number of fields bounds the members of an object: the
key of a further one is refused. -/

/-- A key that must not stand in an object. It is noticed behind the blanks that
follow it, and behind a brace that follows them. -/
def refuseKey (problem : Json.Problem) : List Token → Failure
  | [] => ended problem
  | next :: _ =>
      match next.lexeme with
      | .closeBrace => ⟨problem, next.behind⟩
      | _ => ⟨problem, next.here⟩

def readColon : List Token → Except Failure (List Token)
  | [] => .error (ended .endOfObject)
  | token :: rest =>
      match token.lexeme with
      | .colon => .ok rest
      | _ => .error (unexpected .expectedColon token)

def readKey (overrides : Overrides) (token : Token) (rest : List Token) :
    Except Failure Field :=
  match token.lexeme with
  | .string name =>
      match Field.ofName? name with
      | none => .error (refuseKey (.unknownField name (Field.all.map Field.name)) rest)
      | some field =>
          if overrides.gives field then .error (refuseKey (.duplicateField name) rest)
          else .ok field
  | .broken failure =>
      if token.here.head? = some quotationMark then .error failure
      else .error (unexpected .keyMustBeString token)
  | _ => .error (unexpected .keyMustBeString token)

def readMember (overrides : Overrides) (token : Token) (rest : List Token) : Read Overrides :=
  match readKey overrides token rest with
  | .error failure => .error failure
  | .ok field =>
      match readColon rest with
      | .error failure => .error failure
      | .ok rest => readField overrides field rest

def readMembers (overrides : Overrides) : Nat → Token → List Token → Read Overrides
  | 0, token, rest => readMember overrides token rest
  | more + 1, token, rest =>
      match readMember overrides token rest with
      | .error failure => .error failure
      | .ok (_, []) => .error (ended .endOfObject)
      | .ok (overrides, separator :: rest) =>
          match separator.lexeme with
          | .closeBrace => .ok (overrides, rest)
          | .comma =>
              match rest with
              | [] => .error (ended .endOfValue)
              | next :: rest =>
                  match next.lexeme with
                  | .closeBrace => .error (unexpected .trailingComma next)
                  | _ => readMembers overrides more next rest
          | _ => .error (unexpected .expectedCommaOrBrace separator)

def readObject : List Token → Read Overrides
  | [] => .error (ended .endOfObject)
  | token :: rest =>
      match token.lexeme with
      | .closeBrace => .ok ({}, rest)
      | _ => readMembers {} Field.all.length token rest

/-! ## Arrays -/

def readArrayEnd (overrides : Overrides) : List Token → Read Overrides
  | [] => .error (ended .endOfArray)
  | token :: rest =>
      match token.lexeme with
      | .closeBracket => .ok (overrides, rest)
      | .comma =>
          match rest with
          | [] => .error (ended .trailingCharacters)
          | next :: _ =>
              match next.lexeme with
              | .closeBracket => .error (unexpected .trailingComma next)
              | _ => .error (unexpected .trailingCharacters next)
      | _ => .error (unexpected .trailingCharacters token)

def readElements (overrides : Overrides) : List Field → List Token → Read Overrides
  | [], tokens => readArrayEnd overrides tokens
  | _ :: _, [] => .error (ended .endOfArray)
  | field :: fields, token :: rest =>
      match token.lexeme with
      | .closeBracket => .ok (overrides, rest)
      | .comma =>
          match rest with
          | [] => .error (ended .endOfValue)
          | next :: more =>
              match next.lexeme with
              | .closeBracket => .error (unexpected .trailingComma next)
              | _ =>
                  match readField overrides field (next :: more) with
                  | .error failure => .error failure
                  | .ok (overrides, rest) => readElements overrides fields rest
      | _ => .error (unexpected .expectedCommaOrBracket token)

def readArray : List Token → Read Overrides
  | [] => .error (ended .endOfArray)
  | token :: rest =>
      match token.lexeme with
      | .closeBracket => .ok ({}, rest)
      | _ =>
          match readField {} .objcopy (token :: rest) with
          | .error failure => .error failure
          | .ok (overrides, rest) => readElements overrides Field.all.tail rest

/-! ## Texts -/

def readOverrides : List Token → Except Failure Overrides
  | [] => .error (ended .endOfValue)
  | token :: rest =>
      let read :=
        match token.lexeme with
        | .openBrace => readObject rest
        | .openBracket => readArray rest
        | _ => .error (mismatch token .configuration)
      match read with
      | .error failure => .error failure
      | .ok (overrides, []) => .ok overrides
      | .ok (_, extra :: _) => .error (unexpected .trailingCharacters extra)

def decode (text : Word) : Except Diagnosis Configuration :=
  match readOverrides (scan text) with
  | .ok overrides => .ok (standard.override overrides)
  | .error failure => .error (failure.locate text)

example : (decode (Word.ofString "[\"a\"]")).toOption =
    some { standard with objcopy := "a" } := by
  decide +kernel

example : (decode (Word.ofString "\x7b\"slot\":256\x7d")).toOption = none := by
  decide +kernel

end UploadRunner.Configuration
