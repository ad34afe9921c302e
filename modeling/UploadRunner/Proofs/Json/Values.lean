import UploadRunner.Proofs.Json.NumberTexts
import UploadRunner.Proofs.Json.Scans

/-! The texts of values.

A value is a literal, a number, a string, an array or an object, with blanks around it.
Its text need not have a meaning: a number may be too great, and the escapes of a string
may be no text. A reader finds out either everywhere or nowhere. -/

namespace UploadRunner.Json

/-! ## Strings -/

/-- What stands between the quotation marks of a string. Its bytes need not be text. -/
inductive StringBody : Word → Prop
  | nil : StringBody []
  | plain {byte : UInt8} {rest : Word} : IsPlain byte → StringBody rest →
      StringBody (byte :: rest)
  | short {mark : UInt8} {character : Char} {rest : Word} : (mark, character) ∈ shortEscapes →
      StringBody rest → StringBody (backslash :: mark :: rest)
  | codeUnit {unit : Nat} {digits rest : Word} : UnitSpelling unit digits →
      StringBody rest → StringBody (backslash :: codeUnitMark :: (digits ++ rest))

theorem StringBody.of_plain {body : Word} (plain : ∀ byte ∈ body, IsPlain byte) :
    StringBody body := by
  induction body with
  | nil => exact .nil
  | cons byte body induction =>
      rw [List.forall_mem_cons] at plain
      exact .plain plain.1 (induction plain.2)

inductive StringText : Word → Prop
  | quoted {body : Word} : StringBody body →
      StringText (quotationMark :: (body ++ [quotationMark]))

/-- Whether every quotation mark in a word is escaped. -/
inductive Unquoted : Word → Prop
  | nil : Unquoted []
  | plain {byte : UInt8} {rest : Word} : byte ≠ quotationMark → byte ≠ backslash →
      Unquoted rest → Unquoted (byte :: rest)
  | escaped {byte : UInt8} {rest : Word} : Unquoted rest → Unquoted (backslash :: byte :: rest)

theorem Unquoted.digits_append {unit : Nat} {digits rest : Word}
    (spelling : UnitSpelling unit digits) (unquoted : Unquoted rest) :
    Unquoted (digits ++ rest) := by
  have apart : ∀ {byte : UInt8} {value : Nat}, IsHexDigit byte value →
      byte ≠ quotationMark ∧ byte ≠ backslash := by
    intro byte value isDigit
    have zero : '0'.toNat = 0x30 := rfl
    have upper : 'A'.toNat = 0x41 := rfl
    have lower : 'a'.toNat = 0x61 := rfl
    have quote : quotationMark.toNat = 0x22 := rfl
    have escape : backslash.toNat = 0x5C := rfl
    rw [IsHexDigit, zero, upper, lower] at isDigit
    constructor <;>
    · rintro rfl
      omega
  cases spelling with
  | digits first second third fourth =>
      exact .plain (apart first).1 (apart first).2 <| .plain (apart second).1 (apart second).2 <|
        .plain (apart third).1 (apart third).2 <| .plain (apart fourth).1 (apart fourth).2 unquoted

theorem StringBody.unquoted {body : Word} (spelling : StringBody body) : Unquoted body := by
  induction spelling with
  | nil => exact .nil
  | plain isPlain _ induction => exact .plain isPlain.2.1 isPlain.2.2 induction
  | short _ _ induction => exact .escaped induction
  | codeUnit digits _ induction => exact .escaped (induction.digits_append digits)

theorem BytesSpelling.unquoted {bytes body : Word} (spelling : BytesSpelling bytes body) :
    Unquoted body := by
  induction spelling with
  | nil => exact .nil
  | raw isPlain _ induction => exact .plain isPlain.2.1 isPlain.2.2 induction
  | escape escape _ induction =>
      cases escape with
      | short _ => exact .escaped induction
      | single digits => exact .escaped (induction.digits_append digits)
      | pair first second _ _ _ _ _ =>
          rw [List.append_assoc]
          exact .escaped (.digits_append first (.escaped (induction.digits_append second)))

theorem Unquoted.eq_of_append {body other rest left : Word} (unquoted : Unquoted body)
    (otherUnquoted : Unquoted other)
    (same : body ++ quotationMark :: rest = other ++ quotationMark :: left) : body = other := by
  induction unquoted generalizing other with
  | nil =>
      cases otherUnquoted with
      | nil => rfl
      | plain notQuote _ _ => exact absurd (List.cons.inj same).1.symm notQuote
      | escaped _ => cases (List.cons.inj same).1
  | plain notQuote notEscape _ induction =>
      cases otherUnquoted with
      | nil => exact absurd (List.cons.inj same).1 notQuote
      | plain _ _ otherUnquoted =>
          rcases List.cons.inj same with ⟨rfl, sameRest⟩
          rw [induction otherUnquoted sameRest]
      | escaped _ => exact absurd (List.cons.inj same).1 notEscape
  | escaped _ induction =>
      cases otherUnquoted with
      | nil => cases (List.cons.inj same).1
      | plain _ notEscape _ => exact absurd (List.cons.inj same).1.symm notEscape
      | escaped otherUnquoted =>
          rcases List.cons.inj (List.cons.inj same).2 with ⟨rfl, sameRest⟩
          rw [induction otherUnquoted sameRest]

theorem readString_uniform {body : Word} (spelling : StringBody body) :
    Uniform readString (body ++ [quotationMark]) := by
  have split : ∀ rest, body ++ [quotationMark] ++ rest = body ++ quotationMark :: rest :=
    fun rest => List.append_assoc _ _ _
  simp only [Uniform, split]
  by_cases spelled : ∃ string : String, TextSpelling string.toList body
  · rcases spelled with ⟨string, spelled⟩
    exact .inl ⟨string, fun rest _ => (readString_eq_ok_iff _ _ _).mpr ⟨body, rfl, spelled⟩⟩
  · refine .inr fun rest _ => ?_
    cases read : readString (body ++ quotationMark :: rest) with
    | error failure => exact ⟨failure, rfl⟩
    | ok result =>
        rcases (readString_eq_ok_iff _ result.2 result.1).mp read with ⟨other, same, otherSpelled⟩
        have equal := spelling.unquoted.eq_of_append otherSpelled.bytes.unquoted same
        exact absurd ⟨result.1, equal ▸ otherSpelled⟩ spelled

/-! ## Grammar -/

def literals : List (Word × Lexeme) :=
  [(Word.ofString "null", .null), (Word.ofString "true", .boolean true),
    (Word.ofString "false", .boolean false)]

def closedText (close : UInt8) (texts : List Word) : Word :=
  [0x2C].intercalate texts ++ [close]

inductive KeyText : Word → Prop
  | padded {before text behind : Word} : (∀ byte ∈ before, isBlank byte) → StringText text →
      (∀ byte ∈ behind, isBlank byte) → KeyText (before ++ (text ++ behind))

inductive ValueText : Word → Prop
  | literal {text : Word} {lexeme : Lexeme} : (text, lexeme) ∈ literals → ValueText text
  | number {text : Word} : NumberText text → ValueText text
  | string {text : Word} : StringText text → ValueText text
  | array {blanks : Word} {items : List Word} : (∀ byte ∈ blanks, isBlank byte) →
      (∀ item ∈ items, ValueText item) → ValueText (0x5B :: (blanks ++ closedText 0x5D items))
  | object {blanks : Word} {members : List (Word × Word)} : (∀ byte ∈ blanks, isBlank byte) →
      (∀ member ∈ members, KeyText member.1) → (∀ member ∈ members, ValueText member.2) →
      ValueText (0x7B :: (blanks ++ closedText 0x7D (members.map fun member =>
        member.1 ++ 0x3A :: member.2)))
  | padded {before text behind : Word} : (∀ byte ∈ before, isBlank byte) → ValueText text →
      (∀ byte ∈ behind, isBlank byte) → ValueText (before ++ (text ++ behind))

/-! ## Lexemes -/

/-- Whether a text reads as certain lexemes wherever nothing goes on with it as a number. -/
def Spells (text : Word) (item : List Lexeme) : Prop :=
  ∀ rest, EndsNumber rest → lexemes (text ++ rest) = item ++ lexemes rest

def IsBroken (text : Word) : Prop :=
  ∀ rest, EndsNumber rest → ∃ failure, lexemes (text ++ rest) = [.broken failure]

theorem spells_or_broken {α : Type} {read : Word → Except Failure (α × Word)}
    {lexeme : α → Lexeme} {byte : UInt8} {tail word : Word} (notBlank : isBlank byte = false)
    (whole : ∀ value, (lexeme value).isWhole) (uniform : Uniform read word)
    (same : ∀ rest, readLexeme byte (tail ++ rest) = lexemeOf lexeme (read (word ++ rest))) :
    (∃ value, Spells (byte :: tail) [lexeme value]) ∨ IsBroken (byte :: tail) := by
  rcases uniform with ⟨value, found⟩ | failed
  · refine .inl ⟨value, fun rest ends => ?_⟩
    rw [List.cons_append, lexemes_cons notBlank, same, found rest ends, lexemeOf]
    simp only [whole, if_true, List.cons_append, List.nil_append]
  · refine .inr fun rest ends => ?_
    rcases failed rest ends with ⟨failure, failed⟩
    rw [List.cons_append, lexemes_cons notBlank, same, failed]
    exact ⟨failure, rfl⟩

theorem isBlank_of_isDigit {byte : UInt8} (isDigit : isDigit byte) : isBlank byte = false := by
  rw [Bool.eq_false_iff]
  intro blank
  exact ((endsNumber_cons_iff byte []).mp (endsNumber_of_isBlank blank [])).2 isDigit

theorem NumberText.spells_or_broken {text : Word} (spelling : NumberText text) :
    (∃ number, Spells text [.number number]) ∨ IsBroken text := by
  cases spelling with
  | positive magnitude =>
      rcases magnitude.head with ⟨first, tail, rfl, isFirst⟩
      refine Json.spells_or_broken (isBlank_of_isDigit isFirst) (fun _ => rfl)
        (readNumber_uniform false magnitude) ?_
      exact fun rest => readLexeme_digit isFirst (tail ++ rest)
  | negative magnitude =>
      exact Json.spells_or_broken (by decide) (fun _ => rfl)
        (readNumber_uniform true magnitude) fun rest => rfl

theorem StringText.spells_or_broken {text : Word} (spelling : StringText text) :
    (∃ string, Spells text [.string string]) ∨ IsBroken text := by
  cases spelling with
  | quoted body =>
      exact Json.spells_or_broken (by decide) (fun _ => rfl)
        (readString_uniform body) fun rest => rfl

theorem readLetters_append (letters rest : Word) :
    readLetters letters (letters ++ rest) = .ok rest := by
  induction letters with
  | nil => rfl
  | cons letter letters induction => rw [List.cons_append, readLetters, if_pos rfl, induction]

theorem spells_literal {text : Word} {lexeme : Lexeme} (isLiteral : (text, lexeme) ∈ literals) :
    Spells text [lexeme] := by
  have spells : ∀ {byte : UInt8} {letters : Word}, isBlank byte = false → lexeme.isWhole →
      (∀ rest, readLexeme byte rest = literal lexeme letters rest) →
      Spells (byte :: letters) [lexeme] := by
    intro byte letters notBlank whole read rest _
    rw [List.cons_append, lexemes_cons notBlank, read, literal, readLetters_append]
    simp only [Except.map, lexemeOf, whole, if_true, List.cons_append, List.nil_append]
  simp only [literals, List.mem_cons, Prod.mk.injEq, List.not_mem_nil, or_false] at isLiteral
  rcases isLiteral with ⟨rfl, rfl⟩ | ⟨rfl, rfl⟩ | ⟨rfl, rfl⟩
  · have split : Word.ofString "null" = 0x6E :: Word.ofString "ull" := by decide +kernel
    exact split ▸ spells (by decide) rfl fun rest => rfl
  · have split : Word.ofString "true" = 0x74 :: Word.ofString "rue" := by decide +kernel
    exact split ▸ spells (by decide) rfl fun rest => rfl
  · have split : Word.ofString "false" = 0x66 :: Word.ofString "alse" := by decide +kernel
    exact split ▸ spells (by decide) rfl fun rest => rfl

/-! ## Blanks and marks around -/

theorem endsNumber_blank_append {blanks rest : Word} (blank : ∀ byte ∈ blanks, isBlank byte)
    (ends : EndsNumber rest) : EndsNumber (blanks ++ rest) := by
  cases blanks with
  | nil => exact ends
  | cons byte tail => exact endsNumber_of_isBlank (blank byte List.mem_cons_self) _

theorem lexemes_padded {before text behind : Word} (blankBefore : ∀ byte ∈ before, isBlank byte)
    (rest : Word) : lexemes (before ++ (text ++ behind) ++ rest) =
      lexemes (text ++ (behind ++ rest)) := by
  rw [List.append_assoc, List.append_assoc, lexemes_blank_append blankBefore]

def furtherText (close : UInt8) (texts : List Word) : Word :=
  texts.flatMap (0x2C :: ·) ++ [close]

theorem furtherText_cons (close : UInt8) (text : Word) (texts : List Word) :
    furtherText close (text :: texts) = 0x2C :: (text ++ furtherText close texts) := by
  rw [furtherText, List.flatMap_cons, List.append_assoc, List.cons_append]
  rfl

theorem closedText_cons (close : UInt8) (text : Word) (texts : List Word) :
    closedText close (text :: texts) = text ++ furtherText close texts := by
  induction texts generalizing text with
  | nil =>
      rw [closedText, List.intercalate_singleton, furtherText, List.flatMap_nil,
        List.nil_append]
  | cons second others induction =>
      have step : closedText close (text :: second :: others) =
          text ++ 0x2C :: closedText close (second :: others) := by
        rw [closedText, List.intercalate_cons_cons, List.append_assoc, List.append_assoc]
        rfl
      rw [step, induction, furtherText_cons]

theorem endsNumber_furtherText {close : UInt8} {mark : Lexeme} (isClose : (close, mark) ∈ marks)
    (texts : List Word) (rest : Word) : EndsNumber (furtherText close texts ++ rest) := by
  cases texts with
  | nil => exact endsNumber_mark isClose rest
  | cons text texts =>
      rw [furtherText_cons]
      exact endsNumber_mark comma_mem_marks _

end UploadRunner.Json
