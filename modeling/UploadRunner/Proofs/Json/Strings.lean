import UploadRunner.Json.Token
import UploadRunner.Proofs.Text.Utf8

/-! The spellings of strings.

Between its quotation marks, a string is written character by character, each as it is
or by one of its escapes. Reading undoes every spelling, and accepts nothing else. -/

namespace UploadRunner.Json

/-! ## Spellings -/

def shortEscapes : List (UInt8 × Char) :=
  [(0x22, '"'), (0x5C, '\\'), (0x2F, '/'), (0x62, '\x08'), (0x66, '\x0C'), (0x6E, '\n'),
    (0x72, '\r'), (0x74, '\t')]

def IsHexDigit (byte : UInt8) (value : Nat) : Prop :=
  value < 10 ∧ byte.toNat = '0'.toNat + value ∨
    10 ≤ value ∧ value < 16 ∧
      (byte.toNat = 'A'.toNat + (value - 10) ∨ byte.toNat = 'a'.toNat + (value - 10))

inductive UnitSpelling : Nat → Word → Prop
  | digits {first second third fourth : UInt8} {a b c d : Nat} :
      IsHexDigit first a → IsHexDigit second b → IsHexDigit third c → IsHexDigit fourth d →
      UnitSpelling (((a * 16 + b) * 16 + c) * 16 + d) [first, second, third, fourth]

inductive EscapeSpelling (character : Char) : Word → Prop
  | short {mark : UInt8} : (mark, character) ∈ shortEscapes →
      EscapeSpelling character [backslash, mark]
  | single {digits : Word} : UnitSpelling character.toNat digits →
      EscapeSpelling character (backslash :: codeUnitMark :: digits)
  | pair {leading trailing : Nat} {first second : Word} :
      UnitSpelling leading first → UnitSpelling trailing second →
      0xD800 ≤ leading → leading ≤ 0xDBFF → 0xDC00 ≤ trailing → trailing ≤ 0xDFFF →
      character.toNat = 0x10000 + (leading - 0xD800) * 0x400 + (trailing - 0xDC00) →
      EscapeSpelling character
        (backslash :: codeUnitMark :: first ++ backslash :: codeUnitMark :: second)

/-- The spellings of a character inside a string: its encoding, unless it is a control
character, a quotation mark or a backslash, and its escapes. -/
inductive CharacterSpelling (character : Char) : Word → Prop
  | raw : 0x20 ≤ character.toNat → character ≠ '"' → character ≠ '\\' →
      CharacterSpelling character (String.utf8EncodeChar character)
  | escape {word : Word} : EscapeSpelling character word → CharacterSpelling character word

inductive TextSpelling : Text → Word → Prop
  | nil : TextSpelling [] []
  | cons {character : Char} {text : Text} {word rest : Word} :
      CharacterSpelling character word → TextSpelling text rest →
      TextSpelling (character :: text) (word ++ rest)

/-! ## Code units -/

theorem hexDigit?_eq_some_iff (byte : UInt8) (value : Nat) :
    hexDigit? byte = some value ↔ IsHexDigit byte value := by
  have zero : '0'.toNat = 0x30 := rfl
  have upper : 'A'.toNat = 0x41 := rfl
  have lower : 'a'.toNat = 0x61 := rfl
  rw [hexDigit?, IsHexDigit, zero, upper, lower]
  simp only [UInt8.le_iff_toNat_le, UInt8.reduceToNat]
  split
  · rw [Option.some.injEq]
    omega
  split
  · rw [Option.some.injEq]
    omega
  split
  · rw [Option.some.injEq]
    omega
  · simp only [reduceCtorEq, false_iff]
    omega

theorem hexValue?_eq_some_iff (first second third fourth : UInt8) (value : Nat) :
    hexValue? [first, second, third, fourth] = some value ↔
      UnitSpelling value [first, second, third, fourth] := by
  constructor
  · intro read
    simp only [hexValue?, List.foldlM_cons, List.foldlM_nil, Option.bind_eq_bind,
      Option.bind_eq_some_iff, Option.map_eq_some_iff, hexDigit?_eq_some_iff,
      Option.pure_def, Option.some.injEq] at read
    rcases read with ⟨_, ⟨a, isFirst, rfl⟩, _, ⟨b, isSecond, rfl⟩, _, ⟨c, isThird, rfl⟩,
      _, ⟨d, isFourth, rfl⟩, rfl⟩
    rw [Nat.zero_mul, Nat.zero_add]
    exact .digits isFirst isSecond isThird isFourth
  · intro spelling
    cases spelling with
    | digits isFirst isSecond isThird isFourth =>
        rw [← hexDigit?_eq_some_iff] at isFirst isSecond isThird isFourth
        simp [hexValue?, isFirst, isSecond, isThird, isFourth]

theorem UnitSpelling.lt {value : Nat} {digits : Word} (spelling : UnitSpelling value digits) :
    value < 0x10000 := by
  cases spelling with
  | digits first second third fourth =>
      unfold IsHexDigit at first second third fourth
      omega

/-! ## Escapes

Each state of the reader takes certain bytes and nothing else. Together they take the
escapes of a character. -/

theorem prepend_eq_ok_iff {bytes all rest : Word} {read : Except Failure (Word × Word)} :
    prepend bytes read = .ok (all, rest) ↔
      ∃ more, read = .ok (more, rest) ∧ all = bytes ++ more := by
  cases read with
  | error failure => simp [prepend, Except.map]
  | ok result =>
      rcases result with ⟨more, behind⟩
      simp only [prepend, Except.map, Except.ok.injEq, Prod.mk.injEq]
      constructor
      · rintro ⟨rfl, rfl⟩
        exact ⟨more, ⟨rfl, rfl⟩, rfl⟩
      · rintro ⟨_, ⟨rfl, rfl⟩, rfl⟩
        exact ⟨rfl, rfl⟩

theorem shortEscape?_eq_some_iff {mark meant : UInt8} :
    shortEscape? mark = some meant ↔
      ∃ character, (mark, character) ∈ shortEscapes ∧
        String.utf8EncodeChar character = [meant] := by
  constructor
  · intro read
    unfold shortEscape? at read
    split at read <;> cases read
    · exact ⟨'"', by decide, by decide⟩
    · exact ⟨'\\', by decide, by decide⟩
    · exact ⟨'/', by decide, by decide⟩
    · exact ⟨'\x08', by decide, by decide⟩
    · exact ⟨'\x0C', by decide, by decide⟩
    · exact ⟨'\n', by decide, by decide⟩
    · exact ⟨'\r', by decide, by decide⟩
    · exact ⟨'\t', by decide, by decide⟩
  · rintro ⟨character, member, encoded⟩
    simp only [shortEscapes, List.mem_cons, Prod.mk.injEq, List.not_mem_nil, or_false] at member
    rcases member with ⟨rfl, rfl⟩ | ⟨rfl, rfl⟩ | ⟨rfl, rfl⟩ | ⟨rfl, rfl⟩ | ⟨rfl, rfl⟩ |
      ⟨rfl, rfl⟩ | ⟨rfl, rfl⟩ | ⟨rfl, rfl⟩ <;>
    · cases encoded
      rfl

/-- What the reader makes of a code unit behind its last digit. -/
def afterUnit (unit : Nat) (leading : Option Nat) (rest : Word) : Except Failure (Word × Word) :=
  match leading with
  | none =>
      if isLeading unit then readBytes (.pairEscape unit) rest
      else if isTrailing unit then .error ⟨.loneSurrogate, rest⟩
      else prepend (encode unit) (readBytes .plain rest)
  | some leading =>
      if isTrailing unit then prepend (encode (pairValue leading unit)) (readBytes .plain rest)
      else .error ⟨.loneSurrogate, rest⟩

theorem readBytes_unit {unit : Nat} {digits : Word} (spelling : UnitSpelling unit digits)
    (leading : Option Nat) (rest : Word) :
    readBytes (.codeUnit leading []) (digits ++ rest) = afterUnit unit leading rest := by
  have value := spelling
  cases spelling with
  | digits isFirst isSecond isThird isFourth =>
      rw [← hexValue?_eq_some_iff] at value
      cases leading <;> simp [readBytes, value, afterUnit]

theorem readBytes_unit_inv {leading : Option Nat} {input : Word} {result : Word × Word}
    (read : readBytes (.codeUnit leading []) input = .ok result) :
    ∃ unit digits rest, input = digits ++ rest ∧ UnitSpelling unit digits ∧
      afterUnit unit leading rest = .ok result := by
  match input with
  | [] | [_] | [_, _] | [_, _, _] => simp [readBytes] at read
  | first :: second :: third :: fourth :: rest =>
      cases value : hexValue? [first, second, third, fourth] with
      | none => simp [readBytes, value] at read
      | some unit =>
          have spelling := (hexValue?_eq_some_iff first second third fourth unit).mp value
          refine ⟨unit, [first, second, third, fourth], rest, rfl, spelling, ?_⟩
          rw [← readBytes_unit spelling]
          exact read

theorem readBytes_pair_inv {leading : Nat} {input : Word} {result : Word × Word}
    (read : readBytes (.pairEscape leading) input = .ok result) :
    ∃ trailing digits rest, input = backslash :: codeUnitMark :: digits ++ rest ∧
      UnitSpelling trailing digits ∧ isTrailing trailing ∧
      prepend (encode (pairValue leading trailing)) (readBytes .plain rest) = .ok result := by
  match input with
  | [] => simp [readBytes] at read
  | [first] =>
      by_cases isEscape : first = backslash <;> simp [readBytes, isEscape] at read
  | first :: second :: behind =>
      by_cases isEscape : first = backslash
      · by_cases isMark : second = codeUnitMark
        · subst isEscape isMark
          rcases readBytes_unit_inv (by simpa [readBytes] using read) with
            ⟨trailing, digits, rest, rfl, spelling, after⟩
          by_cases isTrail : isTrailing trailing
          · rw [afterUnit, if_pos isTrail] at after
            exact ⟨trailing, digits, rest, rfl, spelling, isTrail, after⟩
          · simp [afterUnit, isTrail] at after
        · simp [readBytes, isEscape, isMark] at read
      · simp [readBytes, isEscape] at read

theorem encode_toNat (character : Char) :
    encode character.toNat = String.utf8EncodeChar character := by
  rw [encode, Char.ofNat_toNat]

theorem isLeading_iff (unit : Nat) : isLeading unit ↔ 0xD800 ≤ unit ∧ unit ≤ 0xDBFF := by
  simp [isLeading]

theorem isTrailing_iff (unit : Nat) : isTrailing unit ↔ 0xDC00 ≤ unit ∧ unit ≤ 0xDFFF := by
  simp [isTrailing]

theorem toNat_pair {leading trailing : Nat} (isLead : isLeading leading)
    (isTrail : isTrailing trailing) :
    (Char.ofNat (pairValue leading trailing)).toNat =
      0x10000 + (leading - 0xD800) * 0x400 + (trailing - 0xDC00) := by
  rw [isLeading_iff] at isLead
  rw [isTrailing_iff] at isTrail
  apply Utf8.toNat_ofNat_char
  unfold pairValue Nat.isValidChar
  right
  constructor <;> omega

theorem toNat_single {unit : Nat} (bound : unit < 0x10000) (notLead : ¬ isLeading unit)
    (notTrail : ¬ isTrailing unit) : (Char.ofNat unit).toNat = unit := by
  rw [isLeading_iff] at notLead
  rw [isTrailing_iff] at notTrail
  apply Utf8.toNat_ofNat_char
  unfold Nat.isValidChar
  omega

theorem encode_pairValue {character : Char} {leading trailing : Nat}
    (value : character.toNat = 0x10000 + (leading - 0xD800) * 0x400 + (trailing - 0xDC00)) :
    encode (pairValue leading trailing) = String.utf8EncodeChar character := by
  have equal : pairValue leading trailing = character.toNat := by
    unfold pairValue
    omega
  rw [equal, encode_toNat]

theorem encode_of_mem_shortEscapes {mark : UInt8} {character : Char}
    (member : (mark, character) ∈ shortEscapes) :
    ∃ meant, String.utf8EncodeChar character = [meant] := by
  have small : ∀ escape ∈ shortEscapes, escape.2.toNat < 0x80 := by decide
  exact ⟨_, Utf8.encode_one (small _ member)⟩

theorem readBytes_backslash (rest : Word) :
    readBytes .plain (backslash :: rest) = readBytes .escape rest := rfl

theorem readBytes_unitMark (rest : Word) :
    readBytes .escape (codeUnitMark :: rest) = readBytes (.codeUnit none []) rest := rfl

theorem readBytes_secondUnit (leading : Nat) (rest : Word) :
    readBytes (.pairEscape leading) (backslash :: codeUnitMark :: rest) =
      readBytes (.codeUnit (some leading) []) rest := rfl

theorem readBytes_escape {character : Char} {word : Word}
    (spelling : EscapeSpelling character word) (rest : Word) :
    readBytes .plain (word ++ rest) =
      prepend (String.utf8EncodeChar character) (readBytes .plain rest) := by
  have valid : character.toNat < 0xD800 ∨ 0xDFFF < character.toNat ∧ character.toNat < 0x110000 :=
    character.valid
  cases spelling with
  | @short mark member =>
      have noUnit : ∀ escape ∈ shortEscapes, escape.1 ≠ codeUnitMark := by decide
      have notUnit : mark ≠ codeUnitMark := noUnit _ member
      rcases encode_of_mem_shortEscapes member with ⟨meant, encoded⟩
      have taken := shortEscape?_eq_some_iff.mpr ⟨character, member, encoded⟩
      simp [readBytes_backslash, readBytes, notUnit, taken, encoded]
  | @single digits spelled =>
      have notLeading : ¬ isLeading character.toNat := by
        rw [isLeading_iff]
        omega
      have notTrailing : ¬ isTrailing character.toNat := by
        rw [isTrailing_iff]
        omega
      have after := readBytes_unit spelled none rest
      rw [afterUnit, if_neg notLeading, if_neg notTrailing, encode_toNat] at after
      rw [List.cons_append, List.cons_append, readBytes_backslash, readBytes_unitMark, after]
  | @pair leading trailing first second spelledFirst spelledSecond leadingLow leadingHigh
      trailingLow trailingHigh value =>
      have isLead : isLeading leading := (isLeading_iff leading).mpr ⟨leadingLow, leadingHigh⟩
      have isTrail : isTrailing trailing :=
        (isTrailing_iff trailing).mpr ⟨trailingLow, trailingHigh⟩
      have afterFirst :=
        readBytes_unit spelledFirst none (backslash :: codeUnitMark :: second ++ rest)
      rw [afterUnit, if_pos isLead] at afterFirst
      have afterSecond := readBytes_unit spelledSecond (some leading) rest
      simp only [afterUnit, if_pos isTrail, encode_pairValue value] at afterSecond
      simp only [List.cons_append, List.append_assoc] at afterFirst ⊢
      rw [readBytes_backslash, readBytes_unitMark, afterFirst, readBytes_secondUnit, afterSecond]

theorem readBytes_escape_inv {input : Word} {result : Word × Word}
    (read : readBytes .escape input = .ok result) :
    ∃ character word rest, backslash :: input = word ++ rest ∧ EscapeSpelling character word ∧
      prepend (String.utf8EncodeChar character) (readBytes .plain rest) = .ok result := by
  cases input with
  | nil => simp [readBytes] at read
  | cons mark behind =>
      by_cases isUnit : mark = codeUnitMark
      · subst isUnit
        rcases readBytes_unit_inv (by simpa [readBytes] using read) with
          ⟨unit, digits, rest, rfl, spelling, after⟩
        by_cases isLead : isLeading unit
        · rw [afterUnit, if_pos isLead] at after
          rcases readBytes_pair_inv after with
            ⟨trailing, second, last, rfl, spelled, isTrail, taken⟩
          have leadingBounds := (isLeading_iff unit).mp isLead
          have trailingBounds := (isTrailing_iff trailing).mp isTrail
          have escape := EscapeSpelling.pair spelling spelled leadingBounds.1 leadingBounds.2
            trailingBounds.1 trailingBounds.2 (toNat_pair isLead isTrail)
          refine ⟨_, _, last, ?_, escape, taken⟩
          simp only [List.cons_append, List.append_assoc]
        · by_cases isTrail : isTrailing unit
          · simp [afterUnit, isLead, isTrail] at after
          · rw [afterUnit, if_neg isLead, if_neg isTrail] at after
            have value := toNat_single spelling.lt isLead isTrail
            exact ⟨Char.ofNat unit, _, rest, rfl, .single (value.symm ▸ spelling), after⟩
      · cases taken : shortEscape? mark with
        | none => simp [readBytes, isUnit, taken] at read
        | some meant =>
            rcases shortEscape?_eq_some_iff.mp taken with ⟨character, member, encoded⟩
            refine ⟨character, [backslash, mark], behind, rfl, .short member, ?_⟩
            rw [encoded]
            simpa [readBytes, isUnit, taken] using read

/-! ## Bytes

The reader takes a string byte by byte, and does not look at which bytes make a
character. So what it takes is described for bytes first. -/

def IsPlain (byte : UInt8) : Prop :=
  0x20 ≤ byte.toNat ∧ byte ≠ quotationMark ∧ byte ≠ backslash

inductive BytesSpelling : Word → Word → Prop
  | nil : BytesSpelling [] []
  | raw {byte : UInt8} {bytes rest : Word} : IsPlain byte → BytesSpelling bytes rest →
      BytesSpelling (byte :: bytes) (byte :: rest)
  | escape {character : Char} {word bytes rest : Word} : EscapeSpelling character word →
      BytesSpelling bytes rest →
      BytesSpelling (String.utf8EncodeChar character ++ bytes) (word ++ rest)

theorem readBytes_plain {byte : UInt8} (plain : IsPlain byte) (rest : Word) :
    readBytes .plain (byte :: rest) = prepend [byte] (readBytes .plain rest) := by
  rcases plain with ⟨printed, notQuote, notEscape⟩
  have notControl : ¬ byte < 0x20 := UInt8.not_lt.mpr printed
  rw [readBytes, if_neg notQuote, if_neg notEscape, if_neg notControl]

theorem readBytes_spelling {bytes body : Word} (spelling : BytesSpelling bytes body)
    (rest : Word) : readBytes .plain (body ++ quotationMark :: rest) = .ok (bytes, rest) := by
  induction spelling with
  | nil => rfl
  | raw plain _ induction =>
      rw [List.cons_append, readBytes_plain plain, prepend_eq_ok_iff]
      exact ⟨_, induction, rfl⟩
  | escape escape _ induction =>
      rw [List.append_assoc, readBytes_escape escape, prepend_eq_ok_iff]
      exact ⟨_, induction, rfl⟩

theorem readBytes_plain_inv {byte : UInt8} {tail bytes rest : Word}
    (read : readBytes .plain (byte :: tail) = .ok (bytes, rest)) :
    byte = quotationMark ∧ bytes = [] ∧ tail = rest ∨
      (∃ more, IsPlain byte ∧ bytes = byte :: more ∧ readBytes .plain tail = .ok (more, rest)) ∨
      ∃ character word behind more, byte :: tail = word ++ behind ∧
        EscapeSpelling character word ∧ bytes = String.utf8EncodeChar character ++ more ∧
        readBytes .plain behind = .ok (more, rest) := by
  by_cases isQuote : byte = quotationMark
  · rw [readBytes, if_pos isQuote, Except.ok.injEq, Prod.mk.injEq] at read
    exact .inl ⟨isQuote, read.1.symm, read.2⟩
  by_cases isEscape : byte = backslash
  · rw [isEscape, readBytes_backslash] at read
    rcases readBytes_escape_inv read with ⟨character, word, behind, split, escape, taken⟩
    rcases prepend_eq_ok_iff.mp taken with ⟨more, readMore, all⟩
    rw [isEscape]
    exact .inr (.inr ⟨character, word, behind, more, split, escape, all, readMore⟩)
  by_cases isControl : byte < 0x20
  · simp [readBytes, isQuote, isEscape, isControl] at read
  · have plain : IsPlain byte := ⟨UInt8.not_lt.mp isControl, isQuote, isEscape⟩
    rw [readBytes_plain plain] at read
    rcases prepend_eq_ok_iff.mp read with ⟨more, readMore, all⟩
    exact .inr (.inl ⟨more, plain, all, readMore⟩)

theorem EscapeSpelling.length_pos {character : Char} {word : Word}
    (spelling : EscapeSpelling character word) : 0 < word.length := by
  cases spelling <;> simp

theorem spelling_of_readBytes (count : Nat) :
    ∀ {input bytes rest : Word}, input.length ≤ count →
      readBytes .plain input = .ok (bytes, rest) →
      ∃ body, input = body ++ quotationMark :: rest ∧ BytesSpelling bytes body := by
  -- An escape takes several bytes at once, so the induction is on the length.
  induction count with
  | zero =>
      intro input bytes rest bound read
      rw [List.length_eq_zero_iff.mp (Nat.le_zero.mp bound)] at read
      simp [readBytes] at read
  | succ count induction =>
      intro input bytes rest bound read
      cases input with
      | nil => simp [readBytes] at read
      | cons byte tail =>
          rcases readBytes_plain_inv read with ⟨rfl, rfl, rfl⟩ | ⟨more, plain, rfl, readMore⟩ |
            ⟨character, word, behind, more, split, escape, rfl, readMore⟩
          · exact ⟨[], rfl, .nil⟩
          · rcases induction (Nat.le_of_succ_le_succ bound) readMore with ⟨body, rfl, spelling⟩
            exact ⟨byte :: body, rfl, .raw plain spelling⟩
          · have shorter : behind.length ≤ count := by
              have lengths := congrArg List.length split
              have positive := escape.length_pos
              rw [List.length_append] at lengths
              omega
            rcases induction shorter readMore with ⟨body, rfl, spelling⟩
            refine ⟨word ++ body, ?_, .escape escape spelling⟩
            rw [split, List.append_assoc]

theorem readBytes_eq_ok_iff (input bytes rest : Word) :
    readBytes .plain input = .ok (bytes, rest) ↔
      ∃ body, input = body ++ quotationMark :: rest ∧ BytesSpelling bytes body := by
  constructor
  · exact spelling_of_readBytes input.length (Nat.le_refl _)
  · rintro ⟨body, rfl, spelling⟩
    exact readBytes_spelling spelling rest

/-! ## Texts

The first byte of a character is never one that continues a character, and escapes stand
for whole characters. So the bytes of a character are spelled by one escape, or each as
it is. -/

theorem BytesSpelling.plain_append {bytes body : Word} (spelling : BytesSpelling bytes body)
    {first : Word} (plain : ∀ byte ∈ first, IsPlain byte) :
    BytesSpelling (first ++ bytes) (first ++ body) := by
  induction first with
  | nil => exact spelling
  | cons byte first induction =>
      exact .raw (plain byte List.mem_cons_self)
        (induction fun other member => plain other (List.mem_cons_of_mem byte member))

theorem isPlain_of_ge {byte : UInt8} (large : 0x80 ≤ byte.toNat) : IsPlain byte := by
  refine ⟨by omega, ?_, ?_⟩ <;>
  · rintro rfl
    exact absurd large (by decide)

theorem isPlain_encode {character : Char} (printed : 0x20 ≤ character.toNat)
    (notQuote : character ≠ '"') (notEscape : character ≠ '\\') :
    ∀ byte ∈ String.utf8EncodeChar character, IsPlain byte := by
  rcases Utf8.encode_shape character with
    ⟨first, later, encoded, continued, ⟨small, value, rfl⟩ | ⟨_, large⟩⟩
  · intro byte member
    rw [encoded, List.mem_singleton] at member
    subst member
    refine ⟨by omega, ?_, ?_⟩
    · rintro rfl
      exact notQuote (Char.toNat_inj.mp value.symm)
    · rintro rfl
      exact notEscape (Char.toNat_inj.mp value.symm)
  · intro byte member
    rw [encoded, List.mem_cons] at member
    rcases member with rfl | member
    · exact isPlain_of_ge (by omega)
    · exact isPlain_of_ge (continued byte member).1

theorem TextSpelling.bytes {text : Text} {body : Word} (spelling : TextSpelling text body) :
    BytesSpelling (Word.ofText text) body := by
  induction spelling with
  | nil => exact .nil
  | cons character _ induction =>
      cases character with
      | raw printed notQuote notEscape =>
          exact induction.plain_append (isPlain_encode printed notQuote notEscape)
      | escape escape => exact .escape escape induction

theorem BytesSpelling.continued {later : Word}
    (continued : ∀ byte ∈ later, 0x80 ≤ byte.toNat ∧ byte.toNat < 0xC0) :
    ∀ {bytes body : Word}, BytesSpelling (later ++ bytes) body →
      ∃ rest, body = later ++ rest ∧ BytesSpelling bytes rest := by
  -- Escapes stand for whole characters, whose first byte continues none.
  induction later with
  | nil =>
      intro bytes body spelling
      exact ⟨body, rfl, spelling⟩
  | cons byte later induction =>
      intro bytes body spelling
      rw [List.cons_append] at spelling
      generalize whole : byte :: (later ++ bytes) = all at spelling
      cases spelling with
      | nil => cases whole
      | raw plain spelling =>
          cases whole
          rcases induction (fun other member => continued other (List.mem_cons_of_mem byte member))
            spelling with ⟨rest, rfl, tail⟩
          exact ⟨rest, rfl, tail⟩
      | @escape character word more rest escape spelling =>
          rcases Utf8.encode_shape character with
            ⟨first, others, encoded, _, ⟨small, value, _⟩ | ⟨_, large⟩⟩ <;>
          · rw [encoded, List.cons_append, List.cons.injEq] at whole
            have bounds := continued byte List.mem_cons_self
            rw [whole.1] at bounds
            omega

theorem CharacterSpelling.of_isPlain {character : Char} {first : UInt8} {later : Word}
    (encoded : String.utf8EncodeChar character = first :: later) (plain : IsPlain first) :
    CharacterSpelling character (first :: later) := by
  rcases plain with ⟨printed, notQuote, notEscape⟩
  rcases Utf8.encode_shape character with ⟨_, _, shape, _, ⟨_, value, _⟩ | ⟨long, _⟩⟩ <;>
  rw [encoded, List.cons.injEq] at shape <;> rw [← encoded]
  · rw [← shape.1] at value
    refine .raw (by omega) ?_ ?_
    · rintro rfl
      exact notQuote (UInt8.toNat_inj.mp value)
    · rintro rfl
      exact notEscape (UInt8.toNat_inj.mp value)
  · refine .raw (by omega) ?_ ?_ <;>
    · rintro rfl
      exact absurd long (by decide)

theorem BytesSpelling.text {text : Text} :
    ∀ {body : Word}, BytesSpelling (Word.ofText text) body → TextSpelling text body := by
  induction text with
  | nil =>
      intro body spelling
      generalize whole : Word.ofText [] = bytes at spelling
      cases spelling with
      | nil => exact .nil
      | raw _ _ => cases whole
      | @escape character word more rest _ _ =>
          rcases Utf8.encode_shape character with ⟨first, later, encoded, _⟩
          rw [encoded] at whole
          cases whole
  | cons character text induction =>
      intro body spelling
      generalize whole : Word.ofText (character :: text) = bytes at spelling
      rw [Word.ofText, List.flatMap_cons, ← Word.ofText] at whole
      rcases Utf8.encode_shape character with ⟨first, later, encoded, continued, _⟩
      cases spelling with
      | nil =>
          rw [encoded] at whole
          cases whole
      | @raw byte more rest plain spelling =>
          rw [encoded, List.cons_append, List.cons.injEq] at whole
          rcases whole with ⟨rfl, rfl⟩
          rcases spelling.continued continued with ⟨tail, rfl, spelledTail⟩
          exact .cons (.of_isPlain encoded plain) (induction spelledTail)
      | @escape other word more rest escape spelling =>
          rcases Utf8.encode_append_injective whole with ⟨rfl, rfl⟩
          exact .cons (.escape escape) (induction spelling)

theorem textSpelling_ofText {text : Text}
    (plain : ∀ character ∈ text, 0x20 ≤ character.toNat ∧ character ≠ '"' ∧ character ≠ '\\') :
    TextSpelling text (Word.ofText text) := by
  induction text with
  | nil => exact .nil
  | cons character text induction =>
      rw [List.forall_mem_cons] at plain
      exact .cons (.raw plain.1.1 plain.1.2.1 plain.1.2.2) (induction plain.2)

theorem readString_eq_ok_iff (input rest : Word) (string : String) :
    readString input = .ok (string, rest) ↔
      ∃ body, input = body ++ quotationMark :: rest ∧ TextSpelling string.toList body := by
  constructor
  · intro read
    unfold readString at read
    split at read
    · cases read
    · rename_i bytes behind taken
      split at read
      · rename_i text decoded
        rw [Except.ok.injEq, Prod.mk.injEq] at read
        rcases read with ⟨rfl, rfl⟩
        rw [Word.text?_eq_some_iff] at decoded
        subst decoded
        rcases (readBytes_eq_ok_iff _ _ _).mp taken with ⟨body, split, spelling⟩
        rw [String.toList_ofList]
        exact ⟨body, split, spelling.text⟩
      · cases read
  · rintro ⟨body, rfl, spelling⟩
    have taken := readBytes_spelling spelling.bytes rest
    have decoded := (Word.text?_eq_some_iff _ _).mpr (rfl : Word.ofText string.toList = _)
    simp only [readString, taken, decoded, String.ofList_toList]

end UploadRunner.Json
