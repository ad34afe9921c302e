import Mathlib.Data.List.TakeWhile
import UploadRunner.Proofs.Json.Numbers
import UploadRunner.Proofs.Json.Strings

/-! The spellings of token lists.

Marks, digits and strings are told apart by their first bytes, so blanks may stand
between them and need not. Only two numbers in a row would be read as one. -/

namespace UploadRunner.Json

/-! ## Spellings -/

def marks : List (UInt8 × Lexeme) :=
  [(0x7B, .openBrace), (0x7D, .closeBrace), (0x5B, .openBracket), (0x5D, .closeBracket),
    (0x3A, .colon), (0x2C, .comma)]

inductive LexemeSpelling : Lexeme → Word → Prop
  | mark {byte : UInt8} {lexeme : Lexeme} : (byte, lexeme) ∈ marks →
      LexemeSpelling lexeme [byte]
  | digit {value : Nat} : value < 10 →
      LexemeSpelling (.number (.natural value)) [digit value]
  | string {string : String} {body : Word} : TextSpelling string.toList body →
      LexemeSpelling (.string string) (quotationMark :: body ++ [quotationMark])

/-- The spellings of a list of tokens, with blanks before, between and behind them. -/
inductive Spelled : List Lexeme → Word → Prop
  | nil {blanks : Word} : (∀ byte ∈ blanks, isBlank byte) → Spelled [] blanks
  | cons {lexeme : Lexeme} {lexemes : List Lexeme} {blanks word rest : Word} :
      (∀ byte ∈ blanks, isBlank byte) → LexemeSpelling lexeme word → Spelled lexemes rest →
      Spelled (lexeme :: lexemes) (blanks ++ (word ++ rest))

def Lexeme.IsSimple : Lexeme → Prop
  | .number (.natural value) => value < 10
  | .number _ | .null | .boolean _ | .stray | .broken _ => False
  | _ => True

def Lexeme.IsMark : Lexeme → Prop
  | .openBrace | .closeBrace | .openBracket | .closeBracket | .colon | .comma => True
  | _ => False

def Lexeme.IsNumber : Lexeme → Prop
  | .number _ => True
  | _ => False

def Separated : List Lexeme → Prop
  | [] => True
  | lexeme :: lexemes =>
      (lexeme.IsNumber → ∀ next ∈ lexemes.head?, ¬ next.IsNumber) ∧ Separated lexemes

/-- Whether tokens can be told apart in all their spellings. -/
structure Scannable (lexemes : List Lexeme) : Prop where
  simple : ∀ lexeme ∈ lexemes, lexeme.IsSimple
  separated : Separated lexemes

/-! ## Lexemes -/

theorem Lexeme.IsSimple.isWhole {lexeme : Lexeme} (simple : lexeme.IsSimple) :
    lexeme.isWhole := by
  cases lexeme <;> first | rfl | cases simple

theorem lexemeOf_inv {α : Type} {lexeme : α → Lexeme} {read : Except Failure (α × Word)}
    {found : Lexeme} {behind : Word} (whole : found.isWhole)
    (equal : lexemeOf lexeme read = (found, behind)) :
    ∃ value, read = .ok (value, behind) ∧ found = lexeme value := by
  cases read with
  | error failure =>
      cases equal
      cases whole
  | ok result =>
      rcases result with ⟨value, rest⟩
      cases equal
      exact ⟨value, rfl, rfl⟩

theorem literal_inv {lexeme found : Lexeme} {letters rest behind : Word}
    (whole : found.isWhole) (equal : literal lexeme letters rest = (found, behind)) :
    found = lexeme := by
  rcases lexemeOf_inv whole equal with ⟨_, _, same⟩
  exact same

theorem readNumber_inv {isNegative : Bool} {number : Number} {input rest : Word}
    (simple : (Lexeme.number number).IsSimple)
    (read : readNumber isNegative input = .ok (number, rest)) :
    ∃ value, value < 10 ∧ number = .natural value ∧ isNegative = false ∧
      input = digit value :: rest := by
  cases number with
  | natural value =>
      rcases (readNumber_eq_natural_iff simple).mp read with ⟨positive, split, _⟩
      exact ⟨value, simple, rfl, positive, split⟩
  | negative magnitude => cases simple
  | real negative magnitude => cases simple

theorem readLexeme_inv {byte : UInt8} {rest behind : Word} {lexeme : Lexeme}
    (simple : lexeme.IsSimple) (read : readLexeme byte rest = (lexeme, behind)) :
    ∃ word, byte :: rest = word ++ behind ∧ LexemeSpelling lexeme word := by
  unfold readLexeme at read
  split at read
  -- Marks, then literals, then strings, signs and everything else.
  case h_1 | h_2 | h_3 | h_4 | h_5 | h_6 =>
    cases read
    exact ⟨[_], rfl, .mark (by simp [marks])⟩
  case h_7 | h_8 | h_9 =>
    rw [literal_inv simple.isWhole read] at simple
    cases simple
  case h_10 =>
    rcases lexemeOf_inv simple.isWhole read with ⟨string, taken, rfl⟩
    rcases (readString_eq_ok_iff _ _ _).mp taken with ⟨body, rfl, spelling⟩
    exact ⟨_, by simp, .string spelling⟩
  case h_11 =>
    rcases lexemeOf_inv simple.isWhole read with ⟨number, taken, rfl⟩
    rcases readNumber_inv simple taken with ⟨_, _, _, positive, _⟩
    cases positive
  case h_12 =>
    split at read
    · rcases lexemeOf_inv simple.isWhole read with ⟨number, taken, rfl⟩
      rcases readNumber_inv simple taken with ⟨value, small, rfl, _, split⟩
      exact ⟨[digit value], split, .digit small⟩
    · cases read
      cases simple

theorem readLexeme_digit {byte : UInt8} (isDigit : isDigit byte) (rest : Word) :
    readLexeme byte rest = lexemeOf .number (readNumber false (byte :: rest)) := by
  unfold readLexeme
  split
  case h_12 => rw [if_pos isDigit]
  all_goals exact absurd isDigit (by decide)

theorem LexemeSpelling.isWhole {lexeme : Lexeme} {word : Word}
    (spelling : LexemeSpelling lexeme word) : lexeme.isWhole := by
  cases spelling with
  | mark member =>
      have whole : ∀ mark ∈ marks, mark.2.isWhole := by decide
      exact whole _ member
  | digit _ => rfl
  | string _ => rfl

theorem LexemeSpelling.length_pos {lexeme : Lexeme} {word : Word}
    (spelling : LexemeSpelling lexeme word) : 0 < word.length := by
  cases spelling <;> simp

theorem readLexeme_spelling {lexeme : Lexeme} {word rest : Word}
    (spelling : LexemeSpelling lexeme word) (ends : lexeme.IsNumber → EndsNumber rest) :
    ∃ byte tail, word = byte :: tail ∧ isBlank byte = false ∧
      readLexeme byte (tail ++ rest) = (lexeme, rest) := by
  cases spelling with
  | @mark byte _ member =>
      refine ⟨byte, [], rfl, ?_⟩
      simp only [marks, List.mem_cons, Prod.mk.injEq, List.not_mem_nil, or_false] at member
      rcases member with ⟨rfl, rfl⟩ | ⟨rfl, rfl⟩ | ⟨rfl, rfl⟩ | ⟨rfl, rfl⟩ | ⟨rfl, rfl⟩ |
        ⟨rfl, rfl⟩ <;> exact ⟨by decide, rfl⟩
  | @digit value small =>
      refine ⟨digit value, [], rfl, ?_, ?_⟩
      · have bytes := digit_toNat small
        simp only [isBlank, Bool.or_eq_false_iff, decide_eq_false_iff_not]
        refine ⟨⟨⟨?_, ?_⟩, ?_⟩, ?_⟩ <;>
        · intro equal
          rw [equal] at bytes
          simp at bytes
          omega
      · rw [readLexeme_digit (isDigit_digit small), List.nil_append,
          readNumber_digit small (ends trivial)]
        rfl
  | @string string body spelled =>
      refine ⟨quotationMark, body ++ [quotationMark], rfl, by decide, ?_⟩
      have taken := (readString_eq_ok_iff (body ++ quotationMark :: rest) rest string).mpr
        ⟨body, rfl, spelled⟩
      rw [List.append_assoc, List.cons_append, List.nil_append]
      change lexemeOf .string (readString _) = _
      rw [taken]
      rfl

/-! ## Scans -/

theorem LexemeSpelling.endsNumber {lexeme : Lexeme} {word : Word}
    (spelling : LexemeSpelling lexeme word) (notNumber : ¬ lexeme.IsNumber) (rest : Word) :
    EndsNumber (word ++ rest) := by
  cases spelling with
  | @mark byte _ member =>
      rw [List.singleton_append, endsNumber_cons_iff]
      have ends : ∀ mark ∈ marks, (mark.1 ≠ 0x2E ∧ ¬ beginsExponent mark.1) ∧
          ¬ isDigit mark.1 := by
        decide
      exact ends _ member
  | digit small => exact absurd trivial notNumber
  | string spelled =>
      rw [List.cons_append, List.cons_append, endsNumber_cons_iff]
      decide

theorem not_number_of_mem_marks {byte : UInt8} {mark : Lexeme} (isMark : (byte, mark) ∈ marks) :
    ¬ mark.IsNumber := by
  intro isNumber
  cases mark with
  | number value => simp [marks] at isMark
  | _ => cases isNumber

theorem comma_mem_marks : ((0x2C : UInt8), Lexeme.comma) ∈ marks := by
  simp [marks]

theorem endsNumber_mark {byte : UInt8} {mark : Lexeme} (isMark : (byte, mark) ∈ marks)
    (rest : Word) : EndsNumber (byte :: rest) :=
  (LexemeSpelling.mark isMark).endsNumber (not_number_of_mem_marks isMark) rest

theorem endsNumber_of_isBlank {byte : UInt8} (blank : isBlank byte) (tail : Word) :
    EndsNumber (byte :: tail) := by
  rw [endsNumber_cons_iff]
  simp only [isBlank, Bool.or_eq_true, decide_eq_true_eq] at blank
  rcases blank with ((rfl | rfl) | rfl) | rfl <;> decide

theorem Spelled.endsNumber {lexemes : List Lexeme} {input : Word}
    (spelled : Spelled lexemes input) (notNumber : ∀ next ∈ lexemes.head?, ¬ next.IsNumber) :
    EndsNumber input := by
  cases spelled with
  | nil blank =>
      cases input with
      | nil => exact endsNumber_nil
      | cons byte tail => exact endsNumber_of_isBlank (blank byte List.mem_cons_self) tail
  | @cons lexeme lexemes blanks word rest blank spelling _ =>
      cases blanks with
      | nil => exact spelling.endsNumber (notNumber lexeme rfl) rest
      | cons byte tail => exact endsNumber_of_isBlank (blank byte List.mem_cons_self) _

theorem scanFirst_of_spelled {lexemes : List Lexeme} {input : Word}
    (spelled : Spelled lexemes input) (separated : Separated lexemes) :
    ∀ {count : Nat}, input.length ≤ count →
      (scanFirst count input).map Token.lexeme = lexemes := by
  -- A spelling is blanks, or blanks with a token and another spelling behind them.
  induction spelled with
  | @nil blanks blank =>
      intro count enough
      cases count with
      | zero => rfl
      | succ count =>
          have nothing : blanks.dropWhile isBlank = [] := by
            rw [List.dropWhile_eq_nil_iff]
            exact blank
          rw [scanFirst, nothing]
          rfl
  | @cons lexeme lexemes blanks word rest blank spelling spelled induction =>
      intro count enough
      have ends : lexeme.IsNumber → EndsNumber rest := by
        intro isNumber
        exact spelled.endsNumber (separated.1 isNumber)
      rcases readLexeme_spelling spelling ends with ⟨byte, tail, rfl, notBlank, read⟩
      simp only [List.length_append, List.length_cons] at enough
      cases count with
      | zero => omega
      | succ count =>
          have first : (blanks ++ (byte :: tail ++ rest)).dropWhile isBlank =
              byte :: (tail ++ rest) := by
            rw [List.dropWhile_append_of_pos blank, List.cons_append,
              List.dropWhile_cons_of_neg (by simp [notBlank])]
          have whole : lexeme.isWhole := spelling.isWhole
          rw [scanFirst, first]
          simp only [read, whole, if_true, List.map_cons]
          rw [induction separated.2 (by omega)]

theorem spelled_of_scanFirst (count : Nat) :
    ∀ {input : Word} {lexemes : List Lexeme}, input.length ≤ count →
      (∀ lexeme ∈ lexemes, lexeme.IsSimple) →
      (scanFirst count input).map Token.lexeme = lexemes → Spelled lexemes input := by
  induction count with
  | zero =>
      intro input lexemes enough simple scanned
      rw [List.length_eq_zero_iff.mp (Nat.le_zero.mp enough)]
      cases scanned
      exact .nil (by simp)
  | succ count induction =>
      intro input lexemes enough simple scanned
      -- A token that is spelled takes at least one byte, so the count does not run out.
      have split := List.takeWhile_append_dropWhile (p := isBlank) (l := input)
      have blank : ∀ byte ∈ input.takeWhile isBlank, isBlank byte := fun _ member =>
        List.mem_takeWhile_imp member
      rw [scanFirst] at scanned
      generalize input.takeWhile isBlank = blanks at split blank
      cases left : input.dropWhile isBlank with
      | nil =>
          rw [left] at scanned split
          rw [List.append_nil] at split
          cases scanned
          rw [← split]
          exact .nil blank
      | cons byte rest =>
          rw [left] at scanned split
          cases read : readLexeme byte rest with
          | mk lexeme behind =>
              simp only [read, List.map_cons] at scanned
              have simpleHead : lexeme.IsSimple := by
                apply simple
                rw [← scanned]
                exact List.mem_cons_self
              rcases readLexeme_inv simpleHead read with ⟨word, cut, spelling⟩
              rw [if_pos spelling.isWhole] at scanned
              have shorter : behind.length ≤ count := by
                have nonempty := spelling.length_pos
                have lengths := congrArg List.length split
                rw [cut, List.length_append, List.length_append] at lengths
                omega
              rw [← split, cut, ← scanned]
              refine .cons blank spelling (induction shorter ?_ rfl)
              intro other member
              apply simple
              rw [← scanned]
              exact List.mem_cons_of_mem lexeme member

/-- Where no two numbers meet, a list of simple tokens is scanned from its spellings, and
from nothing else. -/
theorem scan_eq_iff {lexemes : List Lexeme} (scannable : Scannable lexemes) (text : Word) :
    (scan text).map Token.lexeme = lexemes ↔ Spelled lexemes text := by
  constructor
  · exact spelled_of_scanFirst text.length (Nat.le_refl _) scannable.simple
  · intro spelled
    exact scanFirst_of_spelled spelled scannable.separated (Nat.le_refl _)

/-! ## Composed lists -/

theorem scannable_singleton {lexeme : Lexeme} (simple : lexeme.IsSimple) :
    Scannable [lexeme] where
  simple := by
    intro other member
    rw [List.mem_singleton.mp member]
    exact simple
  separated := by
    refine ⟨?_, trivial⟩
    intro _ next first
    cases first

theorem Lexeme.IsMark.simple {lexeme : Lexeme} (isMark : lexeme.IsMark) : lexeme.IsSimple := by
  cases lexeme <;> trivial

theorem Lexeme.IsMark.not_number {lexeme : Lexeme} (isMark : lexeme.IsMark) :
    ¬ lexeme.IsNumber := by
  intro isNumber
  cases lexeme <;> first | exact isMark | exact isNumber

theorem Separated.append {first rest : List Lexeme} {mark : Lexeme} (isMark : mark.IsMark)
    (separatedFirst : Separated first) (separatedRest : Separated rest) :
    Separated (first ++ mark :: rest) := by
  induction first with
  | nil => exact ⟨fun isNumber => absurd isNumber isMark.not_number, separatedRest⟩
  | cons lexeme first induction =>
      refine ⟨?_, induction separatedFirst.2⟩
      intro isNumber next head
      cases first with
      | nil =>
          cases head
          exact isMark.not_number
      | cons second others =>
          cases head
          exact separatedFirst.1 isNumber next rfl

theorem Scannable.append {first rest : List Lexeme} {mark : Lexeme}
    (scannableFirst : Scannable first) (isMark : mark.IsMark)
    (scannableRest : Scannable rest) : Scannable (first ++ mark :: rest) where
  simple := by
    intro lexeme member
    rcases List.mem_append.mp member with earlier | later
    · exact scannableFirst.simple lexeme earlier
    rcases List.mem_cons.mp later with rfl | later
    · exact isMark.simple
    · exact scannableRest.simple lexeme later
  separated := scannableFirst.separated.append isMark scannableRest.separated

theorem scannable_nil : Scannable [] where
  simple := fun _ member => nomatch member
  separated := trivial

end UploadRunner.Json
