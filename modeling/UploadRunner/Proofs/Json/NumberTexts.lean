import Mathlib.Data.List.TakeWhile
import UploadRunner.Proofs.Json.Numbers

/-! The texts of numbers.

A number is a whole part, with or without a sign before it and with or without a fraction
and an exponent behind it. Whether it has a value, and which one, is settled by its own
bytes: what follows counts only if it goes on with the number. -/

namespace UploadRunner.Json

/-! ## Grammar -/

structure IsDigits (text : Word) : Prop where
  nonempty : text ≠ []
  digits : ∀ byte ∈ text, isDigit byte

/-- The whole part of a number. It begins with a zero only if it is one. -/
inductive WholePart : Word → Prop
  | zero : WholePart [0x30]
  | digits {first : UInt8} {more : Word} : isDigit first → first ≠ 0x30 →
      (∀ byte ∈ more, isDigit byte) → WholePart (first :: more)

inductive Fraction : Word → Prop
  | none : Fraction []
  | digits {digits : Word} : IsDigits digits → Fraction (0x2E :: digits)

inductive Exponent : Word → Prop
  | none : Exponent []
  | unsigned {mark : UInt8} {digits : Word} : beginsExponent mark → IsDigits digits →
      Exponent (mark :: digits)
  | signed {mark sign : UInt8} {digits : Word} : beginsExponent mark →
      sign = 0x2B ∨ sign = 0x2D → IsDigits digits → Exponent (mark :: sign :: digits)

inductive Magnitude : Word → Prop
  | parts {whole fraction exponent : Word} : WholePart whole → Fraction fraction →
      Exponent exponent → Magnitude (whole ++ (fraction ++ exponent))

inductive NumberText : Word → Prop
  | positive {text : Word} : Magnitude text → NumberText text
  | negative {text : Word} : Magnitude text → NumberText (0x2D :: text)

/-! ## Uniform readers -/

/-- Whether a reader makes the same of a text wherever nothing goes on with it as a number:
one value, or no value anywhere. -/
def Uniform {α : Type} (read : Word → Except Failure (α × Word)) (text : Word) : Prop :=
  (∃ value, ∀ rest, EndsNumber rest → read (text ++ rest) = .ok (value, rest)) ∨
    ∀ rest, EndsNumber rest → ∃ failure, read (text ++ rest) = .error failure

theorem Uniform.of_eq {α : Type} {read other : Word → Except Failure (α × Word)}
    {text shorter : Word} (uniform : Uniform other shorter)
    (same : ∀ rest, EndsNumber rest → read (text ++ rest) = other (shorter ++ rest)) :
    Uniform read text := by
  rcases uniform with ⟨value, found⟩ | failed
  · exact .inl ⟨value, fun rest ends => (same rest ends).trans (found rest ends)⟩
  · refine .inr fun rest ends => ?_
    rw [same rest ends]
    exact failed rest ends

theorem span_digits {digits rest : Word} (isDigits : ∀ byte ∈ digits, isDigit byte)
    (stops : ∀ byte ∈ rest.head?, ¬ isDigit byte) :
    (digits ++ rest).takeWhile isDigit = digits ∧ (digits ++ rest).dropWhile isDigit = rest := by
  rw [List.takeWhile_append_of_pos isDigits, List.dropWhile_append_of_pos isDigits]
  cases rest with
  | nil => simp
  | cons byte tail =>
      have notDigit := stops byte rfl
      simp [notDigit]

/-! ## Exponents -/

theorem readReal_uniform (isNegative : Bool) (value : Nat) (exponent : Int) :
    Uniform (readReal isNegative value exponent) [] := by
  unfold Uniform readReal
  cases Binary64.ofDecimal? value exponent with
  | some magnitude => exact .inl ⟨_, fun rest _ => rfl⟩
  | none => exact .inr fun rest _ => ⟨_, rfl⟩

/-- Digits are read to their end, or up to the one that makes the exponent too great. -/
theorem readExponentDigits_append {digits : Word} (isDigits : ∀ byte ∈ digits, isDigit byte) :
    ∀ exponent,
      (∃ found, ∀ rest, EndsNumber rest →
        readExponentDigits exponent (digits ++ rest) = (some found, rest)) ∨
      ∃ left, (∀ byte ∈ left, isDigit byte) ∧
        ∀ rest, readExponentDigits exponent (digits ++ rest) = (none, left ++ rest) := by
  induction digits with
  | nil =>
      intro exponent
      refine .inl ⟨exponent, fun rest ends => ?_⟩
      cases rest with
      | nil => rfl
      | cons byte tail => rw [List.nil_append, readExponentDigits, if_neg (ends.2 byte rfl)]
  | cons byte digits induction =>
      intro exponent
      rw [List.forall_mem_cons] at isDigits
      by_cases tooGreat : greatestExponent < exponent * 10 + digitValue byte
      · refine .inr ⟨digits, isDigits.2, fun rest => ?_⟩
        rw [List.cons_append, readExponentDigits, if_pos isDigits.1]
        simp only [tooGreat, if_true]
      · have next : ∀ rest, readExponentDigits exponent (byte :: digits ++ rest) =
            readExponentDigits (exponent * 10 + digitValue byte) (digits ++ rest) := by
          intro rest
          rw [List.cons_append, readExponentDigits, if_pos isDigits.1]
          simp only [tooGreat, if_false]
        simp only [next]
        exact induction isDigits.2 _

theorem readExponent_uniform (isNegative lowers : Bool) (significand : Significand)
    {digits : Word} (isDigits : IsDigits digits) :
    Uniform (readExponent isNegative significand lowers) digits := by
  cases digits with
  | nil => exact absurd rfl isDigits.nonempty
  | cons first more =>
      rcases List.forall_mem_cons.mp isDigits.digits with ⟨isFirst, areMore⟩
      rcases readExponentDigits_append areMore (digitValue first) with
        ⟨exponent, found⟩ | ⟨left, areLeft, found⟩
      · refine .of_eq (readReal_uniform isNegative significand.value
          (significand.exponent + if lowers then -(exponent : Int) else exponent)) ?_
        intro rest ends
        simp [readExponent, isFirst, found rest ends]
      · by_cases overflows : significand.value ≠ 0 ∧ !lowers
        · refine .inr fun rest _ => ⟨⟨.numberOutOfRange, left ++ rest⟩, ?_⟩
          simp only [List.cons_append, readExponent, isFirst, found, Bool.not_true,
            Bool.false_eq_true, if_false, overflows, ne_eq, not_false_eq_true, and_self, if_true]
        · refine .inl ⟨.real isNegative .zero, fun rest ends => ?_⟩
          rw [List.cons_append]
          unfold readExponent
          simp only [isFirst, found, Bool.not_true, Bool.false_eq_true, if_false]
          rw [if_neg overflows, (span_digits areLeft ends.2).2]

theorem readTail_of_ends {rest : Word} (ends : EndsWhole rest) (isNegative : Bool)
    (significand : Significand) :
    readTail isNegative significand rest =
      readReal isNegative significand.value significand.exponent rest := by
  cases rest with
  | nil => rfl
  | cons byte tail =>
      unfold readTail
      simp only
      rw [if_neg (ends byte rfl).2]

theorem readTail_unsigned {mark : UInt8} {digits : Word} (isMark : beginsExponent mark)
    (isDigits : IsDigits digits) (isNegative : Bool) (significand : Significand) (rest : Word) :
    readTail isNegative significand (mark :: digits ++ rest) =
      readExponent isNegative significand false (digits ++ rest) := by
  cases digits with
  | nil => exact absurd rfl isDigits.nonempty
  | cons first more =>
      have isFirst := isDigits.digits first List.mem_cons_self
      rw [List.cons_append]
      unfold readTail
      simp only
      rw [if_pos isMark]
      split
      · rename_i equal
        cases equal
        cases isFirst
      · rename_i equal
        cases equal
        cases isFirst
      · rfl

theorem readTail_uniform (isNegative : Bool) (significand : Significand) {exponent : Word}
    (isExponent : Exponent exponent) : Uniform (readTail isNegative significand) exponent := by
  cases isExponent with
  | none =>
      refine .of_eq (readReal_uniform isNegative significand.value significand.exponent) ?_
      exact fun rest ends => readTail_of_ends ends.1 isNegative significand
  | @unsigned mark digits isMark isDigits =>
      refine .of_eq (readExponent_uniform isNegative false significand isDigits) ?_
      exact fun rest _ => readTail_unsigned isMark isDigits isNegative significand rest
  | @signed mark sign digits isMark isSign isDigits =>
      rcases isSign with rfl | rfl
      · refine .of_eq (readExponent_uniform isNegative false significand isDigits) ?_
        intro rest _
        rw [List.cons_append, List.cons_append, readTail, if_pos isMark]
      · refine .of_eq (readExponent_uniform isNegative true significand isDigits) ?_
        intro rest _
        rw [List.cons_append, List.cons_append, readTail, if_pos isMark]

/-! ## Fractions and whole parts -/

theorem Exponent.stops {exponent rest : Word} (isExponent : Exponent exponent)
    (ends : EndsNumber rest) :
    ∀ byte ∈ (exponent ++ rest).head?, byte ≠ 0x2E ∧ ¬ isDigit byte := by
  have ofMark : ∀ mark : UInt8, beginsExponent mark → mark ≠ 0x2E ∧ ¬ isDigit mark := by
    intro mark isMark
    simp only [beginsExponent, Bool.or_eq_true, decide_eq_true_eq] at isMark
    rcases isMark with rfl | rfl <;> decide
  intro byte first
  cases isExponent with
  | none => exact ⟨(ends.1 byte first).1, ends.2 byte first⟩
  | unsigned isMark _ | signed isMark _ _ =>
      cases first
      exact ofMark _ isMark

theorem readFraction_uniform (isNegative : Bool) (significand : Significand)
    {digits exponent : Word} (isDigits : IsDigits digits) (isExponent : Exponent exponent) :
    Uniform (readFraction isNegative significand) (digits ++ exponent) := by
  refine .of_eq (readTail_uniform isNegative
    (digits.foldl Significand.pushFraction { significand with isFull := false }) isExponent) ?_
  intro rest ends
  have stops := fun byte first => (isExponent.stops ends byte first).2
  rcases span_digits isDigits.digits stops with ⟨taken, left⟩
  rw [List.append_assoc]
  unfold readFraction
  simp only [taken, left]
  rw [if_neg (by simpa using isDigits.nonempty)]

theorem readWhole_uniform (isNegative : Bool) (value : Nat) :
    Uniform (readWhole isNegative value) [] := by
  unfold Uniform readWhole
  split
  · exact .inl ⟨_, fun rest _ => rfl⟩
  split
  · exact .inl ⟨_, fun rest _ => rfl⟩
  · exact readReal_uniform true value 0

theorem readAfterWhole_exponent {exponent rest : Word} (isExponent : Exponent exponent)
    (ends : EndsNumber rest) (isNegative : Bool) (significand : Significand) :
    readAfterWhole isNegative significand (exponent ++ rest) =
      if significand.isFull || (exponent ++ rest).head?.any beginsExponent then
        readTail isNegative significand (exponent ++ rest)
      else readWhole isNegative significand.value (exponent ++ rest) := by
  have stops := isExponent.stops ends
  unfold readAfterWhole
  split
  · rename_i isPoint
    rw [isPoint] at stops
    exact absurd rfl (stops 0x2E rfl).1
  · rfl

theorem readAfterWhole_uniform (isNegative : Bool) (significand : Significand)
    {fraction exponent : Word} (isFraction : Fraction fraction)
    (isExponent : Exponent exponent) :
    Uniform (readAfterWhole isNegative significand) (fraction ++ exponent) := by
  cases isFraction with
  | digits isDigits =>
      refine .of_eq (readFraction_uniform isNegative significand isDigits isExponent) ?_
      exact fun rest _ => rfl
  | none =>
      rw [List.nil_append]
      by_cases tailed : significand.isFull ∨ exponent ≠ []
      · refine .of_eq (readTail_uniform isNegative significand isExponent) ?_
        intro rest ends
        rw [readAfterWhole_exponent isExponent ends, if_pos]
        rw [Bool.or_eq_true]
        refine tailed.imp_right fun nonempty => ?_
        cases isExponent with
        | none => exact absurd rfl nonempty
        | unsigned isMark _ | signed isMark _ _ => simpa using isMark
      · rw [not_or, not_not, Bool.not_eq_true] at tailed
        rcases tailed with ⟨notFull, rfl⟩
        refine .of_eq (readWhole_uniform isNegative significand.value) ?_
        intro rest ends
        rw [List.nil_append]
        exact readAfterWhole_whole notFull ends.1 isNegative

theorem readNumber_zero {rest : Word} (stops : ∀ byte ∈ rest.head?, ¬ isDigit byte)
    (isNegative : Bool) :
    readNumber isNegative (0x30 :: rest) = readAfterWhole isNegative ⟨0, 0, false⟩ rest := by
  unfold readNumber
  simp only
  rw [if_neg (by decide), if_pos trivial]
  cases rest with
  | nil => rfl
  | cons byte tail =>
      simp only
      rw [if_neg (stops byte rfl)]

theorem readNumber_digits {first : UInt8} {more rest : Word} (isFirst : isDigit first)
    (notZero : first ≠ 0x30) (areMore : ∀ byte ∈ more, isDigit byte)
    (stops : ∀ byte ∈ rest.head?, ¬ isDigit byte) (isNegative : Bool) :
    readNumber isNegative (first :: more ++ rest) =
      readAfterWhole isNegative
        ((first :: more).foldl Significand.pushWhole ⟨0, 0, false⟩) rest := by
  rcases span_digits (List.forall_mem_cons.mpr ⟨isFirst, areMore⟩) stops with ⟨taken, left⟩
  rw [List.cons_append] at taken left ⊢
  unfold readNumber
  simp only
  rw [if_neg (by simp [isFirst]), if_neg notZero, taken, left]

theorem readNumber_uniform (isNegative : Bool) {text : Word} (magnitude : Magnitude text) :
    Uniform (readNumber isNegative) text := by
  cases magnitude with
  | @parts whole fraction exponent isWhole isFraction isExponent =>
      have stops : ∀ rest, EndsNumber rest →
          ∀ byte ∈ (fraction ++ exponent ++ rest).head?, ¬ isDigit byte := by
        intro rest ends byte first
        cases isFraction with
        | none => exact (isExponent.stops ends byte first).2
        | digits _ =>
            cases first
            decide
      cases isWhole with
      | zero =>
          refine .of_eq (readAfterWhole_uniform isNegative ⟨0, 0, false⟩ isFraction isExponent) ?_
          intro rest ends
          rw [List.append_assoc]
          exact readNumber_zero (stops rest ends) isNegative
      | @digits first more isFirst notZero areMore =>
          refine .of_eq (readAfterWhole_uniform isNegative
            ((first :: more).foldl Significand.pushWhole ⟨0, 0, false⟩) isFraction isExponent) ?_
          intro rest ends
          rw [List.append_assoc]
          exact readNumber_digits isFirst notZero areMore (stops rest ends) isNegative

theorem Magnitude.head {text : Word} (magnitude : Magnitude text) :
    ∃ first tail, text = first :: tail ∧ isDigit first := by
  cases magnitude with
  | parts isWhole _ _ =>
      cases isWhole with
      | zero => exact ⟨0x30, _, rfl, by decide⟩
      | digits isFirst _ _ => exact ⟨_, _, rfl, isFirst⟩

end UploadRunner.Json
