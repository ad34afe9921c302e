import UploadRunner.Json.Token

/-! The spellings of small numbers.

A number below ten has one spelling, its digit: a sign, a further digit, a fraction or
an exponent makes it another number, or none. -/

namespace UploadRunner.Json

def digit (value : Nat) : UInt8 :=
  UInt8.ofNat (0x30 + value)

def EndsWhole (input : Word) : Prop :=
  ∀ byte ∈ input.head?, byte ≠ 0x2E ∧ ¬ beginsExponent byte

/-- Whether no byte at the front of an input belongs to a number before it. -/
def EndsNumber (input : Word) : Prop :=
  EndsWhole input ∧ ∀ byte ∈ input.head?, ¬ isDigit byte

theorem endsNumber_nil : EndsNumber [] := by
  simp [EndsNumber, EndsWhole]

theorem endsNumber_cons_iff (byte : UInt8) (tail : Word) :
    EndsNumber (byte :: tail) ↔
      (byte ≠ 0x2E ∧ ¬ beginsExponent byte) ∧ ¬ isDigit byte := by
  simp [EndsNumber, EndsWhole]

theorem isDigit_iff (byte : UInt8) : isDigit byte ↔ 0x30 ≤ byte.toNat ∧ byte.toNat ≤ 0x39 := by
  simp [isDigit, UInt8.le_iff_toNat_le]

theorem digit_toNat {value : Nat} (small : value < 10) : (digit value).toNat = 0x30 + value := by
  rw [digit, UInt8.toNat_ofNat']
  omega

theorem isDigit_digit {value : Nat} (small : value < 10) : isDigit (digit value) := by
  rw [isDigit_iff, digit_toNat small]
  omega

theorem digitValue_digit {value : Nat} (small : value < 10) : digitValue (digit value) = value := by
  rw [digitValue, digit_toNat small]
  omega

theorem digit_digitValue {byte : UInt8} (isDigit : isDigit byte) :
    digit (digitValue byte) = byte := by
  rw [isDigit_iff] at isDigit
  apply UInt8.toNat_inj.mp
  rw [digit_toNat] <;> rw [digitValue] <;> omega

/-! ## Other numbers

Whatever has a fraction or an exponent, or too many digits, is a floating-point number. -/

theorem readReal_inv {isNegative : Bool} {value : Nat} {exponent : Int} {input rest : Word}
    {number : Number} (read : readReal isNegative value exponent input = .ok (number, rest)) :
    ∃ magnitude, number = .real isNegative magnitude := by
  unfold readReal at read
  split at read
  · rename_i magnitude _
    rw [Except.ok.injEq, Prod.mk.injEq] at read
    exact ⟨magnitude, read.1.symm⟩
  · cases read

theorem readExponent_inv {isNegative lowers : Bool} {significand : Significand}
    {input rest : Word} {number : Number}
    (read : readExponent isNegative significand lowers input = .ok (number, rest)) :
    ∃ magnitude, number = .real isNegative magnitude := by
  unfold readExponent at read
  split at read
  · cases read
  split at read
  · cases read
  split at read
  · exact readReal_inv read
  split at read
  · cases read
  · rw [Except.ok.injEq, Prod.mk.injEq] at read
    exact ⟨.zero, read.1.symm⟩

theorem readTail_inv {isNegative : Bool} {significand : Significand} {input rest : Word}
    {number : Number} (read : readTail isNegative significand input = .ok (number, rest)) :
    ∃ magnitude, number = .real isNegative magnitude := by
  unfold readTail at read
  split at read
  · exact readReal_inv read
  split at read
  · split at read <;> exact readExponent_inv read
  · exact readReal_inv read

theorem readFraction_inv {isNegative : Bool} {significand : Significand} {input rest : Word}
    {number : Number} (read : readFraction isNegative significand input = .ok (number, rest)) :
    ∃ magnitude, number = .real isNegative magnitude := by
  unfold readFraction at read
  simp only at read
  split at read
  · split at read <;> cases read
  · exact readTail_inv read

/-! ## Whole numbers -/

theorem readWhole_eq_natural_iff {isNegative : Bool} {value found : Nat} {input rest : Word} :
    readWhole isNegative value input = .ok (.natural found, rest) ↔
      isNegative = false ∧ found = value ∧ rest = input := by
  unfold readWhole
  cases isNegative with
  | false =>
      rw [if_pos (by decide), Except.ok.injEq, Prod.mk.injEq, Number.natural.injEq]
      simp [eq_comm]
  | true =>
      rw [if_neg (by decide)]
      refine ⟨?_, fun ⟨absurd, _⟩ => nomatch absurd⟩
      intro read
      split at read
      · cases read
      · rcases readReal_inv read with ⟨_, equal⟩
        cases equal

theorem readAfterWhole_whole {significand : Significand} {input : Word}
    (notFull : significand.isFull = false) (ends : EndsWhole input) (isNegative : Bool) :
    readAfterWhole isNegative significand input =
      readWhole isNegative significand.value input := by
  unfold readAfterWhole
  cases input with
  | nil => simp [notFull]
  | cons byte tail =>
      rcases ends byte rfl with ⟨notPoint, notExponent⟩
      split
      · rename_i equal
        cases equal
        exact absurd rfl notPoint
      · simp [notFull, notExponent]

theorem readAfterWhole_eq_natural_iff {isNegative : Bool} {significand : Significand}
    {found : Nat} {input rest : Word} :
    readAfterWhole isNegative significand input = .ok (.natural found, rest) ↔
      isNegative = false ∧ significand.isFull = false ∧ EndsWhole input ∧
        found = significand.value ∧ rest = input := by
  constructor
  · intro read
    unfold readAfterWhole at read
    split at read
    · rcases readFraction_inv read with ⟨_, equal⟩
      cases equal
    rename_i noPoint
    split at read
    · rcases readTail_inv read with ⟨_, equal⟩
      cases equal
    rename_i untailed
    rw [Bool.or_eq_true, not_or, Bool.not_eq_true] at untailed
    rcases readWhole_eq_natural_iff.mp read with ⟨positive, value, behind⟩
    refine ⟨positive, untailed.1, ?_, value, behind⟩
    intro byte first
    cases input with
    | nil => cases first
    | cons head tail =>
        cases first
        refine ⟨?_, by simpa using untailed.2⟩
        rintro rfl
        exact noPoint tail rfl
  · rintro ⟨positive, notFull, ends, value, behind⟩
    rw [readAfterWhole_whole notFull ends]
    exact readWhole_eq_natural_iff.mpr ⟨positive, value, behind⟩

/-! ## Digits

A second digit of a whole part makes its value at least ten, and it stays there: a digit
that is not taken leaves the significand full, and not a whole number. -/

/-- Whether a significand has taken more than one digit, or refused one. -/
def Significand.IsLong (significand : Significand) : Prop :=
  significand.isFull ∨ 10 ≤ significand.value

theorem Significand.IsLong.pushWhole {significand : Significand} {byte : UInt8}
    (long : significand.IsLong ∨ 1 ≤ significand.value) :
    (significand.pushWhole byte).IsLong := by
  unfold Significand.pushWhole
  simp only
  split
  · exact .inl rfl
  · rename_i taken
    rw [Bool.or_eq_true, not_or] at taken
    rcases long with (full | large) | positive
    · exact absurd full taken.1
    · exact .inr (by simp only; omega)
    · exact .inr (by simp only; omega)

theorem Significand.IsLong.foldl {digits : Word} :
    ∀ {significand : Significand}, significand.IsLong →
      (digits.foldl Significand.pushWhole significand).IsLong := by
  induction digits with
  | nil =>
      intro significand long
      exact long
  | cons byte digits induction =>
      intro significand long
      exact induction (.pushWhole (.inl long))

theorem pushWhole_first {byte : UInt8} (isDigit : isDigit byte) :
    Significand.pushWhole ⟨0, 0, false⟩ byte = ⟨digitValue byte, 0, false⟩ := by
  have bound : ¬ greatestSignificand < digitValue byte := by
    rw [isDigit_iff] at isDigit
    unfold greatestSignificand digitValue
    omega
  simp [Significand.pushWhole, bound]

theorem foldl_pushWhole_small {first : UInt8} {digits : Word} (isFirst : isDigit first)
    (notZero : first ≠ 0x30)
    (notFull : ((first :: digits).foldl Significand.pushWhole ⟨0, 0, false⟩).isFull = false)
    (small : ((first :: digits).foldl Significand.pushWhole ⟨0, 0, false⟩).value < 10) :
    digits = [] := by
  cases digits with
  | nil => rfl
  | cons second digits =>
      have positive : 1 ≤ digitValue first := by
        have different : first.toNat ≠ 0x30 := fun equal => notZero (UInt8.toNat_inj.mp equal)
        rw [isDigit_iff] at isFirst
        unfold digitValue
        omega
      rw [List.foldl_cons, List.foldl_cons, pushWhole_first isFirst] at notFull small
      have long : (Significand.pushWhole ⟨digitValue first, 0, false⟩ second).IsLong :=
        .pushWhole (.inr positive)
      have stillLong := @Significand.IsLong.foldl digits _ long
      rcases stillLong with full | large
      · rw [notFull] at full
        cases full
      · omega

/-! ## Numbers below ten -/

theorem takeWhile_isDigit_of_ends {rest : Word} (ends : EndsNumber rest) :
    rest.takeWhile isDigit = [] ∧ rest.dropWhile isDigit = rest := by
  cases rest with
  | nil => exact ⟨rfl, rfl⟩
  | cons byte tail =>
      have notDigit := ends.2 byte rfl
      simp [notDigit]

theorem endsNumber_of_takeWhile {rest : Word} (ends : EndsWhole rest)
    (none : rest.takeWhile isDigit = []) : EndsNumber rest := by
  refine ⟨ends, ?_⟩
  intro byte first isDigit
  cases rest with
  | nil => cases first
  | cons head tail =>
      cases first
      simp [isDigit] at none

theorem readNumber_digit {value : Nat} {rest : Word} (small : value < 10)
    (ends : EndsNumber rest) :
    readNumber false (digit value :: rest) = .ok (.natural value, rest) := by
  have isFirst := isDigit_digit small
  unfold readNumber
  simp only
  rw [if_neg (by simp [isFirst])]
  split
  · rename_i isZero
    have zero : value = 0 := by
      have bytes := digit_toNat small
      rw [isZero] at bytes
      change 0x30 = 0x30 + value at bytes
      omega
    subst zero
    cases rest with
    | nil => rfl
    | cons next tail =>
        simp only
        rw [if_neg (ends.2 next rfl)]
        exact readAfterWhole_eq_natural_iff.mpr ⟨rfl, rfl, ends.1, rfl, rfl⟩
  · rcases takeWhile_isDigit_of_ends ends with ⟨noDigits, allLeft⟩
    simp only [List.takeWhile_cons, List.dropWhile_cons, isFirst, if_true, noDigits, allLeft,
      List.foldl_cons, List.foldl_nil, pushWhole_first isFirst, digitValue_digit small]
    exact readAfterWhole_eq_natural_iff.mpr ⟨rfl, rfl, ends.1, rfl, rfl⟩

theorem readNumber_eq_natural {isNegative : Bool} {value : Nat} {input rest : Word}
    (small : value < 10) (read : readNumber isNegative input = .ok (.natural value, rest)) :
    isNegative = false ∧ input = digit value :: rest ∧ EndsNumber rest := by
  cases input with
  | nil => cases read
  | cons first tail =>
      unfold readNumber at read
      simp only at read
      split at read
      · cases read
      rename_i isFirst
      rw [Bool.not_eq_true, Bool.not_eq_false'] at isFirst
      split at read
      · rename_i isZero
        have zero : first = digit 0 := isZero
        cases tail with
        | nil =>
            rcases readWhole_eq_natural_iff.mp read with ⟨positive, rfl, rfl⟩
            exact ⟨positive, by rw [zero], endsNumber_nil⟩
        | cons next behind =>
            simp only at read
            split at read
            · cases read
            rename_i notDigit
            rcases readAfterWhole_eq_natural_iff.mp read with ⟨positive, _, ends, rfl, rfl⟩
            refine ⟨positive, by rw [zero], ends, ?_⟩
            intro byte head
            cases head
            exact notDigit
      · rename_i notZero
        rcases readAfterWhole_eq_natural_iff.mp read with ⟨positive, notFull, ends, found, behind⟩
        rw [List.takeWhile_cons_of_pos isFirst] at notFull found
        rw [List.dropWhile_cons_of_pos isFirst] at ends behind
        -- A second digit would make the value ten or more.
        have single : tail.takeWhile isDigit = [] :=
          foldl_pushWhole_small isFirst notZero notFull (found ▸ small)
        rw [single, List.foldl_cons, List.foldl_nil, pushWhole_first isFirst] at found
        have whole := List.takeWhile_append_dropWhile (p := isDigit) (l := tail)
        rw [single, List.nil_append] at whole
        rw [whole] at ends behind
        subst behind found
        exact ⟨positive, by rw [digit_digitValue isFirst], endsNumber_of_takeWhile ends single⟩

theorem readNumber_eq_natural_iff {isNegative : Bool} {value : Nat} {input rest : Word}
    (small : value < 10) :
    readNumber isNegative input = .ok (.natural value, rest) ↔
      isNegative = false ∧ input = digit value :: rest ∧ EndsNumber rest := by
  constructor
  · exact readNumber_eq_natural small
  · rintro ⟨rfl, rfl, ends⟩
    exact readNumber_digit small ends

end UploadRunner.Json
