import UploadRunner.Proofs.Json.Tokens

/-! The tokens of a text, one after the other.

A text has the tokens of its parts wherever the parts can be told apart: behind a mark or a
string always, and behind a number if what follows does not continue it. -/

namespace UploadRunner.Json

def lexemes (text : Word) : List Lexeme :=
  (scan text).map Token.lexeme

/-! ## Lengths

No reader returns more input than it is given. -/

def Shortens {α : Type} (read : Word → Except Failure (α × Word)) : Prop :=
  ∀ input value rest, read input = .ok (value, rest) → rest.length ≤ input.length

theorem readLetters_length_le {letters : Word} :
    ∀ {input rest : Word}, readLetters letters input = .ok rest → rest.length ≤ input.length := by
  induction letters with
  | nil =>
      intro input rest read
      cases read
      exact Nat.le_refl _
  | cons letter letters induction =>
      intro input rest read
      cases input with
      | nil => cases read
      | cons byte tail =>
          rw [readLetters] at read
          split at read
          · exact Nat.le_succ_of_le (induction read)
          · cases read

theorem readReal_shortens (isNegative : Bool) (value : Nat) (exponent : Int) :
    Shortens (readReal isNegative value exponent) := by
  intro input number rest read
  unfold readReal at read
  split at read <;> cases read
  exact Nat.le_refl _

theorem readExponentDigits_length_le (input : Word) :
    ∀ exponent, (readExponentDigits exponent input).2.length ≤ input.length := by
  induction input with
  | nil =>
      intro exponent
      exact Nat.le_refl _
  | cons byte rest induction =>
      intro exponent
      rw [readExponentDigits]
      split
      · simp only
        split
        · exact Nat.le_succ _
        · exact Nat.le_succ_of_le (induction _)
      · exact Nat.le_refl _

theorem readExponent_shortens (isNegative : Bool) (significand : Significand) (lowers : Bool) :
    Shortens (readExponent isNegative significand lowers) := by
  intro input number rest read
  cases input with
  | nil => cases read
  | cons byte tail =>
      have bound := readExponentDigits_length_le tail (digitValue byte)
      unfold readExponent at read
      simp only at read
      split at read
      · cases read
      split at read
      · rename_i taken
        rw [taken] at bound
        exact Nat.le_succ_of_le ((readReal_shortens _ _ _ _ _ _ read).trans bound)
      · rename_i taken
        rw [taken] at bound
        split at read <;> cases read
        exact Nat.le_succ_of_le ((List.dropWhile_sublist _).length_le.trans bound)

theorem readTail_shortens (isNegative : Bool) (significand : Significand) :
    Shortens (readTail isNegative significand) := by
  intro input number rest read
  unfold readTail at read
  split at read
  · exact readReal_shortens _ _ _ _ _ _ read
  split at read
  · split at read <;>
    · have bound := readExponent_shortens _ _ _ _ _ _ read
      simp only [List.length_cons] at bound ⊢
      omega
  · exact readReal_shortens _ _ _ _ _ _ read

theorem readFraction_shortens (isNegative : Bool) (significand : Significand) :
    Shortens (readFraction isNegative significand) := by
  intro input number rest read
  unfold readFraction at read
  simp only at read
  split at read
  · split at read <;> cases read
  · have bound := readTail_shortens _ _ _ _ _ read
    exact bound.trans (List.dropWhile_sublist _).length_le

theorem readAfterWhole_shortens (isNegative : Bool) (significand : Significand) :
    Shortens (readAfterWhole isNegative significand) := by
  intro input number rest read
  unfold readAfterWhole at read
  split at read
  · exact Nat.le_succ_of_le (readFraction_shortens _ _ _ _ _ read)
  split at read
  · exact readTail_shortens _ _ _ _ _ read
  · unfold readWhole at read
    split at read
    · cases read
      exact Nat.le_refl _
    split at read
    · cases read
      exact Nat.le_refl _
    · exact readReal_shortens _ _ _ _ _ _ read

theorem readNumber_length_le {isNegative : Bool} {first : UInt8} {tail rest : Word}
    {number : Number} (read : readNumber isNegative (first :: tail) = .ok (number, rest)) :
    rest.length ≤ tail.length := by
  unfold readNumber at read
  simp only at read
  split at read
  · cases read
  rename_i isDigit
  rw [Bool.not_eq_true, Bool.not_eq_false'] at isDigit
  split at read
  · split at read
    · exact readAfterWhole_shortens isNegative ⟨0, 0, false⟩ [] _ _ read
    split at read
    · cases read
    · exact readAfterWhole_shortens _ _ _ _ _ read
  · rw [List.dropWhile_cons_of_pos isDigit] at read
    exact (readAfterWhole_shortens _ _ _ _ _ read).trans (List.dropWhile_sublist _).length_le

theorem readNumber_shortens (isNegative : Bool) : Shortens (readNumber isNegative) := by
  intro input number rest read
  cases input with
  | nil => cases read
  | cons first tail => exact Nat.le_succ_of_le (readNumber_length_le read)

theorem readString_shortens : Shortens readString := by
  intro input string rest read
  rcases (readString_eq_ok_iff _ _ _).mp read with ⟨body, rfl, _⟩
  simp only [List.length_append, List.length_cons]
  omega

theorem lexemeOf_length_le {α : Type} {read : Word → Except Failure (α × Word)}
    (shortens : Shortens read) (lexeme : α → Lexeme) (input : Word) :
    (lexemeOf lexeme (read input)).2.length ≤ input.length := by
  cases taken : read input with
  | error failure => exact Nat.zero_le _
  | ok result => exact shortens input result.1 result.2 taken

theorem literal_length_le (lexeme : Lexeme) (letters input : Word) :
    (literal lexeme letters input).2.length ≤ input.length := by
  rw [literal]
  cases read : readLetters letters input with
  | error failure => exact Nat.zero_le _
  | ok rest => exact readLetters_length_le read

theorem readLexeme_length_le (byte : UInt8) (input : Word) :
    (readLexeme byte input).2.length ≤ input.length := by
  unfold readLexeme
  split
  -- Marks, then literals, then strings, signs and everything else.
  case h_1 | h_2 | h_3 | h_4 | h_5 | h_6 => exact Nat.le_refl _
  case h_7 | h_8 | h_9 => exact literal_length_le _ _ _
  case h_10 => exact lexemeOf_length_le readString_shortens _ _
  case h_11 => exact lexemeOf_length_le (readNumber_shortens true) _ _
  case h_12 =>
    split
    · cases read : readNumber false (byte :: input) with
      | error failure => exact Nat.zero_le _
      | ok result => exact readNumber_length_le read
    · exact Nat.le_refl _

/-! ## Scans -/

theorem scanFirst_eq (first : Nat) :
    ∀ {second : Nat} {input : Word}, input.length ≤ first → input.length ≤ second →
      scanFirst first input = scanFirst second input := by
  induction first with
  | zero =>
      intro second input enough _
      rw [List.length_eq_zero_iff.mp (Nat.le_zero.mp enough)]
      cases second <;> rfl
  | succ first induction =>
      intro second input enough alsoEnough
      cases second with
      | zero =>
          rw [List.length_eq_zero_iff.mp (Nat.le_zero.mp alsoEnough)]
          rfl
      | succ second =>
          rw [scanFirst, scanFirst]
          have kept := (List.dropWhile_sublist isBlank (l := input)).length_le
          cases left : input.dropWhile isBlank with
          | nil => rfl
          | cons byte rest =>
              rw [left, List.length_cons] at kept
              have shorter := readLexeme_length_le byte rest
              simp only
              rw [@induction second (readLexeme byte rest).2 (by omega) (by omega)]

theorem lexemes_of_blank {blanks : Word} (blank : ∀ byte ∈ blanks, isBlank byte) :
    lexemes blanks = [] := by
  cases blanks with
  | nil => rfl
  | cons byte tail =>
      have nothing : (byte :: tail).dropWhile isBlank = [] := by
        rw [List.dropWhile_eq_nil_iff]
        exact blank
      rw [lexemes, scan, List.length_cons, scanFirst, nothing]
      rfl

theorem lexemes_cons {byte : UInt8} (notBlank : isBlank byte = false) (rest : Word) :
    lexemes (byte :: rest) = (readLexeme byte rest).1 ::
      if (readLexeme byte rest).1.isWhole then lexemes (readLexeme byte rest).2 else [] := by
  have first : (byte :: rest).dropWhile isBlank = byte :: rest :=
    List.dropWhile_cons_of_neg (by simp [notBlank])
  rw [lexemes, scan, List.length_cons, scanFirst, first]
  simp only [List.map_cons, List.cons.injEq, true_and]
  split
  · rw [lexemes, scan, scanFirst_eq _ (readLexeme_length_le byte rest) (Nat.le_refl _)]
  · rfl

theorem lexemes_spelling {lexeme : Lexeme} {word rest : Word}
    (spelling : LexemeSpelling lexeme word) (ends : lexeme.IsNumber → EndsNumber rest) :
    lexemes (word ++ rest) = lexeme :: lexemes rest := by
  rcases readLexeme_spelling spelling ends with ⟨byte, tail, rfl, notBlank, read⟩
  rw [List.cons_append, lexemes_cons notBlank, read]
  simp only [spelling.isWhole, if_true]

theorem lexemes_mark {byte : UInt8} {mark : Lexeme} (isMark : (byte, mark) ∈ marks)
    (rest : Word) : lexemes (byte :: rest) = mark :: lexemes rest :=
  lexemes_spelling (.mark isMark) fun isNumber =>
    absurd isNumber (not_number_of_mem_marks isMark)

theorem scanFirst_blank_append {blanks : Word} (blank : ∀ byte ∈ blanks, isBlank byte)
    (text : Word) (count : Nat) : scanFirst count (blanks ++ text) = scanFirst count text := by
  cases count with
  | zero => rfl
  | succ count => rw [scanFirst, scanFirst, List.dropWhile_append_of_pos blank]

theorem lexemes_blank_append {blanks : Word} (blank : ∀ byte ∈ blanks, isBlank byte)
    (text : Word) : lexemes (blanks ++ text) = lexemes text := by
  have longer : text.length ≤ (blanks ++ text).length := by
    rw [List.length_append]
    exact Nat.le_add_left _ _
  rw [lexemes, scan, scanFirst_blank_append blank, scanFirst_eq _ longer (Nat.le_refl _)]
  rfl

theorem blank_or_token (text : Word) :
    (∀ byte ∈ text, isBlank byte) ∨
      ∃ blanks byte rest, text = blanks ++ byte :: rest ∧ (∀ byte ∈ blanks, isBlank byte) ∧
        isBlank byte = false := by
  have split := List.takeWhile_append_dropWhile (p := isBlank) (l := text)
  have blank : ∀ byte ∈ text.takeWhile isBlank, isBlank byte := fun _ member =>
    List.mem_takeWhile_imp member
  cases left : text.dropWhile isBlank with
  | nil =>
      rw [left, List.append_nil] at split
      rw [split] at blank
      exact .inl blank
  | cons byte rest =>
      have notBlank := List.dropWhile_get_zero_not isBlank text (by simp [left])
      simp only [left, List.get_eq_getElem, List.getElem_cons_zero, Bool.not_eq_true] at notBlank
      rw [left] at split
      exact .inr ⟨_, byte, rest, split.symm, blank, notBlank⟩

theorem lexemes_eq_nil_iff (text : Word) :
    lexemes text = [] ↔ ∀ byte ∈ text, isBlank byte := by
  constructor
  · intro nothing
    rcases blank_or_token text with blank | ⟨blanks, byte, rest, rfl, blank, notBlank⟩
    · exact blank
    · rw [lexemes_blank_append blank, lexemes_cons notBlank] at nothing
      cases nothing
  · exact lexemes_of_blank

/-! ## Appended texts -/

/-- Whether a token may stand in a configuration that is accepted. -/
def Lexeme.IsPlain : Lexeme → Prop
  | .number (.natural _) => True
  | .number _ | .null | .boolean _ | .stray | .broken _ => False
  | _ => True

theorem Lexeme.IsPlain.isWhole {lexeme : Lexeme} (plain : lexeme.IsPlain) : lexeme.isWhole := by
  cases lexeme <;> first | rfl | cases plain

theorem Lexeme.IsMark.isPlain {lexeme : Lexeme} (isMark : lexeme.IsMark) : lexeme.IsPlain := by
  cases lexeme <;> trivial

theorem Lexeme.IsPlain.natural {number : Number} (plain : (Lexeme.number number).IsPlain) :
    ∃ value, number = .natural value := by
  cases number with
  | natural value => exact ⟨value, rfl⟩
  | negative magnitude => cases plain
  | real isNegative magnitude => cases plain

theorem EndsWhole.append {rest : Word} (ends : EndsWhole rest) (stops : rest ≠ [])
    (more : Word) : EndsWhole (rest ++ more) := by
  cases rest with
  | nil => exact absurd rfl stops
  | cons byte tail => exact ends

theorem readAfterWhole_append {isNegative : Bool} {significand : Significand} {value : Nat}
    {input rest : Word}
    (read : readAfterWhole isNegative significand input = .ok (.natural value, rest))
    (stops : rest ≠ []) (more : Word) :
    isNegative = false ∧
      readAfterWhole isNegative significand (input ++ more) =
        .ok (.natural value, rest ++ more) := by
  rcases readAfterWhole_eq_natural_iff.mp read with ⟨positive, notFull, ends, found, rfl⟩
  refine ⟨positive, readAfterWhole_eq_natural_iff.mpr ?_⟩
  exact ⟨positive, notFull, ends.append stops more, found, rfl⟩

theorem span_digits_append {input : Word} (stops : input.dropWhile isDigit ≠ []) (more : Word) :
    (input ++ more).takeWhile isDigit = input.takeWhile isDigit ∧
      (input ++ more).dropWhile isDigit = input.dropWhile isDigit ++ more := by
  have split := List.takeWhile_append_dropWhile (p := isDigit) (l := input)
  have lengths := congrArg List.length split
  have left := List.length_pos_iff.mpr stops
  rw [List.length_append] at lengths
  rw [List.takeWhile_append, if_neg (by omega), List.dropWhile_append,
    if_neg (by simpa using stops)]
  exact ⟨rfl, rfl⟩

/-- A whole number that something follows has no sign, and stays what it is. -/
theorem readNumber_append {isNegative : Bool} {value : Nat} {input rest : Word}
    (read : readNumber isNegative input = .ok (.natural value, rest)) (stops : rest ≠ [])
    (more : Word) :
    isNegative = false ∧
      readNumber isNegative (input ++ more) = .ok (.natural value, rest ++ more) := by
  cases input with
  | nil => cases read
  | cons first tail =>
      rw [List.cons_append]
      unfold readNumber at read ⊢
      simp only at read ⊢
      split at read
      · cases read
      rename_i isFirst
      rw [if_neg isFirst]
      split at read
      · rename_i isZero
        rw [if_pos isZero]
        cases tail with
        | nil =>
            rcases readWhole_eq_natural_iff.mp read with ⟨_, _, nothing⟩
            exact absurd nothing stops
        | cons next behind =>
            simp only [List.cons_append] at read ⊢
            split at read
            · cases read
            rename_i notDigit
            rw [if_neg notDigit]
            exact readAfterWhole_append read stops more
      · rename_i notZero
        rw [if_neg notZero]
        have behind := (readAfterWhole_eq_natural_iff.mp read).2.2.2.2
        rcases span_digits_append (behind ▸ stops) more with ⟨taken, dropped⟩
        rw [← List.cons_append, taken, dropped]
        exact readAfterWhole_append read stops more

theorem readLexeme_append {byte : UInt8} {rest behind : Word} {lexeme : Lexeme}
    (plain : lexeme.IsPlain) (read : readLexeme byte rest = (lexeme, behind))
    (stops : lexeme.IsNumber → behind ≠ []) (more : Word) :
    readLexeme byte (rest ++ more) = (lexeme, behind ++ more) := by
  unfold readLexeme at read
  split at read
  -- Marks, then literals, then strings, signs and everything else.
  case h_1 | h_2 | h_3 | h_4 | h_5 | h_6 =>
    cases read
    rfl
  case h_7 | h_8 | h_9 =>
    rw [literal_inv plain.isWhole read] at plain
    cases plain
  case h_10 =>
    rcases lexemeOf_inv plain.isWhole read with ⟨string, taken, rfl⟩
    rcases (readString_eq_ok_iff _ _ _).mp taken with ⟨body, rfl, spelling⟩
    have again := (readString_eq_ok_iff (body ++ quotationMark :: (behind ++ more)) _ _).mpr
      ⟨body, rfl, spelling⟩
    rw [List.append_assoc, List.cons_append]
    change lexemeOf .string (readString _) = _
    rw [again]
    rfl
  case h_11 =>
    rcases lexemeOf_inv plain.isWhole read with ⟨number, taken, rfl⟩
    rcases plain.natural with ⟨value, rfl⟩
    cases (readNumber_append taken (stops trivial) more).1
  case h_12 =>
    split at read
    · rename_i isDigit
      rcases lexemeOf_inv plain.isWhole read with ⟨number, taken, rfl⟩
      rcases plain.natural with ⟨value, rfl⟩
      have again := (readNumber_append taken (stops trivial) more).2
      rw [readLexeme_digit isDigit, ← List.cons_append, again]
      rfl
    · cases read
      cases plain

/-- Behind a text that ends with a mark or a string, or in blanks behind one, another text has
its own tokens. -/
theorem lexemes_append {text : Word} (plain : ∀ lexeme ∈ lexemes text, lexeme.IsPlain)
    (ends : ∀ lexeme ∈ (lexemes text).getLast?, ¬ lexeme.IsNumber) (more : Word) :
    lexemes (text ++ more) = lexemes text ++ lexemes more := by
  -- A token takes several bytes at once, so the induction is on the length.
  induction counted : text.length using Nat.strong_induction_on generalizing text with
  | _ count induction =>
      rcases blank_or_token text with blank | ⟨blanks, byte, rest, rfl, blank, notBlank⟩
      · rw [lexemes_of_blank blank, lexemes_blank_append blank, List.nil_append]
      rw [lexemes_blank_append blank] at plain ends ⊢
      rw [List.append_assoc, lexemes_blank_append blank, List.cons_append]
      rw [lexemes_cons notBlank] at plain ends ⊢
      rw [lexemes_cons notBlank]
      cases read : readLexeme byte rest with
      | mk lexeme behind =>
          have shorter : behind.length ≤ rest.length := by
            have bound := readLexeme_length_le byte rest
            rw [read] at bound
            exact bound
          rw [read] at plain ends
          have plainHead : lexeme.IsPlain := plain lexeme List.mem_cons_self
          simp only [plainHead.isWhole, if_true] at plain ends ⊢
          -- Only a number at the very end could go on in what is written behind the text.
          have stops : lexeme.IsNumber → behind ≠ [] := by
            rintro isNumber rfl
            exact ends lexeme rfl isNumber
          rw [readLexeme_append plainHead read stops more]
          simp only [plainHead.isWhole, if_true, List.cons_append, List.cons.injEq, true_and]
          rw [List.length_append, List.length_cons] at counted
          refine induction behind.length (by omega) ?_ ?_ rfl
          · exact fun other member => plain other (List.mem_cons_of_mem lexeme member)
          · intro other isLast
            apply ends other
            cases later : lexemes behind with
            | nil =>
                rw [later] at isLast
                cases isLast
            | cons next others =>
                rw [later] at isLast
                exact isLast

end UploadRunner.Json
