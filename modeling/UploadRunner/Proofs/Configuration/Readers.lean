import UploadRunner.Proofs.Configuration.Settings
import UploadRunner.Proofs.Json.Tokens

/-! Reading settings.

Each reader of tokens takes the tokens of a value and nothing else. -/

namespace UploadRunner.Configuration

open Json

/-! ## Tokens of settings -/

def commaList (items : List (List Lexeme)) : List Lexeme :=
  [Lexeme.comma].intercalate items

def arrayLexemes (values : List String) : List Lexeme :=
  .openBracket :: commaList (values.map fun value => [.string value]) ++ [.closeBracket]

def Setting.valueLexemes : Setting → List Lexeme
  | .objcopy value | .uploader value | .excludedSection value | .target value => [.string value]
  | .stripSymbols values => arrayLexemes values
  | .slot value => [.number (.natural value.toNat)]

def Setting.lexemes (setting : Setting) : List Lexeme :=
  .string setting.field.name :: .colon :: setting.valueLexemes

/-! ## Taking tokens -/

/-- Some tokens begin with certain lexemes, and others are left behind them. -/
def Takes (tokens : List Token) (lexemes : List Lexeme) (rest : List Token) : Prop :=
  ∃ taken, tokens = taken ++ rest ∧ taken.map Token.lexeme = lexemes

@[simp] theorem takes_nil_iff (tokens rest : List Token) :
    Takes tokens [] rest ↔ tokens = rest := by
  simp [Takes]

@[simp] theorem not_takes_nil (lexeme : Lexeme) (lexemes : List Lexeme) (rest : List Token) :
    ¬ Takes [] (lexeme :: lexemes) rest := by
  intro takes
  rcases takes with ⟨taken, nothing, same⟩
  rw [(List.append_eq_nil_iff.mp nothing.symm).1] at same
  cases same

@[simp] theorem takes_cons_iff (token : Token) (tokens : List Token) (lexeme : Lexeme)
    (lexemes : List Lexeme) (rest : List Token) :
    Takes (token :: tokens) (lexeme :: lexemes) rest ↔
      token.lexeme = lexeme ∧ Takes tokens lexemes rest := by
  constructor
  · intro takes
    rcases takes with ⟨taken, whole, same⟩
    rcases List.map_eq_cons_iff.mp same with ⟨first, more, rfl, rfl, others⟩
    rw [List.cons_append, List.cons.injEq] at whole
    exact ⟨by rw [whole.1], more, whole.2, others⟩
  · intro takes
    rcases takes with ⟨rfl, more, rfl, rfl⟩
    exact ⟨token :: more, rfl, rfl⟩

theorem Takes.cons {tokens rest : List Token} {lexeme : Lexeme} {lexemes : List Lexeme}
    (takes : Takes tokens (lexeme :: lexemes) rest) :
    ∃ token more, tokens = token :: more ∧ token.lexeme = lexeme ∧ Takes more lexemes rest := by
  cases tokens with
  | nil => exact absurd takes (not_takes_nil lexeme lexemes rest)
  | cons token more =>
      rw [takes_cons_iff] at takes
      exact ⟨token, more, rfl, takes⟩

theorem takes_append_iff (tokens : List Token) (first second : List Lexeme) (rest : List Token) :
    Takes tokens (first ++ second) rest ↔
      ∃ middle, Takes tokens first middle ∧ Takes middle second rest := by
  constructor
  · intro takes
    rcases takes with ⟨taken, rfl, same⟩
    rcases List.map_eq_append_iff.mp same with ⟨front, back, rfl, rfl, rfl⟩
    exact ⟨back ++ rest, ⟨front, List.append_assoc _ _ _, rfl⟩, back, rfl, rfl⟩
  · intro takes
    rcases takes with ⟨_, ⟨front, rfl, rfl⟩, back, rfl, rfl⟩
    exact ⟨front ++ back, (List.append_assoc _ _ _).symm, List.map_append⟩

theorem takes_all_iff (tokens : List Token) (lexemes : List Lexeme) :
    Takes tokens lexemes [] ↔ tokens.map Token.lexeme = lexemes := by
  simp [Takes]

/-! ## Closed lists -/

/-- What stands behind the mark that opens an array or an object. -/
def closedList (close : Lexeme) (items : List (List Lexeme)) : List Lexeme :=
  commaList items ++ [close]

theorem closedList_singleton (close : Lexeme) (item : List Lexeme) :
    closedList close [item] = item ++ [close] := by
  rw [closedList, commaList, List.intercalate_singleton]

theorem closedList_cons_cons (close : Lexeme) (first second : List Lexeme)
    (others : List (List Lexeme)) :
    closedList close (first :: second :: others) =
      first ++ .comma :: closedList close (second :: others) := by
  rw [closedList, commaList, List.intercalate_cons_cons, List.append_assoc, List.append_assoc]
  rfl

theorem closedList_head (close lexeme : Lexeme) (item : List Lexeme)
    (items : List (List Lexeme)) :
    ∃ tail, closedList close ((lexeme :: item) :: items) = lexeme :: tail := by
  cases items with
  | nil => exact ⟨_, closedList_singleton close _⟩
  | cons second others => exact ⟨_, closedList_cons_cons close _ second others⟩

theorem scannable_closedList {close : Lexeme} (isMark : close.IsMark)
    {items : List (List Lexeme)}
    (scannable : ∀ item ∈ items, Scannable item) : Scannable (closedList close items) := by
  induction items with
  | nil => exact scannable_singleton isMark.simple
  | cons item items induction =>
      rw [List.forall_mem_cons] at scannable
      cases items with
      | nil =>
          rw [closedList_singleton]
          exact scannable.1.append isMark scannable_nil
      | cons second others =>
          rw [closedList_cons_cons]
          exact scannable.1.append trivial (induction scannable.2)

/-! ## Values -/

theorem readText_eq_ok_iff (tokens rest : List Token) (value : String) :
    readText tokens = .ok (value, rest) ↔ Takes tokens [.string value] rest := by
  cases tokens with
  | nil => simp [readText]
  | cons token more =>
      unfold readText
      simp only [takes_cons_iff, takes_nil_iff]
      split
      · rename_i found same
        simp [same]
      · rename_i other
        have different : token.lexeme ≠ .string value := other value
        simp [different]

theorem readByte_eq_ok_iff (tokens rest : List Token) (value : UInt8) :
    readByte tokens = .ok (value, rest) ↔
      Takes tokens [.number (.natural value.toNat)] rest := by
  cases tokens with
  | nil => simp [readByte]
  | cons token more =>
      unfold readByte
      simp only [takes_cons_iff, takes_nil_iff]
      split
      · rename_i found same
        rw [same, Lexeme.number.injEq, Number.natural.injEq]
        split
        · rename_i small
          rw [Except.ok.injEq, Prod.mk.injEq, ← UInt8.toNat_inj, UInt8.toNat_ofNat',
            Nat.mod_eq_of_lt small]
        · rename_i large
          have bound := value.toNat_lt
          simp only [reduceCtorEq, false_iff]
          omega
      · rename_i same
        simp [same]
      · rename_i other _
        have different : token.lexeme ≠ .number (.natural value.toNat) := other value.toNat
        simp [different]

/-! ## Arrays of strings -/

theorem map_eq_ok_iff {α β : Type} (read : Except Failure α) (change : α → β) (result : β) :
    read.map change = .ok result ↔ ∃ found, read = .ok found ∧ change found = result := by
  cases read <;> simp [Except.map]

def textsLexemes (values : List String) : List Lexeme :=
  closedList .closeBracket (values.map fun value => [.string value])

theorem textsLexemes_singleton (value : String) :
    textsLexemes [value] = [.string value, .closeBracket] :=
  closedList_singleton _ _

theorem textsLexemes_cons_cons (first second : String) (others : List String) :
    textsLexemes (first :: second :: others) =
      .string first :: .comma :: textsLexemes (second :: others) :=
  closedList_cons_cons _ _ _ _

theorem textsLexemes_head (value : String) (values : List String) :
    ∃ tail, textsLexemes (value :: values) = .string value :: tail :=
  closedList_head _ _ _ _

theorem readTexts_sound (tokens : List Token) :
    ∀ {values : List String} {rest : List Token}, readTexts tokens = .ok (values, rest) →
      values ≠ [] ∧ Takes tokens (textsLexemes values) rest := by
  fun_induction readTexts tokens with
  | case1 | case2 | case4 | case5 | case7 | case8 =>
      intro values rest read
      cases read
  | case3 token value isString separator behind isEnd =>
      intro values rest read
      cases read
      refine ⟨List.cons_ne_nil _ _, ?_⟩
      rw [textsLexemes_singleton, takes_cons_iff, takes_cons_iff, takes_nil_iff]
      exact ⟨isString, isEnd, rfl⟩
  | case6 token value isString separator isComma next behind notEnd induction =>
      intro values rest read
      rcases (map_eq_ok_iff _ _ _).mp read with ⟨⟨others, left⟩, readOthers, changed⟩
      cases changed
      rcases induction readOthers with ⟨nonempty, takes⟩
      refine ⟨List.cons_ne_nil _ _, ?_⟩
      cases others with
      | nil => exact absurd rfl nonempty
      | cons second others =>
          rw [textsLexemes_cons_cons, takes_cons_iff, takes_cons_iff]
          exact ⟨isString, isComma, takes⟩

theorem readTexts_next {token separator next : Token} {value : String} (more : List Token)
    (isString : token.lexeme = .string value) (isComma : separator.lexeme = .comma)
    (notEnd : next.lexeme ≠ .closeBracket) :
    readTexts (token :: separator :: next :: more) =
      (readTexts (next :: more)).map fun (values, rest) => (value :: values, rest) := by
  rw [readTexts]
  simp only [isString, isComma]

theorem readTexts_complete {values : List String} :
    ∀ {tokens rest : List Token}, values ≠ [] → Takes tokens (textsLexemes values) rest →
      readTexts tokens = .ok (values, rest) := by
  induction values with
  | nil =>
      intro tokens rest nonempty
      exact absurd rfl nonempty
  | cons value values induction =>
      intro tokens rest _ takes
      cases values with
      | nil =>
          rw [textsLexemes_singleton] at takes
          rcases takes.cons with ⟨token, _, rfl, isString, takesEnd⟩
          rcases takesEnd.cons with ⟨separator, _, rfl, isEnd, takesRest⟩
          rw [takes_nil_iff] at takesRest
          simp [readTexts, isString, isEnd, takesRest]
      | cons second others =>
          rw [textsLexemes_cons_cons] at takes
          rcases takes.cons with ⟨token, _, rfl, isString, takesComma⟩
          rcases takesComma.cons with ⟨separator, more, rfl, isComma, takesOthers⟩
          have readOthers := induction (List.cons_ne_nil _ _) takesOthers
          rcases textsLexemes_head second others with ⟨tail, head⟩
          rw [head] at takesOthers
          rcases takesOthers.cons with ⟨next, behind, rfl, isNext, _⟩
          rw [readTexts_next behind isString isComma (by simp [isNext]), map_eq_ok_iff]
          exact ⟨(second :: others, rest), readOthers, rfl⟩

theorem readTextArray_eq_ok_iff (tokens rest : List Token) (values : List String) :
    readTextArray tokens = .ok (values, rest) ↔ Takes tokens (arrayLexemes values) rest := by
  have split : arrayLexemes values = .openBracket :: textsLexemes values := rfl
  rw [split]
  constructor
  · intro read
    unfold readTextArray at read
    split at read
    · cases read
    split at read
    · rename_i token behind isOpen
      rw [takes_cons_iff]
      refine ⟨isOpen, ?_⟩
      split at read
      · cases read
      split at read
      · rename_i isEnd
        cases read
        simp [textsLexemes, closedList, commaList, isEnd]
      · exact (readTexts_sound _ read).2
    · cases read
  · intro takes
    rcases takes.cons with ⟨token, more, rfl, isOpen, takesTexts⟩
    cases values with
    | nil =>
        have takesEnd : Takes more [.closeBracket] rest := takesTexts
        rcases takesEnd.cons with ⟨next, _, rfl, isEnd, takesRest⟩
        rw [takes_nil_iff] at takesRest
        simp [readTextArray, isOpen, isEnd, takesRest]
    | cons value values =>
        have readAll := readTexts_complete (List.cons_ne_nil _ _) takesTexts
        rcases textsLexemes_head value values with ⟨tail, head⟩
        rw [head] at takesTexts
        rcases takesTexts.cons with ⟨next, behind, rfl, isNext, _⟩
        simp [readTextArray, isOpen, isNext, readAll]

/-! ## Members -/

theorem readField_sound {overrides result : Overrides} {field : Field} {tokens rest : List Token}
    (read : readField overrides field tokens = .ok (result, rest)) :
    ∃ setting : Setting, setting.field = field ∧ Takes tokens setting.valueLexemes rest ∧
      overrides.set setting = result := by
  cases field <;> rcases (map_eq_ok_iff _ _ _).mp read with ⟨⟨value, left⟩, readValue, changed⟩ <;>
    cases changed
  case objcopy => exact ⟨.objcopy value, rfl, (readText_eq_ok_iff _ _ _).mp readValue, rfl⟩
  case uploader => exact ⟨.uploader value, rfl, (readText_eq_ok_iff _ _ _).mp readValue, rfl⟩
  case stripSymbols =>
    exact ⟨.stripSymbols value, rfl, (readTextArray_eq_ok_iff _ _ _).mp readValue, rfl⟩
  case excludedSection =>
    exact ⟨.excludedSection value, rfl, (readText_eq_ok_iff _ _ _).mp readValue, rfl⟩
  case target => exact ⟨.target value, rfl, (readText_eq_ok_iff _ _ _).mp readValue, rfl⟩
  case slot => exact ⟨.slot value, rfl, (readByte_eq_ok_iff _ _ _).mp readValue, rfl⟩

theorem readField_complete (overrides : Overrides) {setting : Setting}
    {tokens rest : List Token} (takes : Takes tokens setting.valueLexemes rest) :
    readField overrides setting.field tokens = .ok (overrides.set setting, rest) := by
  cases setting with
  | objcopy value | uploader value | excludedSection value | target value =>
      rw [Setting.field, readField, map_eq_ok_iff]
      exact ⟨(value, rest), (readText_eq_ok_iff _ _ _).mpr takes, rfl⟩
  | stripSymbols values =>
      rw [Setting.field, readField, map_eq_ok_iff]
      exact ⟨(values, rest), (readTextArray_eq_ok_iff _ _ _).mpr takes, rfl⟩
  | slot value =>
      rw [Setting.field, readField, map_eq_ok_iff]
      exact ⟨(value, rest), (readByte_eq_ok_iff _ _ _).mpr takes, rfl⟩

theorem readColon_eq_ok_iff (tokens rest : List Token) :
    readColon tokens = .ok rest ↔ Takes tokens [.colon] rest := by
  cases tokens with
  | nil => simp [readColon]
  | cons token more =>
      unfold readColon
      simp only [takes_cons_iff, takes_nil_iff]
      split
      · rename_i isColon
        simp [isColon]
      · rename_i notColon
        have different : token.lexeme ≠ .colon := notColon
        simp [different]

theorem ofName?_eq_some_iff (name : String) (field : Field) :
    Field.ofName? name = some field ↔ name = field.name := by
  constructor
  · intro found
    have named := List.find?_some found
    exact (of_decide_eq_true named).symm
  · intro named
    rw [named, Field.ofName?_name]

theorem readKey_eq_ok_iff (overrides : Overrides) (token : Token) (rest : List Token)
    (field : Field) :
    readKey overrides token rest = .ok field ↔
      token.lexeme = .string field.name ∧ overrides.gives field = false := by
  unfold readKey
  split
  · rename_i name isString
    rw [isString, Lexeme.string.injEq, ← ofName?_eq_some_iff]
    cases found : Field.ofName? name with
    | none => simp
    | some known =>
        simp only [Option.some.injEq]
        constructor
        · intro read
          split at read
          · cases read
          · rename_i fresh
            cases read
            exact ⟨rfl, Bool.eq_false_iff.mpr fresh⟩
        · intro key
          rcases key with ⟨rfl, fresh⟩
          rw [fresh]
          rfl
  · rename_i failure isBroken
    rw [isBroken]
    split <;> simp
  · rename_i notString _
    have different : token.lexeme ≠ .string field.name := notString field.name
    simp [different]

theorem readMember_eq_ok_iff (overrides result : Overrides) (token : Token)
    (tokens rest : List Token) :
    readMember overrides token tokens = .ok (result, rest) ↔
      ∃ setting : Setting, overrides.gives setting.field = false ∧
        Takes (token :: tokens) setting.lexemes rest ∧ overrides.set setting = result := by
  constructor
  · intro read
    unfold readMember at read
    split at read
    · cases read
    rename_i field readKeyOk
    split at read
    · cases read
    rename_i behind readColonOk
    rcases (readKey_eq_ok_iff _ _ _ _).mp readKeyOk with ⟨named, fresh⟩
    rcases readField_sound read with ⟨setting, rfl, takes, changed⟩
    refine ⟨setting, fresh, ?_, changed⟩
    have takesColon := (readColon_eq_ok_iff _ _).mp readColonOk
    rw [Setting.lexemes, takes_cons_iff]
    exact ⟨named, (takes_append_iff _ [.colon] _ _).mpr ⟨behind, takesColon, takes⟩⟩
  · intro given
    rcases given with ⟨setting, fresh, takes, rfl⟩
    rw [Setting.lexemes, takes_cons_iff] at takes
    rcases (takes_append_iff _ [.colon] _ _).mp takes.2 with ⟨behind, takesColon, takesValue⟩
    have readKeyOk := (readKey_eq_ok_iff overrides token tokens _).mpr ⟨takes.1, fresh⟩
    have readColonOk := (readColon_eq_ok_iff _ _).mpr takesColon
    simp only [readMember, readKeyOk, readColonOk]
    exact readField_complete overrides takesValue

/-! ## Objects

Every member gives a field that was missing, so the fields that are missing bound the
members to come, and the reader never stops before the closing brace. -/

def membersLexemes (settings : List Setting) : List Lexeme :=
  closedList .closeBrace (settings.map Setting.lexemes)

theorem membersLexemes_singleton (setting : Setting) :
    membersLexemes [setting] = setting.lexemes ++ [.closeBrace] :=
  closedList_singleton _ _

theorem membersLexemes_cons_cons (first second : Setting) (others : List Setting) :
    membersLexemes (first :: second :: others) =
      first.lexemes ++ .comma :: membersLexemes (second :: others) :=
  closedList_cons_cons _ _ _ _

theorem membersLexemes_head (setting : Setting) (settings : List Setting) :
    ∃ tail, membersLexemes (setting :: settings) = .string setting.field.name :: tail :=
  closedList_head _ _ _ _

theorem readMembers_sound (more : Nat) :
    ∀ {overrides result : Overrides} {token : Token} {tokens rest : List Token},
      overrides.missing.length ≤ more →
      readMembers overrides more token tokens = .ok (result, rest) →
      ∃ settings : List Setting, settings ≠ [] ∧ overrides.LacksAll settings ∧
        Takes (token :: tokens) (membersLexemes settings) rest ∧
        overrides.setAll settings = result := by
  induction more with
  | zero =>
      -- No field is missing, so no key is taken and there is no result.
      intro overrides result token tokens rest bound read
      rcases (readMember_eq_ok_iff _ _ _ _ _).mp read with ⟨setting, fresh, _⟩
      have member := (mem_missing overrides setting.field).mpr fresh
      have positive := List.length_pos_of_mem member
      omega
  | succ more induction =>
      intro overrides result token tokens rest bound read
      unfold readMembers at read
      split at read
      · cases read
      · cases read
      rename_i given separator behind readFirst
      -- Behind a member the object ends, or a comma stands before another one.
      rcases (readMember_eq_ok_iff _ _ _ _ _).mp readFirst with ⟨setting, fresh, takes, rfl⟩
      split at read
      · rename_i isEnd
        cases read
        refine ⟨[setting], List.cons_ne_nil _ _, ?_, ?_, rfl⟩
        · rw [lacksAll_cons_iff]
          exact ⟨fresh, List.nodup_nil, fun _ member => absurd member List.not_mem_nil⟩
        · rw [membersLexemes_singleton, takes_append_iff]
          exact ⟨_, takes, (takes_cons_iff _ _ _ _ _).mpr ⟨isEnd, by simp⟩⟩
      · rename_i isComma
        split at read
        · cases read
        rename_i next behind
        split at read
        · cases read
        have fewer := missing_set overrides fresh
        rcases induction (by omega) read with ⟨settings, nonempty, lacks, takesOthers, changed⟩
        refine ⟨setting :: settings, List.cons_ne_nil _ _, ?_, ?_, changed⟩
        · rw [lacksAll_cons_iff]
          exact ⟨fresh, lacks⟩
        · cases settings with
          | nil => exact absurd rfl nonempty
          | cons second others =>
              rw [membersLexemes_cons_cons, takes_append_iff]
              exact ⟨_, takes, (takes_cons_iff _ _ _ _ _).mpr ⟨isComma, takesOthers⟩⟩
      · cases read

theorem readMembers_last {overrides result : Overrides} {more : Nat} {token separator : Token}
    {tokens rest : List Token}
    (readFirst : readMember overrides token tokens = .ok (result, separator :: rest))
    (isEnd : separator.lexeme = .closeBrace) :
    readMembers overrides (more + 1) token tokens = .ok (result, rest) := by
  simp only [readMembers, readFirst, isEnd]

theorem readMembers_next {overrides result : Overrides} {more : Nat}
    {token separator next : Token} {tokens rest : List Token}
    (readFirst : readMember overrides token tokens = .ok (result, separator :: next :: rest))
    (isComma : separator.lexeme = .comma) (notEnd : next.lexeme ≠ .closeBrace) :
    readMembers overrides (more + 1) token tokens = readMembers result more next rest := by
  simp only [readMembers, readFirst, isComma]

theorem readMembers_complete {settings : List Setting} :
    ∀ {overrides : Overrides} {more : Nat} {token : Token} {tokens rest : List Token},
      overrides.missing.length ≤ more → settings ≠ [] → overrides.LacksAll settings →
      Takes (token :: tokens) (membersLexemes settings) rest →
      readMembers overrides more token tokens = .ok (overrides.setAll settings, rest) := by
  induction settings with
  | nil =>
      intro overrides more token tokens rest _ nonempty
      exact absurd rfl nonempty
  | cons setting settings induction =>
      intro overrides more token tokens rest bound _ lacks takes
      rw [lacksAll_cons_iff] at lacks
      rcases lacks with ⟨fresh, lacksOthers⟩
      -- Each member gives a field that was missing, so that the bound holds on behind it.
      have fewer := missing_set overrides fresh
      cases more with
      | zero => omega
      | succ more =>
          cases settings with
          | nil =>
              rw [membersLexemes_singleton, takes_append_iff] at takes
              rcases takes with ⟨_, takesFirst, takesEnd⟩
              rcases takesEnd.cons with ⟨separator, _, rfl, isEnd, takesRest⟩
              rw [takes_nil_iff] at takesRest
              subst takesRest
              exact readMembers_last
                ((readMember_eq_ok_iff _ _ _ _ _).mpr ⟨setting, fresh, takesFirst, rfl⟩) isEnd
          | cons second others =>
              rw [membersLexemes_cons_cons, takes_append_iff] at takes
              rcases takes with ⟨_, takesFirst, takesComma⟩
              rcases takesComma.cons with ⟨separator, behind, rfl, isComma, takesOthers⟩
              have readFirst :=
                (readMember_eq_ok_iff _ _ _ _ _).mpr ⟨setting, fresh, takesFirst, rfl⟩
              rcases membersLexemes_head second others with ⟨tail, head⟩
              rw [head] at takesOthers
              rcases takesOthers.cons with ⟨next, left, rfl, isNext, _⟩
              rw [← head] at takesOthers
              rw [readMembers_next readFirst isComma (by simp [isNext])]
              exact induction (by omega) (List.cons_ne_nil _ _) lacksOthers takesOthers

theorem missing_empty : ({} : Overrides).missing.length = Field.all.length := rfl

theorem readObject_eq_ok_iff (tokens rest : List Token) (result : Overrides) :
    readObject tokens = .ok (result, rest) ↔
      ∃ settings : List Setting, (settings.map Setting.field).Nodup ∧
        Takes tokens (membersLexemes settings) rest ∧
        ({} : Overrides).setAll settings = result := by
  constructor
  · intro read
    unfold readObject at read
    split at read
    · cases read
    split at read
    · rename_i isEnd
      cases read
      exact ⟨[], List.nodup_nil, (takes_cons_iff _ _ _ _ _).mpr ⟨isEnd, by simp⟩, rfl⟩
    · rcases readMembers_sound _ (Nat.le_of_eq missing_empty) read with
        ⟨settings, _, lacks, takes, changed⟩
      exact ⟨settings, (lacksAll_empty_iff settings).mp lacks, takes, changed⟩
  · intro described
    rcases described with ⟨settings, distinct, takes, rfl⟩
    cases settings with
    | nil =>
        have takesEnd : Takes tokens [.closeBrace] rest := takes
        rcases takesEnd.cons with ⟨token, _, rfl, isEnd, takesRest⟩
        rw [takes_nil_iff] at takesRest
        simp only [readObject, isEnd, takesRest]
        rfl
    | cons setting settings =>
        rcases membersLexemes_head setting settings with ⟨tail, head⟩
        have takesHead := takes
        rw [head] at takesHead
        rcases takesHead.cons with ⟨token, behind, rfl, isString, _⟩
        have lacks := (lacksAll_empty_iff _).mpr distinct
        have readAll := readMembers_complete (Nat.le_of_eq missing_empty) (List.cons_ne_nil _ _)
          lacks takes
        simp only [readObject, isString]
        exact readAll

end UploadRunner.Configuration
