import Mathlib.Data.Bool.AllAny
import UploadRunner.Proofs.Configuration.Damage
import UploadRunner.Proofs.Configuration.ValueTexts

/-! The two forms of a configuration.

Values may be given in an array, or in an object as members that name the first fields in
order. Either form is read as the other: it gives the same configuration, or is refused for
the same kind of reason. -/

namespace UploadRunner.Configuration

open Json

def arrayText (values : List Word) : Word :=
  0x5B :: closedText 0x5D values

def memberText (field : Field) (value : Word) : Word :=
  quotationMark :: (Word.ofString field.name ++ [quotationMark]) ++ 0x3A :: value

def objectText (values : List Word) : Word :=
  0x7B :: closedText 0x7D (List.zipWith memberText Field.all values)

structure GivesInOrder (values : List Word) (settings : List Setting) : Prop where
  inOrder : settings.map Setting.field <+: Field.all
  spelled : List.Forall₂ (fun value setting => Spells value setting.valueLexemes) values settings

theorem GivesInOrder.length_le {values : List Word} {settings : List Setting}
    (gives : GivesInOrder values settings) : values.length ≤ Field.all.length := by
  have bound := gives.inOrder.length_le
  rw [List.length_map, ← gives.spelled.length_eq] at bound
  exact bound

/-! ## Arrays -/

theorem lexemes_values_eq_iff {values : List Word} (legible : ∀ value ∈ values, Legible value)
    (settings : List Setting) :
    lexemes (closedText 0x5D values) = valuesLexemes settings ↔
      List.Forall₂ (fun value setting => Spells value setting.valueLexemes) values settings := by
  have isClose : ((0x5D : UInt8), Lexeme.closeBracket) ∈ marks := by simp [marks]
  rw [valuesLexemes, ← List.forall₂_map_right_iff]
  apply lexemes_closedText_eq_iff isClose (by simp)
  · exact fun value isValue => (legible value isValue).opens
  · rw [List.forall_mem_map]
    intro setting _
    rcases setting.opensValue with ⟨lexeme, tail, head, opening⟩
    exact ⟨lexeme, tail, head, opening.ne_closeBracket⟩
  · intro value isValue
    rw [List.forall_mem_map]
    exact fun setting _ => (legible value isValue).settles setting

theorem document_arrayText_iff {values : List Word} (legible : ∀ value ∈ values, Legible value)
    (overrides : Overrides) :
    Document (lexemes (arrayText values)) overrides ↔
      ∃ settings, GivesInOrder values settings ∧
        ({} : Overrides).setAll settings = overrides := by
  have opens : lexemes (arrayText values) = .openBracket :: lexemes (closedText 0x5D values) :=
    lexemes_mark (by simp [marks]) _
  rw [opens]
  constructor
  · intro document
    generalize closed : lexemes (closedText 0x5D values) = behind at document
    cases document with
    | @array settings inOrder =>
        exact ⟨settings, ⟨inOrder, (lexemes_values_eq_iff legible settings).mp closed⟩, rfl⟩
  · rintro ⟨settings, gives, rfl⟩
    rw [(lexemes_values_eq_iff legible settings).mpr gives.spelled]
    exact .array gives.inOrder

/-! ## Objects -/

theorem name_injective {field other : Field} (same : field.name = other.name) : field = other := by
  have found := Field.ofName?_name field
  rw [same, Field.ofName?_name] at found
  exact (Option.some.inj found).symm

theorem textSpelling_name (field : Field) :
    TextSpelling field.name.toList (Word.ofString field.name) := by
  apply textSpelling_ofText
  rw [← List.all_iff_forall_prop]
  cases field <;> decide +kernel

theorem lexemes_memberText (field : Field) (value rest : Word) :
    lexemes (memberText field value ++ rest) =
      .string field.name :: .colon :: lexemes (value ++ rest) := by
  have spelling := LexemeSpelling.string (textSpelling_name field)
  have isColon : ((0x3A : UInt8), Lexeme.colon) ∈ marks := by simp [marks]
  rw [memberText, List.append_assoc, ← List.cons_append,
    lexemes_spelling spelling False.elim, List.cons_append,
    lexemes_mark isColon]

theorem spells_memberText_iff (field : Field) (value : Word) (setting : Setting) :
    Spells (memberText field value) setting.lexemes ↔
      setting.field = field ∧ Spells value setting.valueLexemes := by
  constructor
  · intro spells
    have same : ∀ rest, EndsNumber rest → field.name = setting.field.name ∧
        lexemes (value ++ rest) = setting.valueLexemes ++ lexemes rest := by
      intro rest ends
      have read := spells rest ends
      rw [lexemes_memberText, Setting.lexemes, List.cons_append, List.cons_append,
        List.cons.injEq, List.cons.injEq, Lexeme.string.injEq] at read
      exact ⟨read.1, read.2.2⟩
    exact ⟨(name_injective (same [] endsNumber_nil).1).symm, fun rest ends => (same rest ends).2⟩
  · rintro ⟨rfl, spells⟩ rest ends
    rw [lexemes_memberText, spells rest ends]
    rfl

theorem settles_memberText {value : Word} (legible : Legible value) (field : Field)
    (setting : Setting) : Settles (memberText field value) setting.lexemes := by
  intro rest ends begins
  rw [lexemes_memberText, Setting.lexemes, List.cons_prefix_cons, List.cons_prefix_cons,
    Lexeme.string.injEq] at begins
  rw [spells_memberText_iff]
  exact ⟨name_injective begins.1, legible.settles setting rest ends begins.2.2⟩

theorem forall₂_members_iff {fields : List Field} :
    ∀ {values : List Word} {settings : List Setting}, values.length ≤ fields.length →
      (List.Forall₂ Spells (List.zipWith memberText fields values)
          (settings.map Setting.lexemes) ↔
        settings.map Setting.field <+: fields ∧
          List.Forall₂ (fun value setting => Spells value setting.valueLexemes)
            values settings) := by
  induction fields with
  | nil =>
      intro values settings short
      rw [List.length_eq_zero_iff.mp (Nat.le_zero.mp short)]
      cases settings <;> simp
  | cons field fields induction =>
      intro values settings short
      cases values with
      | nil => cases settings <;> simp
      | cons value values =>
          cases settings with
          | nil => simp
          | cons setting settings =>
              rw [List.zipWith_cons_cons, List.map_cons, List.map_cons, List.forall₂_cons,
                List.forall₂_cons, List.cons_prefix_cons, spells_memberText_iff,
                induction (Nat.le_of_succ_le_succ short)]
              exact and_and_and_comm

theorem lexemes_members_eq_iff {values : List Word} (legible : ∀ value ∈ values, Legible value)
    (short : values.length ≤ Field.all.length) (settings : List Setting) :
    lexemes (closedText 0x7D (List.zipWith memberText Field.all values)) =
      membersLexemes settings ↔ GivesInOrder values settings := by
  have isClose : ((0x7D : UInt8), Lexeme.closeBrace) ∈ marks := by simp [marks]
  have isMember : ∀ text ∈ List.zipWith memberText Field.all values,
      ∃ field, ∃ value ∈ values, text = memberText field value := by
    intro text isText
    rw [← List.map_uncurry_zip_eq_zipWith, List.mem_map] at isText
    rcases isText with ⟨⟨field, value⟩, isPair, rfl⟩
    exact ⟨field, value, (List.of_mem_zip isPair).2, rfl⟩
  have members : List.Forall₂ Spells (List.zipWith memberText Field.all values)
      (settings.map Setting.lexemes) ↔ GivesInOrder values settings := by
    rw [forall₂_members_iff short]
    exact ⟨fun gives => ⟨gives.1, gives.2⟩, fun gives => ⟨gives.inOrder, gives.spelled⟩⟩
  rw [membersLexemes, ← members]
  apply lexemes_closedText_eq_iff isClose (by simp)
  · intro text isText rest _ begins
    rcases isMember text isText with ⟨field, value, _, rfl⟩
    rw [lexemes_memberText, List.cons_prefix_cons] at begins
    cases begins.1
  · rw [List.forall_mem_map]
    exact fun setting _ => ⟨_, _, rfl, by simp⟩
  · intro text isText
    rcases isMember text isText with ⟨field, value, isValue, rfl⟩
    rw [List.forall_mem_map]
    exact fun setting _ => settles_memberText (legible value isValue) field setting

theorem document_objectText_iff {values : List Word} (legible : ∀ value ∈ values, Legible value)
    (short : values.length ≤ Field.all.length) (overrides : Overrides) :
    Document (lexemes (objectText values)) overrides ↔
      ∃ settings, GivesInOrder values settings ∧
        ({} : Overrides).setAll settings = overrides := by
  have opens : lexemes (objectText values) =
      .openBrace :: lexemes (closedText 0x7D (List.zipWith memberText Field.all values)) :=
    lexemes_mark (by simp [marks]) _
  rw [opens]
  constructor
  · intro document
    generalize closed : lexemes (closedText 0x7D _) = behind at document
    cases document with
    | @object settings _ =>
        exact ⟨settings, (lexemes_members_eq_iff legible short settings).mp closed, rfl⟩
  · rintro ⟨settings, gives, rfl⟩
    rw [(lexemes_members_eq_iff legible short settings).mpr gives]
    have distinct : Field.all.Nodup := by decide
    exact .object (distinct.sublist gives.inOrder.sublist)

/-! ## Both forms -/

section

variable {values : List Word}

theorem decode_arrayText_eq_ok_iff (legible : ∀ value ∈ values, Legible value)
    (configuration : Configuration) :
    decode (arrayText values) = .ok configuration ↔
      ∃ settings, GivesInOrder values settings ∧
        standard.override (({} : Overrides).setAll settings) = configuration := by
  simp only [decode_eq_ok_iff, document_arrayText_iff legible]
  constructor
  · rintro ⟨_, ⟨settings, gives, rfl⟩, same⟩
    exact ⟨settings, gives, same⟩
  · rintro ⟨settings, gives, same⟩
    exact ⟨_, ⟨settings, gives, rfl⟩, same⟩

theorem decode_objectText_eq_ok_iff (legible : ∀ value ∈ values, Legible value)
    (short : values.length ≤ Field.all.length) (configuration : Configuration) :
    decode (objectText values) = .ok configuration ↔
      decode (arrayText values) = .ok configuration := by
  simp only [decode_eq_ok_iff, document_arrayText_iff legible,
    document_objectText_iff legible short]

theorem GivesInOrder.defaulted {settings : List Setting} (gives : GivesInOrder values settings)
    {field : Field} (missing : field ∈ Field.all.drop values.length) :
    (standard.override (({} : Overrides).setAll settings)).setting field =
      standard.setting field := by
  have distinct : Field.all.Nodup := by decide
  rcases setting_override_setAll standard settings {}
    (distinct.sublist gives.inOrder.sublist) with ⟨_, others⟩
  apply others field
  intro given
  rw [gives.spelled.length_eq, ← List.length_map Setting.field] at missing
  have taken := List.prefix_iff_eq_take.mp gives.inOrder
  rw [taken] at given
  exact List.disjoint_take_drop distinct (Nat.le_refl _) given missing

end

/-- Two verdicts on files in one place are of the same kind: one configuration, in which the
fields that are missing are standard, or two texts that cannot be decoded, or one problem. -/
inductive SameVerdict (missing : List Field) (path : Word) :
    Except Fault Configuration → Except Fault Configuration → Prop
  | accepted {configuration : Configuration} :
      (∀ field ∈ missing, configuration.setting field = standard.setting field) →
      SameVerdict missing path (.ok configuration) (.ok configuration)
  | undecodable (first second : Diagnosis) :
      SameVerdict missing path (.error ⟨.decoding first, [.decodingConfiguration path]⟩)
        (.error ⟨.decoding second, [.decodingConfiguration path]⟩)
  | refused (problem : Problem) :
      SameVerdict missing path (.error ⟨.configuration problem, [.checkingConfiguration path]⟩)
        (.error ⟨.configuration problem, [.checkingConfiguration path]⟩)

/-- Whether values are accepted and refused alike in both forms, and in neither if there are
more of them than fields. -/
structure FormsAgree (values : List Word) : Prop where
  agree : values.length ≤ Field.all.length →
    ∀ read other path, read path = .ok (arrayText values) → other path = .ok (objectText values) →
      SameVerdict (Field.all.drop values.length) path (load read path) (load other path)
  surplus : Field.all.length < values.length → Undecodable (arrayText values)

theorem forms_agree {values : List Word} (isValue : ∀ value ∈ values, ValueText value) :
    FormsAgree values := by
  have legible := fun value member => legible_of_valueText (isValue value member)
  refine ⟨?_, ?_⟩
  · intro short read other path readable otherReadable
    have same := decode_objectText_eq_ok_iff legible short
    rw [load, load, readable, otherReadable]
    simp only
    cases decodedArray : decode (arrayText values) with
    | error first =>
        cases decodedObject : decode (objectText values) with
        | error second => exact .undecodable first second
        | ok configuration =>
            rw [same configuration, decodedArray] at decodedObject
            cases decodedObject
    | ok configuration =>
        rw [(same configuration).mpr decodedArray]
        simp only [check]
        cases configuration.problem? with
        | some problem => exact .refused problem
        | none =>
            rcases (decode_arrayText_eq_ok_iff legible configuration).mp decodedArray with
              ⟨settings, gives, rfl⟩
            exact .accepted fun field missing => gives.defaulted missing
  · intro surplus
    apply undecodable_of_decode
    cases decoded : decode (arrayText values) with
    | error diagnosis => exact ⟨diagnosis, rfl⟩
    | ok configuration =>
        rcases (decode_arrayText_eq_ok_iff legible configuration).mp decoded with
          ⟨settings, gives, _⟩
        exact absurd gives.length_le (Nat.not_le.mpr surplus)

theorem givenTools_forms_agree :
    let values := [Word.ofString " \"obj\"", Word.ofString "\"up\"", Word.ofString "[\"main\"]"]
    let configuration :=
      { standard with objcopy := "obj", uploader := "up", stripSymbols := ["main"] }
    load (fun _ => .ok (arrayText values)) [] = .ok configuration ∧
      load (fun _ => .ok (objectText values)) [] = .ok configuration ∧ FormsAgree values := by
  intro values configuration
  have quoted : ∀ body : Word, (body.all fun byte =>
      0x20 ≤ byte.toNat && byte ≠ quotationMark && byte ≠ backslash) →
      ValueText (quotationMark :: (body ++ [quotationMark])) := by
    intro body plain
    refine .string (.quoted (.of_plain fun byte member => ?_))
    simpa [IsPlain, and_assoc] using List.all_eq_true.mp plain byte member
  have objcopy : Word.ofString " \"obj\"" =
      [0x20] ++ (quotationMark :: (Word.ofString "obj" ++ [quotationMark]) ++ []) := by
    decide +kernel
  have uploader : Word.ofString "\"up\"" =
      quotationMark :: (Word.ofString "up" ++ [quotationMark]) := by
    decide +kernel
  have symbols : Word.ofString "[\"main\"]" =
      0x5B :: ([] ++ closedText 0x5D
        [quotationMark :: (Word.ofString "main" ++ [quotationMark])]) := by
    decide +kernel
  refine ⟨by decide +kernel, by decide +kernel, forms_agree ?_⟩
  simp only [values, List.forall_mem_cons, List.not_mem_nil, false_imp_iff, implies_true, and_true]
  refine ⟨?_, ?_, ?_⟩
  · rw [objcopy]
    exact .padded (List.all_eq_true.mp (by decide)) (quoted _ (by decide +kernel)) (by simp)
  · rw [uploader]
    exact quoted _ (by decide +kernel)
  · rw [symbols]
    refine .array (by simp) ?_
    rw [List.forall_mem_singleton]
    exact quoted _ (by decide +kernel)

end UploadRunner.Configuration
