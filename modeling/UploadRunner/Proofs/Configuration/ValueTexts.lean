import Mathlib.Data.List.Forall2
import UploadRunner.Proofs.Configuration.Documents
import UploadRunner.Proofs.Json.Values

/-! Texts of values as settings.

Whether the text of a value gives a setting is settled by the text alone: where it begins
with the lexemes of the setting in one place, it reads as them and as nothing more in every
place where a value may stand. -/

namespace UploadRunner.Configuration

open Json

/-- Whether a text that begins with certain lexemes somewhere reads as them everywhere. -/
def Settles (text : Word) (item : List Lexeme) : Prop :=
  ∀ rest, EndsNumber rest → item <+: lexemes (text ++ rest) → Spells text item

/-- Whether a text can be told from the end of an array, and settles which settings it
gives. -/
structure Legible (value : Word) : Prop where
  opens : ∀ rest, EndsNumber rest → ¬ [.closeBracket] <+: lexemes (value ++ rest)
  settles : ∀ setting : Setting, Settles value setting.valueLexemes

/-! ## Closed lists -/

section

variable {close : Lexeme} {mark : UInt8} {texts : List Word} {items : List (List Lexeme)}

theorem lexemes_furtherText (isClose : (mark, close) ∈ marks)
    (spelled : List.Forall₂ Spells texts items) (rest : Word) :
    lexemes (furtherText mark texts ++ rest) = furtherList close items ++ lexemes rest := by
  induction spelled with
  | nil => exact lexemes_mark isClose rest
  | cons first _ induction =>
      rw [furtherText_cons, furtherList_cons, List.cons_append, lexemes_mark comma_mem_marks,
        List.append_assoc, first _ (endsNumber_furtherText isClose _ _), induction,
        List.cons_append, List.append_assoc]

theorem spells_closedText (isClose : (mark, close) ∈ marks)
    (spelled : List.Forall₂ Spells texts items) :
    Spells (closedText mark texts) (closedList close items) := by
  intro rest _
  cases spelled with
  | nil => exact lexemes_mark isClose rest
  | cons first others =>
      rw [closedText_cons, closedList_cons, List.append_assoc,
        first _ (endsNumber_furtherText isClose _ _), lexemes_furtherText isClose others,
        List.append_assoc]

theorem lexemes_closedText (isClose : (mark, close) ∈ marks)
    (spelled : List.Forall₂ Spells texts items) :
    lexemes (closedText mark texts) = closedList close items := by
  have closed := spells_closedText isClose spelled [] endsNumber_nil
  rw [List.append_nil] at closed
  rw [closed]
  exact List.append_nil _

theorem Settles.cut {text tail : Word} {item more : List Lexeme} (settles : Settles text item)
    (ends : EndsNumber tail) (begins : item ++ more <+: lexemes (text ++ tail)) :
    Spells text item ∧ more <+: lexemes tail := by
  have spells := settles tail ends ((List.prefix_append item more).trans begins)
  rw [spells tail ends, List.prefix_append_right_inj] at begins
  exact ⟨spells, begins⟩

theorem forall₂_of_further (isClose : (mark, close) ∈ marks) (notComma : close ≠ .comma)
    {rest : Word} (settles : ∀ text ∈ texts, ∀ item ∈ items, Settles text item)
    (begins : furtherList close items <+: lexemes (furtherText mark texts ++ rest)) :
    List.Forall₂ Spells texts items := by
  induction texts generalizing items with
  | nil =>
      rw [show furtherText mark [] ++ rest = mark :: rest from rfl, lexemes_mark isClose] at begins
      cases items with
      | nil => exact .nil
      | cons item items =>
          rw [furtherList_cons, List.cons_prefix_cons] at begins
          exact absurd begins.1.symm notComma
  | cons text texts induction =>
      rw [furtherText_cons, List.cons_append, lexemes_mark comma_mem_marks,
        List.append_assoc] at begins
      cases items with
      | nil => exact absurd (List.cons_prefix_cons.mp begins).1 notComma
      | cons item items =>
          rw [furtherList_cons, List.cons_prefix_cons] at begins
          rcases (settles text List.mem_cons_self item List.mem_cons_self).cut
            (endsNumber_furtherText isClose _ _) begins.2 with ⟨first, beginsOthers⟩
          refine .cons first (induction ?_ beginsOthers)
          intro other isText next isItem
          exact settles other (List.mem_cons_of_mem _ isText) next (List.mem_cons_of_mem _ isItem)

theorem forall₂_of_closed (isClose : (mark, close) ∈ marks) (notComma : close ≠ .comma)
    (rest : Word)
    (opens : ∀ text ∈ texts, ∀ rest, EndsNumber rest → ¬ [close] <+: lexemes (text ++ rest))
    (stands : ∀ item ∈ items, ∃ lexeme tail, item = lexeme :: tail ∧ lexeme ≠ close)
    (settles : ∀ text ∈ texts, ∀ item ∈ items, Settles text item)
    (begins : closedList close items <+: lexemes (closedText mark texts ++ rest)) :
    List.Forall₂ Spells texts items := by
  cases texts with
  | nil =>
      rw [show closedText mark [] ++ rest = mark :: rest from rfl, lexemes_mark isClose] at begins
      cases items with
      | nil => exact .nil
      | cons item items =>
          rcases stands item List.mem_cons_self with ⟨lexeme, tail, rfl, notClose⟩
          rw [closedList_cons, List.cons_append, List.cons_prefix_cons] at begins
          exact absurd begins.1 notClose
  | cons text texts =>
      have ends := endsNumber_furtherText isClose texts rest
      rw [closedText_cons, List.append_assoc] at begins
      cases items with
      | nil => exact absurd begins (opens text List.mem_cons_self _ ends)
      | cons item items =>
          rw [closedList_cons] at begins
          rcases (settles text List.mem_cons_self item List.mem_cons_self).cut ends begins with
            ⟨first, beginsOthers⟩
          refine .cons first (forall₂_of_further isClose notComma ?_ beginsOthers)
          intro other isText next isItem
          exact settles other (List.mem_cons_of_mem _ isText) next (List.mem_cons_of_mem _ isItem)

theorem lexemes_closedText_eq_iff (isClose : (mark, close) ∈ marks) (notComma : close ≠ .comma)
    (opens : ∀ text ∈ texts, ∀ rest, EndsNumber rest → ¬ [close] <+: lexemes (text ++ rest))
    (stands : ∀ item ∈ items, ∃ lexeme tail, item = lexeme :: tail ∧ lexeme ≠ close)
    (settles : ∀ text ∈ texts, ∀ item ∈ items, Settles text item) :
    lexemes (closedText mark texts) = closedList close items ↔
      List.Forall₂ Spells texts items := by
  constructor
  · intro closed
    apply forall₂_of_closed isClose notComma [] opens stands settles
    simp only [List.append_nil, closed, List.prefix_refl]
  · exact lexemes_closedText isClose

end

/-! ## Values -/

theorem legible_of_foreign {value : Word}
    (foreign : ∀ rest, EndsNumber rest → ∃ lexeme more, lexemes (value ++ rest) = lexeme :: more ∧
      ¬ OpensValue lexeme ∧ lexeme ≠ .closeBracket) : Legible value where
  opens := by
    intro rest ends begins
    rcases foreign rest ends with ⟨lexeme, more, head, _, notClose⟩
    rw [head, List.cons_prefix_cons] at begins
    exact notClose begins.1.symm
  settles := by
    intro setting rest ends begins
    rcases foreign rest ends with ⟨lexeme, more, head, notOpening, _⟩
    rcases setting.opensValue with ⟨opening, tail, split, isOpening⟩
    rw [head, split, List.cons_prefix_cons] at begins
    exact absurd (begins.1 ▸ isOpening) notOpening

theorem legible_of_broken {value : Word} (broken : IsBroken value) : Legible value := by
  apply legible_of_foreign
  intro rest ends
  rcases broken rest ends with ⟨failure, read⟩
  exact ⟨.broken failure, [], read, id, by simp⟩

theorem legible_of_single {value : Word} {lexeme : Lexeme} (spells : Spells value [lexeme])
    (notOpen : lexeme ≠ .openBracket) (notClose : lexeme ≠ .closeBracket) : Legible value where
  opens := by
    intro rest ends begins
    rw [spells rest ends, List.singleton_append, List.cons_prefix_cons] at begins
    exact notClose begins.1.symm
  settles := by
    intro setting rest ends begins
    rw [spells rest ends, List.singleton_append] at begins
    cases setting with
    | stripSymbols values =>
        rw [Setting.valueLexemes, arrayLexemes, List.cons_append, List.cons_prefix_cons] at begins
        exact absurd begins.1.symm notOpen
    | objcopy value | uploader value | excludedSection value | target value | slot value =>
        rw [Setting.valueLexemes, List.cons_prefix_cons] at begins
        rw [Setting.valueLexemes, begins.1]
        exact spells

theorem legible_array {blanks : Word} {items : List Word}
    (blank : ∀ byte ∈ blanks, isBlank byte) (legible : ∀ item ∈ items, Legible item) :
    Legible (0x5B :: (blanks ++ closedText 0x5D items)) := by
  have isOpen : ((0x5B : UInt8), Lexeme.openBracket) ∈ marks := by simp [marks]
  have isClose : ((0x5D : UInt8), Lexeme.closeBracket) ∈ marks := by simp [marks]
  have read : ∀ rest, lexemes (0x5B :: (blanks ++ closedText 0x5D items) ++ rest) =
      .openBracket :: lexemes (closedText 0x5D items ++ rest) := by
    intro rest
    rw [List.cons_append, lexemes_mark isOpen, List.append_assoc, lexemes_blank_append blank]
  refine ⟨?_, ?_⟩
  · intro rest _ begins
    rw [read, List.cons_prefix_cons] at begins
    cases begins.1
  · intro setting rest ends begins
    rw [read] at begins
    cases setting with
    | stripSymbols values =>
        have split : arrayLexemes values = .openBracket :: textsLexemes values := rfl
        rw [Setting.valueLexemes, split, List.cons_prefix_cons] at begins
        have spelled : List.Forall₂ Spells items (values.map fun value => [.string value]) := by
          refine forall₂_of_closed isClose (by simp) rest ?_ ?_ ?_ begins.2
          · exact fun item isItem => (legible item isItem).opens
          · rw [List.forall_mem_map]
            exact fun value _ => ⟨_, _, rfl, by simp⟩
          · intro text isText
            rw [List.forall_mem_map]
            exact fun value _ => (legible text isText).settles (.objcopy value)
        intro other otherEnds
        rw [read, spells_closedText isClose spelled other otherEnds]
        rfl
    | objcopy value | uploader value | excludedSection value | target value | slot value =>
        rw [Setting.valueLexemes, List.cons_prefix_cons] at begins
        cases begins.1

theorem legible_padded {before text behind : Word} (blankBefore : ∀ byte ∈ before, isBlank byte)
    (legible : Legible text) (blankBehind : ∀ byte ∈ behind, isBlank byte) :
    Legible (before ++ (text ++ behind)) where
  opens := by
    intro rest ends begins
    rw [lexemes_padded blankBefore] at begins
    exact legible.opens _ (endsNumber_blank_append blankBehind ends) begins
  settles := by
    intro setting rest ends begins other otherEnds
    rw [lexemes_padded blankBefore] at begins ⊢
    have spells := legible.settles setting _ (endsNumber_blank_append blankBehind ends) begins
    rw [spells _ (endsNumber_blank_append blankBehind otherEnds), lexemes_blank_append blankBehind]

theorem legible_of_valueText {value : Word} (isValue : ValueText value) : Legible value := by
  induction isValue with
  | literal isLiteral =>
      have apart : ∀ known ∈ literals,
          known.2 ≠ .openBracket ∧ known.2 ≠ .closeBracket := by
        simp [literals]
      exact legible_of_single (spells_literal isLiteral) (apart _ isLiteral).1
        (apart _ isLiteral).2
  | number isNumber =>
      rcases isNumber.spells_or_broken with ⟨number, spells⟩ | broken
      · exact legible_of_single spells (by simp) (by simp)
      · exact legible_of_broken broken
  | string isString =>
      rcases isString.spells_or_broken with ⟨string, spells⟩ | broken
      · exact legible_of_single spells (by simp) (by simp)
      · exact legible_of_broken broken
  | array blank _ induction => exact legible_array blank induction
  | object blank _ _ _ =>
      apply legible_of_foreign
      intro rest _
      exact ⟨.openBrace, _, lexemes_mark (by simp [marks]) _, id, by simp⟩
  | padded blankBefore _ blankBehind induction =>
      exact legible_padded blankBefore induction blankBehind

end UploadRunner.Configuration
