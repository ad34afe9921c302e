import UploadRunner.Proofs.Configuration.Readers
import UploadRunner.Proofs.Json.Scans

/-! Documents: the token lists that configurations are read from.

A document is an object of settings, each of another field, or an array of the values of
the first fields. It ends with the bracket that closes it: nothing may follow, and no
document goes on where another one ends. -/

namespace UploadRunner.Configuration

open Json

/-! ## Arrays of values -/

def furtherList (close : Lexeme) (items : List (List Lexeme)) : List Lexeme :=
  items.flatMap (.comma :: ·) ++ [close]

theorem furtherList_cons (close : Lexeme) (item : List Lexeme) (items : List (List Lexeme)) :
    furtherList close (item :: items) = .comma :: (item ++ furtherList close items) := by
  rw [furtherList, List.flatMap_cons, List.append_assoc, List.cons_append]
  rfl

theorem closedList_cons (close : Lexeme) (item : List Lexeme) (items : List (List Lexeme)) :
    closedList close (item :: items) = item ++ furtherList close items := by
  induction items generalizing item with
  | nil => exact closedList_singleton close item
  | cons second others induction => rw [closedList_cons_cons, induction, furtherList_cons]

def valuesLexemes (settings : List Setting) : List Lexeme :=
  closedList .closeBracket (settings.map Setting.valueLexemes)

def furtherLexemes (settings : List Setting) : List Lexeme :=
  furtherList .closeBracket (settings.map Setting.valueLexemes)

theorem valuesLexemes_cons (setting : Setting) (settings : List Setting) :
    valuesLexemes (setting :: settings) = setting.valueLexemes ++ furtherLexemes settings :=
  closedList_cons _ _ _

theorem furtherLexemes_cons (setting : Setting) (settings : List Setting) :
    furtherLexemes (setting :: settings) =
      .comma :: (setting.valueLexemes ++ furtherLexemes settings) :=
  furtherList_cons _ _ _

def OpensValue : Lexeme → Prop
  | .string _ | .number _ | .openBracket => True
  | _ => False

theorem Setting.opensValue (setting : Setting) :
    ∃ lexeme tail, setting.valueLexemes = lexeme :: tail ∧ OpensValue lexeme := by
  cases setting <;> exact ⟨_, _, rfl, trivial⟩

theorem OpensValue.ne_closeBracket {lexeme : Lexeme} (opens : OpensValue lexeme) :
    lexeme ≠ .closeBracket := by
  rintro rfl
  exact opens

theorem Setting.takes_valueLexemes {setting : Setting} {tokens rest : List Token}
    (takes : Takes tokens setting.valueLexemes rest) :
    ∃ token behind, tokens = token :: behind ∧ token.lexeme ≠ .closeBracket := by
  rcases setting.opensValue with ⟨lexeme, tail, head, opens⟩
  rw [head] at takes
  rcases takes.cons with ⟨token, behind, rfl, rfl, _⟩
  exact ⟨token, behind, rfl, opens.ne_closeBracket⟩

theorem readArrayEnd_eq_ok_iff (overrides result : Overrides) (tokens rest : List Token) :
    readArrayEnd overrides tokens = .ok (result, rest) ↔
      Takes tokens [.closeBracket] rest ∧ overrides = result := by
  cases tokens with
  | nil => simp [readArrayEnd]
  | cons token more =>
      unfold readArrayEnd
      simp only [takes_cons_iff, takes_nil_iff]
      split
      · rename_i isEnd
        simp [isEnd, and_comm]
      · rename_i isComma
        rw [isComma]
        split
        · simp
        · split <;> simp
      · rename_i notEnd _
        have different : token.lexeme ≠ .closeBracket := notEnd
        simp [different]

theorem readElements_sound {fields : List Field} :
    ∀ {overrides result : Overrides} {tokens rest : List Token},
      readElements overrides fields tokens = .ok (result, rest) →
      ∃ settings : List Setting, settings.map Setting.field <+: fields ∧
        Takes tokens (furtherLexemes settings) rest ∧ overrides.setAll settings = result := by
  induction fields with
  | nil =>
      intro overrides result tokens rest read
      rcases (readArrayEnd_eq_ok_iff _ _ _ _).mp read with ⟨takes, same⟩
      exact ⟨[], List.prefix_rfl, takes, same⟩
  | cons field fields induction =>
      intro overrides result tokens rest read
      cases tokens with
      | nil => cases read
      | cons token more =>
          -- Behind a value the array ends, or a comma stands before the value of the next field.
          unfold readElements at read
          split at read
          · rename_i isEnd
            cases read
            refine ⟨[], List.nil_prefix, ?_, rfl⟩
            exact (takes_cons_iff _ _ _ _ _).mpr ⟨isEnd, (takes_nil_iff _ _).mpr rfl⟩
          · rename_i isComma
            split at read
            · cases read
            split at read
            · cases read
            split at read
            · cases read
            rename_i given behind readFirst
            rcases readField_sound readFirst with ⟨setting, rfl, takesFirst, rfl⟩
            rcases induction read with ⟨settings, inOrder, takesOthers, changed⟩
            refine ⟨setting :: settings, ?_, ?_, changed⟩
            · rw [List.map_cons, List.cons_prefix_cons]
              exact ⟨rfl, inOrder⟩
            · rw [furtherLexemes_cons, takes_cons_iff, takes_append_iff]
              exact ⟨isComma, behind, takesFirst, takesOthers⟩
          · cases read

theorem readElements_complete {settings : List Setting} :
    ∀ {overrides : Overrides} {fields : List Field} {tokens rest : List Token},
      settings.map Setting.field <+: fields → Takes tokens (furtherLexemes settings) rest →
      readElements overrides fields tokens = .ok (overrides.setAll settings, rest) := by
  induction settings with
  | nil =>
      intro overrides fields tokens rest _ takes
      rcases takes.cons with ⟨token, more, rfl, isEnd, takesRest⟩
      rw [takes_nil_iff] at takesRest
      subst takesRest
      cases fields <;> simp only [readElements, readArrayEnd, isEnd] <;> rfl
  | cons setting settings induction =>
      intro overrides fields tokens rest inOrder takes
      cases fields with
      | nil => simp at inOrder
      | cons field fields =>
          rw [List.map_cons, List.cons_prefix_cons] at inOrder
          rcases inOrder with ⟨rfl, inOrder⟩
          rw [furtherLexemes_cons] at takes
          rcases takes.cons with ⟨separator, more, rfl, isComma, takesBoth⟩
          rcases (takes_append_iff _ _ _ _).mp takesBoth with ⟨behind, takesFirst, takesOthers⟩
          have readFirst := readField_complete overrides takesFirst
          rcases Setting.takes_valueLexemes takesFirst with ⟨next, left, rfl, notEnd⟩
          simp only [readElements, isComma, readFirst]
          exact induction inOrder takesOthers

theorem readArray_sound {tokens rest : List Token} {result : Overrides}
    (read : readArray tokens = .ok (result, rest)) :
    ∃ settings : List Setting, settings.map Setting.field <+: Field.all ∧
      Takes tokens (valuesLexemes settings) rest ∧
      ({} : Overrides).setAll settings = result := by
  unfold readArray at read
  split at read
  · cases read
  split at read
  · rename_i isEnd
    cases read
    exact ⟨[], List.nil_prefix, (takes_cons_iff _ _ _ _ _).mpr ⟨isEnd, by simp⟩, rfl⟩
  split at read
  · cases read
  rename_i given behind readFirst
  rcases readField_sound readFirst with ⟨setting, isFirst, takesFirst, rfl⟩
  rcases readElements_sound read with ⟨settings, inOrder, takesOthers, changed⟩
  refine ⟨setting :: settings, ?_, ?_, changed⟩
  · rw [List.map_cons, isFirst]
    exact (List.cons_prefix_cons).mpr ⟨rfl, inOrder⟩
  · rw [valuesLexemes_cons, takes_append_iff]
    exact ⟨behind, takesFirst, takesOthers⟩

theorem readArray_complete {settings : List Setting} {tokens rest : List Token}
    (inOrder : settings.map Setting.field <+: Field.all)
    (takes : Takes tokens (valuesLexemes settings) rest) :
    readArray tokens = .ok (({} : Overrides).setAll settings, rest) := by
  cases settings with
  | nil =>
      have takesEnd : Takes tokens [.closeBracket] rest := takes
      rcases takesEnd.cons with ⟨token, _, rfl, isEnd, takesRest⟩
      rw [takes_nil_iff] at takesRest
      simp only [readArray, isEnd, takesRest]
      rfl
  | cons setting settings =>
      rw [valuesLexemes_cons, takes_append_iff] at takes
      rcases takes with ⟨behind, takesFirst, takesOthers⟩
      rcases (List.cons_prefix_cons).mp inOrder with ⟨isFirst, inOrder⟩
      have readFirst := readField_complete {} takesFirst
      rw [isFirst] at readFirst
      rcases Setting.takes_valueLexemes takesFirst with ⟨next, left, rfl, notEnd⟩
      simp only [readArray, readFirst]
      exact readElements_complete inOrder takesOthers

theorem readArray_eq_ok_iff (tokens rest : List Token) (result : Overrides) :
    readArray tokens = .ok (result, rest) ↔
      ∃ settings : List Setting, settings.map Setting.field <+: Field.all ∧
        Takes tokens (valuesLexemes settings) rest ∧
        ({} : Overrides).setAll settings = result := by
  constructor
  · exact readArray_sound
  · rintro ⟨settings, inOrder, takes, rfl⟩
    exact readArray_complete inOrder takes

/-! ## Documents -/

/-- The lexemes of a document, and the settings that it gives. -/
inductive Document : List Lexeme → Overrides → Prop
  | object {settings : List Setting} : (settings.map Setting.field).Nodup →
      Document (.openBrace :: membersLexemes settings) (({} : Overrides).setAll settings)
  | array {settings : List Setting} : settings.map Setting.field <+: Field.all →
      Document (.openBracket :: valuesLexemes settings) (({} : Overrides).setAll settings)

theorem document_of_readOverrides {tokens : List Token} {overrides : Overrides}
    (read : readOverrides tokens = .ok overrides) :
    Document (tokens.map Token.lexeme) overrides := by
  cases tokens with
  | nil => cases read
  | cons token behind =>
      unfold readOverrides at read
      simp only at read
      split at read
      · cases read
      · rename_i readAll
        cases read
        split at readAll
        · rename_i isOpen
          rcases (readObject_eq_ok_iff _ _ _).mp readAll with ⟨settings, distinct, takes, rfl⟩
          rw [List.map_cons, isOpen, (takes_all_iff _ _).mp takes]
          exact .object distinct
        · rename_i isOpen
          rcases (readArray_eq_ok_iff _ _ _).mp readAll with ⟨settings, inOrder, takes, rfl⟩
          rw [List.map_cons, isOpen, (takes_all_iff _ _).mp takes]
          exact .array inOrder
        · cases readAll
      · cases read

/-- Behind a document there is nothing, or the first token there is refused. -/
theorem readOverrides_of_document {lexemes : List Lexeme} {overrides : Overrides}
    {tokens rest : List Token} (document : Document lexemes overrides)
    (takes : Takes tokens lexemes rest) :
    readOverrides tokens =
      match rest with
      | [] => .ok overrides
      | extra :: _ => .error (unexpected .trailingCharacters extra) := by
  cases document with
  | object distinct =>
      rcases takes.cons with ⟨token, behind, rfl, isOpen, takesMembers⟩
      have readAll := (readObject_eq_ok_iff _ _ _).mpr ⟨_, distinct, takesMembers, rfl⟩
      simp only [readOverrides, isOpen, readAll]
      cases rest <;> rfl
  | array inOrder =>
      rcases takes.cons with ⟨token, behind, rfl, isOpen, takesValues⟩
      have readAll := (readArray_eq_ok_iff _ _ _).mpr ⟨_, inOrder, takesValues, rfl⟩
      simp only [readOverrides, isOpen, readAll]
      cases rest <;> rfl

theorem readOverrides_eq_ok_iff_document (tokens : List Token) (overrides : Overrides) :
    readOverrides tokens = .ok overrides ↔ Document (tokens.map Token.lexeme) overrides := by
  constructor
  · exact document_of_readOverrides
  · intro document
    exact readOverrides_of_document document ((takes_all_iff _ _).mpr rfl)

/-! ## Ends -/

theorem plain_closedList {close : Lexeme} (isMark : close.IsMark) (items : List (List Lexeme))
    (plain : ∀ item ∈ items, ∀ lexeme ∈ item, lexeme.IsPlain) :
    ∀ lexeme ∈ closedList close items, lexeme.IsPlain := by
  induction items with
  | nil =>
      intro lexeme member
      rw [List.mem_singleton.mp member]
      exact isMark.isPlain
  | cons item items induction =>
      rw [List.forall_mem_cons] at plain
      intro lexeme member
      cases items with
      | nil =>
          rw [closedList_singleton, List.mem_append, List.mem_singleton] at member
          rcases member with inside | rfl
          · exact plain.1 lexeme inside
          · exact isMark.isPlain
      | cons second others =>
          rw [closedList_cons_cons, List.mem_append, List.mem_cons] at member
          rcases member with inside | rfl | later
          · exact plain.1 lexeme inside
          · trivial
          · exact induction plain.2 lexeme later

theorem Setting.plain_valueLexemes (setting : Setting) :
    ∀ lexeme ∈ setting.valueLexemes, lexeme.IsPlain := by
  cases setting with
  | objcopy value | uploader value | excludedSection value | target value | slot value =>
      intro lexeme member
      rw [List.mem_singleton.mp member]
      trivial
  | stripSymbols values =>
      rw [Setting.valueLexemes]
      intro lexeme member
      rcases List.mem_cons.mp member with rfl | inside
      · trivial
      have isMark : Lexeme.closeBracket.IsMark := trivial
      refine plain_closedList isMark _ ?_ lexeme inside
      simp only [List.forall_mem_map, List.forall_mem_singleton]
      exact fun _ _ => trivial

theorem Setting.plain_lexemes (setting : Setting) :
    ∀ lexeme ∈ setting.lexemes, lexeme.IsPlain := by
  rw [Setting.lexemes, List.forall_mem_cons, List.forall_mem_cons]
  exact ⟨trivial, trivial, setting.plain_valueLexemes⟩

section

variable {lexemes : List Lexeme} {overrides : Overrides}

theorem Document.plain (document : Document lexemes overrides) :
    ∀ lexeme ∈ lexemes, lexeme.IsPlain := by
  cases document with
  | object _ =>
      have isMark : Lexeme.closeBrace.IsMark := trivial
      rw [List.forall_mem_cons]
      refine ⟨trivial, plain_closedList isMark _ ?_⟩
      rw [List.forall_mem_map]
      exact fun setting _ => setting.plain_lexemes
  | array _ =>
      have isMark : Lexeme.closeBracket.IsMark := trivial
      rw [List.forall_mem_cons]
      refine ⟨trivial, plain_closedList isMark _ ?_⟩
      rw [List.forall_mem_map]
      exact fun setting _ => setting.plain_valueLexemes

theorem Document.getLast? (document : Document lexemes overrides) :
    ∀ lexeme ∈ lexemes.getLast?, lexeme.IsMark := by
  have closed : ∀ (opening close : Lexeme) (items : List (List Lexeme)),
      (opening :: closedList close items).getLast? = some close := by
    intro opening close items
    rw [closedList, ← List.cons_append, List.getLast?_concat]
  intro lexeme isLast
  cases document with
  | object _ =>
      rw [membersLexemes, closed] at isLast
      cases isLast
      trivial
  | array _ =>
      rw [valuesLexemes, closed] at isLast
      cases isLast
      trivial

end

end UploadRunner.Configuration
