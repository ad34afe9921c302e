import Mathlib.Data.Bool.AllAny
import Mathlib.Data.List.TakeWhile
import UploadRunner.Proofs.Log.Filters
import UploadRunner.Proofs.Text.Separated

/-! Requests: the texts that ask for records.

A request is a list of directives with commas between them. White space around a directive
is no part of it, limits may be written in either case, and a part may be left empty. Such a
text is read without a warning as the directives that it spells. -/

namespace UploadRunner.Log

/-! ## Spellings -/

def SpellsLimit (limit : Option Level) (text : Text) : Prop :=
  ∃ name, (name, limit) ∈ limits ∧ text.map Char.toLower = name.toList

/-- Whether a text is the name of a module: it is not empty, and none of its characters has
a meaning in a request. -/
structure IsModule (name : Text) : Prop where
  nonempty : name ≠ []
  plain : ∀ character ∈ name, character ≠ ',' ∧ character ≠ '=' ∧ character ≠ '/' ∧
    ¬ isWhiteSpace character

/-- The spellings of a directive: a limit alone, or the name of a module with a limit. -/
inductive DirectiveSpelling : Directive → Text → Prop
  | plain {limit : Option Level} {text : Text} : SpellsLimit limit text →
      DirectiveSpelling ⟨none, limit⟩ text
  | named {name text : Text} {limit : Option Level} : IsModule name → SpellsLimit limit text →
      DirectiveSpelling ⟨some (String.ofList name), limit⟩ (name ++ '=' :: text)

inductive PartSpelling : List Directive → Text → Prop
  | blank {text : Text} : (∀ character ∈ text, isWhiteSpace character) → PartSpelling [] text
  | directive {directive : Directive} {before text behind : Text} :
      (∀ character ∈ before, isWhiteSpace character) → DirectiveSpelling directive text →
      (∀ character ∈ behind, isWhiteSpace character) →
      PartSpelling [directive] (before ++ (text ++ behind))

theorem PartSpelling.bare {directive : Directive} {text : Text}
    (spelled : DirectiveSpelling directive text) : PartSpelling [directive] text := by
  have unpadded : text = [] ++ (text ++ []) := by rw [List.nil_append, List.append_nil]
  rw [unpadded]
  exact .directive (by simp) spelled (by simp)

/-- The texts that ask for directives. -/
inductive Requests : List Directive → Text → Prop
  | last {directives : List Directive} {part : Text} : PartSpelling directives part →
      Requests directives part
  | more {directives later : List Directive} {part text : Text} :
      PartSpelling directives part → Requests later text →
      Requests (directives ++ later) (part ++ ',' :: text)

/-! ## Characters -/

def IsSolid (character : Char) : Prop :=
  character ≠ ',' ∧ ¬ isWhiteSpace character

theorem toNat_toLower (character : Char) :
    character.toLower.toNat = character.toNat ∨
      'A'.toNat ≤ character.toNat ∧ character.toNat ≤ 'Z'.toNat := by
  unfold Char.toLower
  split
  · rename_i upper
    exact .inr upper
  · exact .inl rfl

theorem SpellsLimit.letters {limit : Option Level} {text : Text}
    (spelled : SpellsLimit limit text) :
    ∀ character ∈ text, character ≠ '=' ∧ IsSolid character := by
  intro character member
  rcases spelled with ⟨name, isLimit, same⟩
  have lowerCase : limits.all fun entry => entry.1.toList.all fun letter =>
      'a'.toNat ≤ letter.toNat ∧ letter.toNat ≤ 'z'.toNat := by
    decide +kernel
  have isLetter : character.toLower ∈ name.toList := same ▸ List.mem_map_of_mem member
  have bounds :=
    List.all_iff_forall_prop.mp (List.all_eq_true.mp lowerCase _ isLimit) _ isLetter
  have range : 65 ≤ character.toNat ∧ character.toNat ≤ 122 := by
    have upper : 'A'.toNat = 65 ∧ 'Z'.toNat = 90 := ⟨rfl, rfl⟩
    have lower : 'a'.toNat = 97 ∧ 'z'.toNat = 122 := ⟨rfl, rfl⟩
    have kept := toNat_toLower character
    omega
  refine ⟨?_, ?_, ?_⟩
  · rintro rfl
    exact absurd range.1 (by decide)
  · rintro rfl
    exact absurd range.1 (by decide)
  · simp only [isWhiteSpace, CharacterRanges.whiteSpace, CharacterRanges.Ranges.contain,
      List.any_cons, List.any_nil, Bool.or_eq_true, Bool.and_eq_true, decide_eq_true_eq,
      Bool.false_eq_true, or_false]
    omega

/-! ## Trimming -/

theorem dropWhile_solid {text rest : Text} (nonempty : text ≠ [])
    (solid : ∀ character ∈ text, ¬ isWhiteSpace character) :
    (text ++ rest).dropWhile isWhiteSpace = text ++ rest := by
  cases text with
  | nil => exact absurd rfl nonempty
  | cons character text =>
      exact List.dropWhile_cons_of_neg (solid character List.mem_cons_self)

theorem trim_padded {before text behind : Text} (nonempty : text ≠ [])
    (whiteBefore : ∀ character ∈ before, isWhiteSpace character)
    (solid : ∀ character ∈ text, ¬ isWhiteSpace character)
    (whiteBehind : ∀ character ∈ behind, isWhiteSpace character) :
    trim (before ++ (text ++ behind)) = text := by
  rw [trim, List.dropWhile_append_of_pos whiteBefore, dropWhile_solid nonempty solid,
    List.reverse_append, List.dropWhile_append_of_pos (by simpa using whiteBehind)]
  have backward : (text.reverse ++ []).dropWhile isWhiteSpace = text.reverse ++ [] :=
    dropWhile_solid (by simpa using nonempty) (by simpa using solid)
  rw [List.append_nil] at backward
  rw [backward, List.reverse_reverse]

theorem trim_of_blank {text : Text} (white : ∀ character ∈ text, isWhiteSpace character) :
    trim text = [] := by
  rw [trim, List.dropWhile_eq_nil_iff.mpr white]
  rfl

/-! ## Reading -/

theorem limit?_of_spells {limit : Option Level} {text : Text} (spelled : SpellsLimit limit text) :
    limit? text = some limit := by
  rcases spelled with ⟨name, isLimit, same⟩
  have found : ∀ entry ∈ limits,
      (limits.find? fun known => known.1.toList = entry.1.toList).map Prod.snd =
        some entry.2 := by
    decide +kernel
  rw [limit?, same]
  exact found _ isLimit

theorem SpellsLimit.nonempty {limit : Option Level} {text : Text}
    (spelled : SpellsLimit limit text) : text ≠ [] := by
  rintro rfl
  rcases spelled with ⟨name, isLimit, same⟩
  have nonempty : ∀ entry ∈ limits, entry.1.toList ≠ [] := by decide +kernel
  exact nonempty _ isLimit same.symm

theorem DirectiveSpelling.nonempty {directive : Directive} {text : Text}
    (spelled : DirectiveSpelling directive text) : text ≠ [] := by
  cases spelled with
  | plain limit => exact limit.nonempty
  | named _ _ => exact List.append_ne_nil_of_right_ne_nil _ (List.cons_ne_nil _ _)

theorem DirectiveSpelling.solid {directive : Directive} {text : Text}
    (spelled : DirectiveSpelling directive text) : ∀ character ∈ text, IsSolid character := by
  cases spelled with
  | plain limit => exact fun character member => (limit.letters character member).2
  | named isModule limit =>
      intro character member
      rcases List.mem_append.mp member with inName | behind
      · have plain := isModule.plain character inName
        exact ⟨plain.1, plain.2.2.2⟩
      rcases List.mem_cons.mp behind with rfl | inLimit
      · exact ⟨by decide, by decide +kernel⟩
      · exact (limit.letters character inLimit).2

theorem read_of_spelling {directive : Directive} {text : Text}
    (spelled : DirectiveSpelling directive text) : Directive.read text = .ok directive := by
  cases spelled with
  | plain limit =>
      have whole : '=' ∉ text := fun member => (limit.letters '=' member).1 rfl
      rw [Directive.read, separatedBy_of_notMem whole]
      simp only [limit?_of_spells limit]
  | @named name text _ isModule limit =>
      -- One equals sign cuts the name from the limit, which is then trimmed once more.
      have wholeName : '=' ∉ name := fun member => (isModule.plain '=' member).2.1 rfl
      have whole : '=' ∉ text := fun member => (limit.letters '=' member).1 rfl
      have trimmed : trim text = text := by
        have padded : trim ([] ++ (text ++ [])) = text :=
          trim_padded limit.nonempty (by simp)
            (fun character member => (limit.letters character member).2.2) (by simp)
        rw [List.nil_append, List.append_nil] at padded
        exact padded
      rw [Directive.read, separatedBy_append, separatedBy_of_notMem wholeName,
        separatedBy_of_notMem whole]
      simp only [List.singleton_append, trimmed, limit?_of_spells limit]
      rw [if_neg (by simpa using limit.nonempty)]

theorem readPart_of_spelling {directives : List Directive} {part : Text}
    (spelled : PartSpelling directives part) :
    separatedBy ',' part = [part] ∧
      (([part].map trim).filter (! ·.isEmpty)).map Directive.read = directives.map .ok := by
  have comma : ¬ isWhiteSpace ',' := by decide +kernel
  cases spelled with
  | blank white =>
      refine ⟨separatedBy_of_notMem fun member => comma (white ',' member), ?_⟩
      simp [trim_of_blank white]
  | @directive directive before text behind whiteBefore spelled whiteBehind =>
      have solid := spelled.solid
      refine ⟨separatedBy_of_notMem ?_, ?_⟩
      · simp only [List.mem_append, not_or]
        exact ⟨fun member => comma (whiteBefore ',' member),
          fun member => (solid ',' member).1 rfl, fun member => comma (whiteBehind ',' member)⟩
      · have trimmed := trim_padded spelled.nonempty whiteBefore
          (fun character member => (solid character member).2) whiteBehind
        simp [trimmed, spelled.nonempty, read_of_spelling spelled]

theorem readDirectives_of_requests {directives : List Directive} {text : Text}
    (requests : Requests directives text) : readDirectives text = directives.map .ok := by
  rw [readDirectives]
  induction requests with
  | last part =>
      rcases readPart_of_spelling part with ⟨whole, read⟩
      rw [whole, read]
  | more part _ induction =>
      rcases readPart_of_spelling part with ⟨whole, read⟩
      rw [separatedBy_append, whole, List.map_append, List.filter_append, List.map_append, read,
        induction, List.map_append]

section

variable {directives : List Directive} {text : Text}

theorem warnings_of_requests (requests : Requests directives text) : warnings text = [] := by
  rw [warnings, readDirectives_of_requests requests, List.filterMap_map]
  exact List.filterMap_eq_nil_iff.mpr fun _ _ => rfl

theorem ofText_of_requests (requests : Requests directives text) :
    Filter.ofText text = directives.foldl Filter.add Filter.standard := by
  rw [Filter.ofText, readDirectives_of_requests requests, List.filterMap_map]
  congr 1
  exact List.filterMap_some

theorem admits_ofText_iff (requests : Requests directives text) (record : Record) :
    (Filter.ofText text).admits record ↔ Enables directives record := by
  rw [ofText_of_requests requests, admits_iff]

end

end UploadRunner.Log
