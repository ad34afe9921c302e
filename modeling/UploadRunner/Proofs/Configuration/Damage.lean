import UploadRunner.Proofs.Configuration.Texts

/-! Damaged configurations.

A text that is accepted ends with the last byte of its document. If that byte is lost, or
if anything but blanks follows it, the text is none of another configuration: it is
refused before a setting is checked. -/

namespace UploadRunner.Configuration

open Json

/-! ## Decoding -/

theorem decode_eq_ok_iff (content : Word) (configuration : Configuration) :
    decode content = .ok configuration ↔
      ∃ overrides, Document (lexemes content) overrides ∧
        standard.override overrides = configuration := by
  simp only [lexemes, ← readOverrides_eq_ok_iff_document]
  unfold decode
  cases readOverrides (scan content) <;> simp

section

variable {content : Word} {configuration : Configuration}

theorem lexemes_append_of_decode (decoded : decode content = .ok configuration) (added : Word) :
    lexemes (content ++ added) = lexemes content ++ lexemes added := by
  rcases (decode_eq_ok_iff _ _).mp decoded with ⟨overrides, document, _⟩
  exact lexemes_append document.plain
    (fun lexeme isLast => (document.getLast? lexeme isLast).not_number) added

theorem decode_append_of_blank (decoded : decode content = .ok configuration) {blanks : Word}
    (blank : ∀ byte ∈ blanks, isBlank byte) :
    decode (content ++ blanks) = .ok configuration := by
  rw [decode_eq_ok_iff, lexemes_append_of_decode decoded, lexemes_of_blank blank,
    List.append_nil, ← decode_eq_ok_iff]
  exact decoded

theorem decode_append_of_notBlank (decoded : decode content = .ok configuration) {added : Word}
    (notBlank : ∃ byte ∈ added, ¬ isBlank byte) :
    ∃ diagnosis, decode (content ++ added) = .error diagnosis := by
  rcases (decode_eq_ok_iff _ _).mp decoded with ⟨overrides, document, _⟩
  have appended := lexemes_append_of_decode decoded added
  rcases List.map_eq_append_iff.mp appended with ⟨taken, rest, whole, isDocument, isRest⟩
  have takes : Takes (scan (content ++ added)) (lexemes content) rest := ⟨taken, whole, isDocument⟩
  cases rest with
  | nil =>
      rcases notBlank with ⟨byte, member, notBlank⟩
      exact absurd ((lexemes_eq_nil_iff added).mp isRest.symm byte member) notBlank
  | cons extra more =>
      unfold decode
      rw [readOverrides_of_document document takes]
      exact ⟨_, rfl⟩

/-- A text that is cut off cannot be accepted: what it has lost would stand behind a whole
document. -/
theorem decode_cut {kept lost : Word} (decoded : decode (kept ++ lost) = .ok configuration)
    (notBlank : ∃ byte ∈ lost, ¬ isBlank byte) :
    ∃ diagnosis, decode kept = .error diagnosis := by
  cases decodedKept : decode kept with
  | error diagnosis => exact ⟨diagnosis, rfl⟩
  | ok other =>
      rcases decode_append_of_notBlank decodedKept notBlank with ⟨diagnosis, refused⟩
      rw [refused] at decoded
      cases decoded

end

/-! ## Files -/

def Undecodable (content : Word) : Prop :=
  ∀ read path, read path = .ok content → ∃ diagnosis,
    load read path = .error ⟨.decoding diagnosis, [.decodingConfiguration path]⟩

/-- Whether a content is not taken for that of another configuration when its end is cut
off or more is written behind it, while blanks behind it change nothing. -/
structure IsUnmistakable (content : Word) (configuration : Configuration) : Prop where
  cut : ∀ kept lost, kept ++ lost = content → (∃ byte ∈ lost, ¬ isBlank byte) →
    Undecodable kept
  extended : ∀ added, (∃ byte ∈ added, ¬ isBlank byte) → Undecodable (content ++ added)
  padded : ∀ blanks, (∀ byte ∈ blanks, isBlank byte) →
    ∀ read path, read path = .ok (content ++ blanks) → load read path = .ok configuration

theorem undecodable_of_decode {content : Word}
    (refused : ∃ diagnosis, decode content = .error diagnosis) : Undecodable content := by
  intro read path readable
  rcases refused with ⟨diagnosis, refused⟩
  rw [load, readable]
  simp only [refused]
  exact ⟨diagnosis, rfl⟩

theorem load_isUnmistakable {read : Word → Except IoFault Word} {path content : Word}
    {configuration : Configuration} (readable : read path = .ok content)
    (loaded : load read path = .ok configuration) : IsUnmistakable content configuration := by
  rcases (load_eq_ok_iff_decode readable _).mp loaded with ⟨decoded, accepted⟩
  exact {
    cut := by
      rintro kept lost rfl notBlank
      exact undecodable_of_decode (decode_cut decoded notBlank)
    extended := by
      intro added notBlank
      exact undecodable_of_decode (decode_append_of_notBlank decoded notBlank)
    padded := by
      intro blanks blank other place readable
      rw [load_eq_ok_iff_decode readable]
      exact ⟨decode_append_of_blank decoded blank, accepted⟩ }

theorem escaped_isUnmistakable :
    IsUnmistakable (Word.ofString "[\"\\u006Fbj\", \"pros\" ]")
      { standard with objcopy := "obj" } :=
  @load_isUnmistakable (fun _ => .ok (Word.ofString "[\"\\u006Fbj\", \"pros\" ]")) [] _ _ rfl
    (by decide +kernel)

end UploadRunner.Configuration
