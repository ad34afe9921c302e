import UploadRunner.Proofs.Text.Utf8

/-! Parts of encoded texts.

A byte that begins a character begins one wherever it stands, so that an encoded text
holds no other excerpts than encoded excerpts of the text. Such a byte also ends whatever
cannot be completed before it. -/

namespace UploadRunner

theorem Utf8.encode_leading (character : Char) :
    ∃ first later, String.utf8EncodeChar character = first :: later ∧
      (first.toNat < 0x80 ∨ 0xC0 ≤ first.toNat) := by
  rcases encode_shape character with ⟨first, later, encoded, _, shape⟩
  refine ⟨first, later, encoded, ?_⟩
  rcases shape with ⟨short, same, _⟩ | ⟨_, long⟩
  · exact Or.inl (by omega)
  · exact Or.inr long

namespace Word

theorem ofText_cons (character : Char) (rest : Text) :
    ofText (character :: rest) = String.utf8EncodeChar character ++ ofText rest :=
  List.flatMap_cons

/-- An encoded text can be cut before any byte that is no continuation byte. -/
theorem ofText_eq_append {byte : UInt8} (leading : byte.toNat < 0x80 ∨ 0xC0 ≤ byte.toNat)
    (rest : Word) (text : Text) :
    ∀ front : Word, ofText text = front ++ byte :: rest →
      ∃ left right, text = left ++ right ∧ ofText right = byte :: rest := by
  induction text with
  | nil =>
      intro front equal
      simp at equal
  | cons character text induction =>
      intro front equal
      cases front with
      | nil => exact ⟨[], character :: text, rfl, equal⟩
      | cons head front =>
          rcases Utf8.encode_shape character with ⟨first, later, encoded, continuing, _⟩
          rw [ofText_cons, encoded, List.cons_append, List.cons_append, List.cons.injEq] at equal
          -- The byte continues nothing, so that it stands behind the whole first character.
          have behindLater : ∃ front, ofText text = front ++ byte :: rest := by
            rcases List.append_eq_append_iff.mp equal.2 with
              ⟨more, _, behind⟩ | ⟨more, inLater, behind⟩
            · exact ⟨more, behind⟩
            · cases more with
              | nil => exact ⟨[], behind.symm⟩
              | cons other more =>
                  cases behind
                  have member : byte ∈ later := by
                    rw [inLater]
                    exact List.mem_append_right front List.mem_cons_self
                  have bounds := continuing byte member
                  omega
          rcases behindLater with ⟨front, behind⟩
          rcases induction front behind with ⟨left, right, split, encodedRight⟩
          exact ⟨character :: left, right, congrArg (character :: ·) split, encodedRight⟩

theorem ofText_begins {rest : Word} (part : Text) :
    ∀ whole : Text, ofText whole = ofText part ++ rest → part <+: whole := by
  induction part with
  | nil => exact fun whole _ => List.nil_prefix
  | cons character part induction =>
      intro whole equal
      cases whole with
      | nil =>
          rcases Utf8.encode_shape character with ⟨first, later, encoded, _⟩
          rw [ofText_cons, encoded] at equal
          cases equal
      | cons other whole =>
          rw [ofText_cons, ofText_cons, List.append_assoc] at equal
          rcases Utf8.encode_append_injective equal with ⟨same, behind⟩
          rw [same]
          exact (List.prefix_cons_inj character).mpr (induction whole behind)

theorem ofText_infix_iff (part whole : Text) :
    ofText part <:+: ofText whole ↔ part <:+: whole := by
  constructor
  · rintro ⟨front, behind, equal⟩
    cases part with
    | nil => exact List.nil_infix
    | cons character part =>
        rcases Utf8.encode_leading character with ⟨first, later, encoded, leading⟩
        have arranged : ofText whole =
            front ++ first :: (later ++ (ofText part ++ behind)) := by
          rw [← equal, ofText_cons, encoded]
          simp
        rcases ofText_eq_append leading _ whole front arranged with ⟨left, right, rfl, isRight⟩
        have begins : ofText right = ofText (character :: part) ++ behind := by
          rw [isRight, ofText_cons, encoded]
          simp
        exact (ofText_begins _ right begins).isInfix.trans (List.suffix_append left right).isInfix
  · rintro ⟨left, right, rfl⟩
    exact ⟨ofText left, ofText right, by simp⟩

end Word

/-! ## Texts behind words -/

namespace Utf8

theorem piecesFrom_append {byte : UInt8} (leading : byte.toNat < 0x80 ∨ 0xC0 ≤ byte.toNat)
    (rest word : Word) :
    ∀ pending : Option Pending, Reached pending →
      piecesFrom pending (word ++ byte :: rest) =
        piecesFrom pending word ++ piecesFrom none (byte :: rest) := by
  induction word with
  | nil =>
      intro pending reached
      cases pending with
      | none => rfl
      | some pending =>
          -- What is pending waits for a continuation byte.
          have begun : pending.Begun := reached pending rfl
          have refused : ¬ (pending.low ≤ byte ∧ byte ≤ pending.high) := by
            rintro ⟨low, high⟩
            have least := UInt8.le_iff_toNat_le.mp (UInt8.le_trans begun.low_ge low)
            have greatest := UInt8.le_iff_toNat_le.mp (UInt8.le_trans high begun.high_le)
            change 0x80 ≤ byte.toNat at least
            change byte.toNat ≤ 0xBF at greatest
            omega
          rw [List.nil_append, piecesFrom_cons, step_some_refused refused]
          rfl
  | cons head word induction =>
      intro pending reached
      rw [List.cons_append, piecesFrom_cons, piecesFrom_cons,
        induction _ (step_bytes reached head).2, List.append_assoc]

end Utf8

/-- A text is shown as it is behind any word, also behind one that ends inside a
character. -/
theorem Word.lossy_append (word : Word) (text : Text) :
    lossy (word ++ ofText text) = lossy word ++ text := by
  cases text with
  | nil => rw [ofText_nil, List.append_nil, List.append_nil]
  | cons character rest =>
      rcases Utf8.encode_leading character with ⟨first, later, encoded, leading⟩
      have alone : lossy (ofText (character :: rest)) = character :: rest := lossy_ofText _
      rw [ofText_cons, encoded, List.cons_append] at alone ⊢
      rw [lossy, Utf8.pieces, Utf8.piecesFrom_append leading _ _ none (by simp [Utf8.Reached]),
        List.map_append]
      exact congrArg (lossy word ++ ·) alone

end UploadRunner
