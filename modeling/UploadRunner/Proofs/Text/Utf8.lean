import Mathlib.Algebra.Group.Nat.Defs
import UploadRunner.Text.Utf8

/-! Decoding and encoding undo each other.

A pending character admits the values that its bytes can still become. Each byte
that it takes narrows them down, and the encoding of every value that is left begins
with the bytes read so far. -/

namespace UploadRunner

namespace Utf8

/-! ## Continuation bytes -/

def continuationByte (value count : Nat) : UInt8 :=
  UInt8.ofNat (0x80 + value / 64 ^ count % 64)

def continuation (value : Nat) : Nat → Word
  | 0 => []
  | count + 1 => continuationByte value count :: continuation value count

theorem continuationByte_toNat (value count : Nat) :
    (continuationByte value count).toNat = 0x80 + value / 64 ^ count % 64 := by
  rw [continuationByte, UInt8.toNat_ofNat']
  have digitBound : value / 64 ^ count % 64 < 64 := Nat.mod_lt _ (by decide)
  omega

theorem continuation_bounds (value count : Nat) :
    ∀ byte ∈ continuation value count, 0x80 ≤ byte.toNat ∧ byte.toNat < 0xC0 := by
  induction count with
  | zero =>
      intro byte member
      cases member
  | succ count induction =>
      intro byte member
      rcases List.mem_cons.mp member with first | later
      · rw [first, continuationByte_toNat]
        omega
      · exact induction byte later

theorem continuationByte_eq_of_div {value count higher : Nat} {byte : UInt8}
    (lower : 0x80 ≤ byte.toNat) (upper : byte.toNat ≤ 0xBF)
    (quotient : value / 64 ^ count = higher * 64 + (byte.toNat - 0x80)) :
    continuationByte value count = byte := by
  apply UInt8.toNat_inj.mp
  rw [continuationByte_toNat, quotient]
  omega

theorem quotient_succ (value count : Nat) :
    value / 64 ^ (count + 1) = value / 64 ^ count / 64 := by
  rw [Nat.pow_succ, Nat.div_div_eq_div_mul]

/-! ## Pending characters -/

/-- A value that a pending character can still become. -/
def Pending.Admits (pending : Pending) (value : Nat) : Prop :=
  value / 64 ^ (pending.remaining + 1) = pending.value ∧
    pending.low ≤ continuationByte value pending.remaining ∧
    continuationByte value pending.remaining ≤ pending.high

/-- A pending character whose bytes begin the encoding of all that it admits. -/
structure Pending.Begun (pending : Pending) : Prop where
  low_ge : 0x80 ≤ pending.low
  high_le : pending.high ≤ 0xBF
  encodes : ∀ value, pending.Admits value →
    String.utf8EncodeChar (Char.ofNat value) =
      pending.bytes ++ continuation value (pending.remaining + 1)

def Pending.next (pending : Pending) (byte : UInt8) (remaining : Nat) : Pending :=
  ⟨pending.bytes ++ [byte], pending.value * 64 + (byte.toNat - 0x80), remaining, 0x80, 0xBF⟩

theorem step_some_refused {pending : Pending} {byte : UInt8}
    (refused : ¬ (pending.low ≤ byte ∧ byte ≤ pending.high)) :
    step (some pending) byte = (.illFormed pending.bytes :: (enter byte).1, (enter byte).2) := by
  simp only [step, if_neg refused]

theorem step_some_last {pending : Pending} {byte : UInt8}
    (taken : pending.low ≤ byte ∧ byte ≤ pending.high) (last : pending.remaining = 0) :
    step (some pending) byte =
      ([.character (Char.ofNat (pending.value * 64 + (byte.toNat - 0x80)))], none) := by
  simp only [step, if_pos taken, last]

theorem step_some_next {pending : Pending} {byte : UInt8} {remaining : Nat}
    (taken : pending.low ≤ byte ∧ byte ≤ pending.high)
    (more : pending.remaining = remaining + 1) :
    step (some pending) byte = ([], some (pending.next byte remaining)) := by
  simp only [step, if_pos taken, more, Pending.next]

theorem Pending.Begun.admits_of_next {pending : Pending} (begun : pending.Begun)
    {byte : UInt8} {remaining value : Nat}
    (taken : pending.low ≤ byte ∧ byte ≤ pending.high)
    (more : pending.remaining = remaining + 1)
    (admitted : (pending.next byte remaining).Admits value) :
    pending.Admits value ∧ continuationByte value (remaining + 1) = byte := by
  have lower : 0x80 ≤ byte.toNat :=
    UInt8.le_iff_toNat_le.mp (UInt8.le_trans begun.low_ge taken.1)
  have upper : byte.toNat ≤ 0xBF :=
    UInt8.le_iff_toNat_le.mp (UInt8.le_trans taken.2 begun.high_le)
  have quotient : value / 64 ^ (remaining + 1) =
      pending.value * 64 + (byte.toNat - 0x80) := admitted.1
  have same : continuationByte value (remaining + 1) = byte :=
    continuationByte_eq_of_div lower upper quotient
  refine ⟨⟨?_, ?_⟩, same⟩
  · rw [more, quotient_succ, quotient]
    omega
  · rw [more, same]
    exact taken

theorem Pending.Begun.next {pending : Pending} (begun : pending.Begun)
    {byte : UInt8} {remaining : Nat}
    (taken : pending.low ≤ byte ∧ byte ≤ pending.high)
    (more : pending.remaining = remaining + 1) :
    (pending.next byte remaining).Begun where
  low_ge := UInt8.le_refl _
  high_le := UInt8.le_refl _
  encodes := by
    intro value admitted
    rcases begun.admits_of_next taken more admitted with ⟨earlier, same⟩
    rw [begun.encodes value earlier, more]
    simp only [continuation, same, Pending.next, List.append_assoc, List.cons_append,
      List.nil_append]

theorem Pending.Begun.completed {pending : Pending} (begun : pending.Begun)
    {byte : UInt8} (taken : pending.low ≤ byte ∧ byte ≤ pending.high)
    (last : pending.remaining = 0) :
    String.utf8EncodeChar (Char.ofNat (pending.value * 64 + (byte.toNat - 0x80))) =
      pending.bytes ++ [byte] := by
  have lower : 0x80 ≤ byte.toNat :=
    UInt8.le_iff_toNat_le.mp (UInt8.le_trans begun.low_ge taken.1)
  have upper : byte.toNat ≤ 0xBF :=
    UInt8.le_iff_toNat_le.mp (UInt8.le_trans taken.2 begun.high_le)
  have same : continuationByte (pending.value * 64 + (byte.toNat - 0x80)) 0 = byte :=
    continuationByte_eq_of_div lower upper (by rw [Nat.pow_zero, Nat.div_one])
  have admitted : pending.Admits (pending.value * 64 + (byte.toNat - 0x80)) := by
    refine ⟨?_, ?_⟩
    · rw [last]
      omega
    · rw [last, same]
      exact taken
  rw [begun.encodes _ admitted, last]
  simp only [continuation, same]

/-! ## First bytes -/

theorem toNat_ofNat_char {value : Nat} (valid : value.isValidChar) :
    (Char.ofNat value).toNat = value := by
  rw [Char.ofNat, dif_pos valid]
  rfl

theorem encode_one {character : Char} (upper : character.toNat < 0x80) :
    String.utf8EncodeChar character = [UInt8.ofNat character.toNat] := by
  change character.val.toNat < 0x80 at upper
  simp only [String.utf8EncodeChar]
  rw [if_pos (by omega)]
  rfl

theorem encode_two {character : Char} (lower : 0x80 ≤ character.toNat)
    (upper : character.toNat < 0x800) :
    String.utf8EncodeChar character =
      UInt8.ofNat (0xC0 + character.toNat / 64) :: continuation character.toNat 1 := by
  change 0x80 ≤ character.val.toNat at lower
  change character.val.toNat < 0x800 at upper
  simp only [String.utf8EncodeChar, Char.toNat]
  rw [if_neg (by omega), if_pos (by omega)]
  have high : character.val.toNat / 64 % 0x20 + 0xC0 = 0xC0 + character.val.toNat / 64 := by
    omega
  simp only [continuation, continuationByte, high, Nat.pow_zero, Nat.div_one, Nat.add_comm]

theorem encode_three {character : Char} (lower : 0x800 ≤ character.toNat)
    (upper : character.toNat < 0x10000) :
    String.utf8EncodeChar character =
      UInt8.ofNat (0xE0 + character.toNat / 4096) :: continuation character.toNat 2 := by
  change 0x800 ≤ character.val.toNat at lower
  change character.val.toNat < 0x10000 at upper
  simp only [String.utf8EncodeChar, Char.toNat]
  rw [if_neg (by omega), if_neg (by omega), if_pos (by omega)]
  have high : character.val.toNat / 4096 % 0x10 + 0xE0 =
      0xE0 + character.val.toNat / 4096 := by
    omega
  simp only [continuation, continuationByte, high, Nat.pow_zero, Nat.pow_one, Nat.div_one,
    Nat.add_comm]

theorem encode_four {character : Char} (lower : 0x10000 ≤ character.toNat) :
    String.utf8EncodeChar character =
      UInt8.ofNat (0xF0 + character.toNat / 262144) :: continuation character.toNat 3 := by
  change 0x10000 ≤ character.val.toNat at lower
  have valid : character.val.toNat.isValidChar := character.valid
  have upper : character.val.toNat < 0x110000 := by
    rcases valid with low | ⟨_, high⟩ <;> omega
  simp only [String.utf8EncodeChar, Char.toNat]
  rw [if_neg (by omega), if_neg (by omega), if_neg (by omega)]
  have high : character.val.toNat / 262144 % 0x08 + 0xF0 =
      0xF0 + character.val.toNat / 262144 := by
    omega
  simp only [continuation, continuationByte, high, Nat.reducePow, Nat.pow_zero, Nat.pow_one,
    Nat.div_one, Nat.add_comm]

/-- An encoded character is one byte below `80`, or a byte from `C0` on and continuation
bytes. -/
theorem encode_shape (character : Char) :
    ∃ first later, String.utf8EncodeChar character = first :: later ∧
      (∀ byte ∈ later, 0x80 ≤ byte.toNat ∧ byte.toNat < 0xC0) ∧
      (character.toNat < 0x80 ∧ first.toNat = character.toNat ∧ later = [] ∨
        0x80 ≤ character.toNat ∧ 0xC0 ≤ first.toNat) := by
  have valid : character.toNat < 0xD800 ∨ 0xDFFF < character.toNat ∧ character.toNat < 0x110000 :=
    character.valid
  by_cases one : character.toNat < 0x80
  · refine ⟨_, _, encode_one one, by simp, Or.inl ⟨one, ?_, rfl⟩⟩
    rw [UInt8.toNat_ofNat']
    omega
  by_cases two : character.toNat < 0x800
  · refine ⟨_, _, encode_two (by omega) two, continuation_bounds _ _, Or.inr ⟨by omega, ?_⟩⟩
    rw [UInt8.toNat_ofNat']
    omega
  by_cases three : character.toNat < 0x10000
  · refine ⟨_, _, encode_three (by omega) three, continuation_bounds _ _, Or.inr ⟨by omega, ?_⟩⟩
    rw [UInt8.toNat_ofNat']
    omega
  · refine ⟨_, _, encode_four (by omega), continuation_bounds _ _, Or.inr ⟨by omega, ?_⟩⟩
    rw [UInt8.toNat_ofNat']
    omega

theorem ofNat_eq_byte (byte : UInt8) {value : Nat} (equal : byte.toNat = value) :
    UInt8.ofNat value = byte := by
  rw [← equal, UInt8.ofNat_toNat]

theorem begun_two {byte : UInt8} (lower : 0xC2 ≤ byte.toNat) (upper : byte.toNat < 0xE0) :
    (Pending.mk [byte] (byte.toNat - 0xC0) 0 0x80 0xBF).Begun where
  low_ge := UInt8.le_refl _
  high_le := UInt8.le_refl _
  encodes := by
    intro value admitted
    have quotient : value / 64 = byte.toNat - 0xC0 := admitted.1
    have same : (Char.ofNat value).toNat = value :=
      toNat_ofNat_char (Or.inl (by omega))
    rw [encode_two (by omega) (by omega), same, ofNat_eq_byte byte (by omega)]
    rfl

/-- What is pending behind the first byte of three: the second one rules out values
that two bytes encode, and surrogates. -/
theorem begun_three {byte : UInt8} (lower : 0xE0 ≤ byte.toNat) (upper : byte.toNat < 0xF0) :
    (Pending.mk [byte] (byte.toNat - 0xE0) 1
      (if byte = 0xE0 then 0xA0 else 0x80) (if byte = 0xED then 0x9F else 0xBF)).Begun where
  low_ge := by
    change 0x80 ≤ if byte = 0xE0 then (0xA0 : UInt8) else 0x80
    split <;> decide
  high_le := by
    change (if byte = 0xED then (0x9F : UInt8) else 0xBF) ≤ 0xBF
    split <;> decide
  encodes := by
    intro value admitted
    rcases admitted with ⟨quotient, low, high⟩
    simp only [UInt8.le_iff_toNat_le, continuationByte_toNat] at quotient low high
    have least : byte.toNat = 0xE0 → 0xA0 ≤ 0x80 + value / 64 % 64 := by
      intro equal
      rw [if_pos (UInt8.toNat_inj.mp equal)] at low
      exact low
    have greatest : byte.toNat = 0xED → 0x80 + value / 64 % 64 ≤ 0x9F := by
      intro equal
      rw [if_pos (UInt8.toNat_inj.mp equal)] at high
      exact high
    have valid : value.isValidChar := by
      unfold Nat.isValidChar
      omega
    have same : (Char.ofNat value).toNat = value := toNat_ofNat_char valid
    rw [encode_three (by omega) (by omega), same, ofNat_eq_byte byte (by omega)]
    rfl

/-- What is pending behind the first byte of four: the second one rules out values
that three bytes encode, and values above the greatest. -/
theorem begun_four {byte : UInt8} (lower : 0xF0 ≤ byte.toNat) (upper : byte.toNat < 0xF5) :
    (Pending.mk [byte] (byte.toNat - 0xF0) 2
      (if byte = 0xF0 then 0x90 else 0x80) (if byte = 0xF4 then 0x8F else 0xBF)).Begun where
  low_ge := by
    change 0x80 ≤ if byte = 0xF0 then (0x90 : UInt8) else 0x80
    split <;> decide
  high_le := by
    change (if byte = 0xF4 then (0x8F : UInt8) else 0xBF) ≤ 0xBF
    split <;> decide
  encodes := by
    intro value admitted
    rcases admitted with ⟨quotient, low, high⟩
    simp only [UInt8.le_iff_toNat_le, continuationByte_toNat] at quotient low high
    have least : byte.toNat = 0xF0 → 0x90 ≤ 0x80 + value / 4096 % 64 := by
      intro equal
      rw [if_pos (UInt8.toNat_inj.mp equal)] at low
      exact low
    have greatest : byte.toNat = 0xF4 → 0x80 + value / 4096 % 64 ≤ 0x8F := by
      intro equal
      rw [if_pos (UInt8.toNat_inj.mp equal)] at high
      exact high
    have valid : value.isValidChar := by
      unfold Nat.isValidChar
      omega
    have same : (Char.ofNat value).toNat = value := toNat_ofNat_char valid
    rw [encode_four (by omega), same, ofNat_eq_byte byte (by omega)]
    rfl

theorem enter_cases (byte : UInt8) :
    (∃ piece, enter byte = ([piece], none) ∧ piece.bytes = [byte]) ∨
      ∃ pending, enter byte = ([], some pending) ∧ pending.bytes = [byte] ∧ pending.Begun := by
  unfold enter
  simp only [UInt8.lt_iff_toNat_lt, UInt8.reduceToNat]
  split
  case isTrue ascii =>
    have same : (Char.ofNat byte.toNat).toNat = byte.toNat := toNat_ofNat_char (Or.inl (by omega))
    refine Or.inl ⟨_, rfl, ?_⟩
    rw [Piece.bytes, encode_one (by omega), same, UInt8.ofNat_toNat]
  split
  · exact Or.inl ⟨_, rfl, rfl⟩
  split
  · exact Or.inr ⟨_, rfl, rfl, begun_two (by omega) (by omega)⟩
  split
  · exact Or.inr ⟨_, rfl, rfl, begun_three (by omega) (by omega)⟩
  split
  · exact Or.inr ⟨_, rfl, rfl, begun_four (by omega) (by omega)⟩
  · exact Or.inl ⟨_, rfl, rfl⟩

theorem enter_two {byte : UInt8} (lower : 0xC2 ≤ byte.toNat) (upper : byte.toNat < 0xE0) :
    enter byte = ([], some ⟨[byte], byte.toNat - 0xC0, 0, 0x80, 0xBF⟩) := by
  unfold enter
  simp only [UInt8.lt_iff_toNat_lt, UInt8.reduceToNat]
  rw [if_neg (by omega), if_neg (by omega), if_pos (by omega)]

theorem enter_three {byte : UInt8} (lower : 0xE0 ≤ byte.toNat) (upper : byte.toNat < 0xF0) :
    enter byte = ([], some ⟨[byte], byte.toNat - 0xE0, 1,
      if byte = 0xE0 then 0xA0 else 0x80, if byte = 0xED then 0x9F else 0xBF⟩) := by
  unfold enter
  simp only [UInt8.lt_iff_toNat_lt, UInt8.reduceToNat]
  rw [if_neg (by omega), if_neg (by omega), if_neg (by omega), if_pos (by omega)]

theorem enter_four {byte : UInt8} (lower : 0xF0 ≤ byte.toNat) (upper : byte.toNat < 0xF5) :
    enter byte = ([], some ⟨[byte], byte.toNat - 0xF0, 2,
      if byte = 0xF0 then 0x90 else 0x80, if byte = 0xF4 then 0x8F else 0xBF⟩) := by
  unfold enter
  simp only [UInt8.lt_iff_toNat_lt, UInt8.reduceToNat]
  rw [if_neg (by omega), if_neg (by omega), if_neg (by omega), if_neg (by omega),
    if_pos (by omega)]

theorem enter_first {character : Char} (long : 0x80 ≤ character.toNat) :
    ∃ byte pending, enter byte = ([], some pending) ∧ pending.Admits character.toNat ∧
      String.utf8EncodeChar character =
        byte :: continuation character.toNat (pending.remaining + 1) := by
  have valid : character.toNat < 0xD800 ∨ 0xDFFF < character.toNat ∧ character.toNat < 0x110000 :=
    character.valid
  -- An encoding of two, three or four bytes.
  by_cases two : character.toNat < 0x800
  · have first : (UInt8.ofNat (0xC0 + character.toNat / 64)).toNat =
        0xC0 + character.toNat / 64 := by
      rw [UInt8.toNat_ofNat']
      omega
    refine ⟨_, _, enter_two (by omega) (by omega), ⟨?_, ?_⟩, encode_two long two⟩
    · rw [first]
      simp
    · simp only [UInt8.le_iff_toNat_le, continuationByte_toNat, UInt8.reduceToNat]
      omega
  by_cases three : character.toNat < 0x10000
  · have first : (UInt8.ofNat (0xE0 + character.toNat / 4096)).toNat =
        0xE0 + character.toNat / 4096 := by
      rw [UInt8.toNat_ofNat']
      omega
    refine ⟨_, _, enter_three (by omega) (by omega), ⟨?_, ?_⟩, encode_three (by omega) three⟩
    · rw [first]
      simp
    · simp only [UInt8.le_iff_toNat_le, continuationByte_toNat, ← UInt8.toNat_inj, first,
        UInt8.reduceToNat]
      split <;> split <;> simp only [UInt8.reduceToNat] <;> omega
  · have first : (UInt8.ofNat (0xF0 + character.toNat / 262144)).toNat =
        0xF0 + character.toNat / 262144 := by
      rw [UInt8.toNat_ofNat']
      omega
    refine ⟨_, _, enter_four (by omega) (by omega), ⟨?_, ?_⟩, encode_four (by omega)⟩
    · rw [first]
      simp
    · simp only [UInt8.le_iff_toNat_le, continuationByte_toNat, ← UInt8.toNat_inj, first,
        UInt8.reduceToNat]
      split <;> split <;> simp only [UInt8.reduceToNat] <;> omega

/-! ## Words -/

def pendingBytes (pending : Option Pending) : Word :=
  (pending.map Pending.bytes).getD []

def Reached (pending : Option Pending) : Prop :=
  ∀ begun ∈ pending, begun.Begun

theorem piecesFrom_cons (pending : Option Pending) (byte : UInt8) (rest : Word) :
    piecesFrom pending (byte :: rest) =
      (step pending byte).1 ++ piecesFrom (step pending byte).2 rest := rfl

theorem enter_bytes (byte : UInt8) :
    (enter byte).1.flatMap Piece.bytes ++ pendingBytes (enter byte).2 = [byte] ∧
      Reached (enter byte).2 := by
  rcases enter_cases byte with ⟨piece, entered, bytes⟩ | ⟨pending, entered, bytes, begun⟩
  · rw [entered]
    exact ⟨by simp [pendingBytes, bytes], by simp [Reached]⟩
  · rw [entered]
    exact ⟨by simp [pendingBytes, bytes], by simpa [Reached] using begun⟩

/-- Reading a byte neither loses bytes nor makes any up. -/
theorem step_bytes {pending : Option Pending} (reached : Reached pending) (byte : UInt8) :
    (step pending byte).1.flatMap Piece.bytes ++ pendingBytes (step pending byte).2 =
        pendingBytes pending ++ [byte] ∧
      Reached (step pending byte).2 := by
  cases pending with
  | none => exact enter_bytes byte
  | some pending =>
      have begun : pending.Begun := reached pending rfl
      by_cases taken : pending.low ≤ byte ∧ byte ≤ pending.high
      · cases left : pending.remaining with
        | zero =>
            rw [step_some_last taken left]
            exact ⟨by simp [pendingBytes, Piece.bytes, begun.completed taken left],
              by simp [Reached]⟩
        | succ remaining =>
            rw [step_some_next taken left]
            exact ⟨by simp [pendingBytes, Pending.next],
              by simpa [Reached] using begun.next taken left⟩
      · rw [step_some_refused taken]
        rcases enter_bytes byte with ⟨bytes, reached⟩
        exact ⟨by simp [pendingBytes, Piece.bytes, ← bytes], reached⟩

theorem piecesFrom_bytes (word : Word) :
    ∀ pending : Option Pending, Reached pending →
      (piecesFrom pending word).flatMap Piece.bytes = pendingBytes pending ++ word := by
  induction word with
  | nil =>
      intro pending _
      cases pending <;> simp [piecesFrom, pendingBytes, Piece.bytes]
  | cons byte rest induction =>
      intro pending reached
      rcases step_bytes reached byte with ⟨bytes, stillReached⟩
      rw [piecesFrom_cons, List.flatMap_append, induction _ stillReached, ← List.append_assoc,
        bytes, List.append_assoc, List.singleton_append]

theorem pieces_bytes (word : Word) : (pieces word).flatMap Piece.bytes = word :=
  piecesFrom_bytes word none (by simp [Reached])

theorem piecesFrom_continuation (value : Nat) (rest : Word) (remaining : Nat) :
    ∀ pending : Pending, pending.remaining = remaining → pending.Admits value →
      piecesFrom (some pending) (continuation value (remaining + 1) ++ rest) =
        .character (Char.ofNat value) :: piecesFrom none rest := by
  -- Behind each byte the pending character still admits the value; the last byte completes it.
  induction remaining with
  | zero =>
      intro pending last admitted
      rcases admitted with ⟨quotient, taken⟩
      rw [last] at quotient taken
      have complete : pending.value * 64 + ((continuationByte value 0).toNat - 0x80) = value := by
        rw [continuationByte_toNat, ← quotient]
        omega
      rw [continuation, List.cons_append, piecesFrom_cons, step_some_last taken last, complete]
      rfl
  | succ remaining induction =>
      intro pending more admitted
      rcases admitted with ⟨quotient, taken⟩
      rw [more] at quotient taken
      have admittedNext :
          (pending.next (continuationByte value (remaining + 1)) remaining).Admits value := by
        refine ⟨?_, ?_⟩
        · simp only [Pending.next, continuationByte_toNat, ← quotient]
          rw [quotient_succ value (remaining + 1)]
          omega
        · simp only [Pending.next, UInt8.le_iff_toNat_le, continuationByte_toNat,
            UInt8.reduceToNat]
          omega
      rw [continuation, List.cons_append, piecesFrom_cons, step_some_next taken more]
      exact induction _ rfl admittedNext

theorem piecesFrom_encoded (character : Char) (rest : Word) :
    piecesFrom none (String.utf8EncodeChar character ++ rest) =
      .character character :: piecesFrom none rest := by
  by_cases long : 0x80 ≤ character.toNat
  · rcases enter_first long with ⟨byte, pending, entered, admitted, encoded⟩
    have completed := piecesFrom_continuation character.toNat rest pending.remaining pending
      rfl admitted
    rw [encoded, List.cons_append, piecesFrom_cons, step, entered, List.nil_append, completed,
      Char.ofNat_toNat]
  · have first : (UInt8.ofNat character.toNat).toNat = character.toNat := by
      rw [UInt8.toNat_ofNat']
      omega
    have ascii : UInt8.ofNat character.toNat < 0x80 := by
      rw [UInt8.lt_iff_toNat_lt, first]
      change character.toNat < 0x80
      omega
    rw [encode_one (by omega), List.singleton_append, piecesFrom_cons, step, enter,
      if_pos ascii, first, Char.ofNat_toNat]
    rfl

/-- No encoded character begins another one. -/
theorem encode_append_injective {left right : Char} {leftRest rightRest : Word}
    (equal : String.utf8EncodeChar left ++ leftRest = String.utf8EncodeChar right ++ rightRest) :
    left = right ∧ leftRest = rightRest := by
  have samePieces := piecesFrom_encoded left leftRest
  rw [equal, piecesFrom_encoded, List.cons.injEq, Piece.character.injEq] at samePieces
  have same : left = right := samePieces.1.symm
  rw [same] at equal
  exact ⟨same, List.append_cancel_left equal⟩

theorem pieces_ofText (text : Text) :
    pieces (Word.ofText text) = text.map Piece.character := by
  induction text with
  | nil => rfl
  | cons character rest induction =>
      rw [List.map_cons, ← induction]
      exact piecesFrom_encoded character (Word.ofText rest)

theorem mapM_character?_eq_some_iff (pieces : List Piece) (text : Text) :
    pieces.mapM Piece.character? = some text ↔ pieces = text.map Piece.character := by
  induction pieces generalizing text with
  | nil => cases text <;> simp
  | cons piece rest induction =>
      cases piece with
      | character value =>
          cases text with
          | nil => simp [Piece.character?, Option.bind_eq_some_iff]
          | cons character text =>
              simp [Piece.character?, Option.bind_eq_some_iff, induction]
              grind
      | illFormed bytes => cases text <;> simp [Piece.character?]

end Utf8

/-! ## Decoded text -/

namespace Word

theorem text?_eq_some_iff (word : Word) (text : Text) :
    text? word = some text ↔ word = ofText text := by
  rw [text?, Utf8.mapM_character?_eq_some_iff]
  constructor
  · intro characters
    rw [← Utf8.pieces_bytes word, characters, List.flatMap_map]
    rfl
  · intro encoded
    rw [encoded, Utf8.pieces_ofText]

@[simp] theorem lossy_ofText (text : Text) : lossy (ofText text) = text := by
  rw [lossy, Utf8.pieces_ofText, List.map_map]
  exact List.map_id text

theorem ofText_injective : Function.Injective ofText := by
  intro left right equal
  rw [← lossy_ofText left, equal, lossy_ofText]

theorem ofString_injective : Function.Injective ofString := by
  intro left right equal
  have sameText : left.toList = right.toList := ofText_injective equal
  exact String.toList_inj.mp sameText

end Word

end UploadRunner
