import UploadRunner.Configuration.Load
import UploadRunner.Proofs.Configuration.Documents

/-! The texts of configurations.

A configuration is loaded from exactly the spellings of objects of settings that a run
accepts. -/

namespace UploadRunner.Configuration

open Json

def objectLexemes (settings : List Setting) : List Lexeme :=
  .openBrace :: commaList (settings.map Setting.lexemes) ++ [.closeBrace]

/-- A text gives settings to a configuration: it spells an object of them, no field is
given twice, every setting is sound, and all other fields have their standard values. -/
structure Gives (content : Word) (settings : List Setting) (configuration : Configuration) :
    Prop where
  spelled : Spelled (objectLexemes settings) content
  distinct : (settings.map Setting.field).Nodup
  sound : ∀ setting ∈ settings, setting.IsSound
  given : ∀ setting ∈ settings, configuration.setting setting.field = setting
  others : ∀ field ∉ settings.map Setting.field,
    configuration.setting field = standard.setting field

/-! ## Objects of settings -/

theorem readOverrides_eq_ok_iff {tokens : List Token} {overrides : Overrides}
    (notArray : ∀ token ∈ tokens.head?, token.lexeme ≠ .openBracket) :
    readOverrides tokens = .ok overrides ↔
      ∃ settings : List Setting, (settings.map Setting.field).Nodup ∧
        tokens.map Token.lexeme = objectLexemes settings ∧
        ({} : Overrides).setAll settings = overrides := by
  rw [readOverrides_eq_ok_iff_document]
  constructor
  · intro document
    generalize same : tokens.map Token.lexeme = lexemes at document
    cases document with
    | object distinct => exact ⟨_, distinct, rfl, rfl⟩
    | array inOrder =>
        rcases List.map_eq_cons_iff.mp same with ⟨token, _, rfl, isArray, _⟩
        exact absurd isArray (notArray token rfl)
  · intro described
    rcases described with ⟨settings, distinct, same, rfl⟩
    rw [same]
    exact .object distinct

/-! ## Scans -/

theorem head_scan_of_notArray {content : Word}
    (notArray : (content.dropWhile isBlank).head? ≠ some 0x5B) :
    ∀ token ∈ (scan content).head?, token.lexeme ≠ .openBracket := by
  intro token first isArray
  cases content with
  | nil => cases first
  | cons head tail =>
      cases left : (head :: tail).dropWhile isBlank with
      | nil => simp [scan, scanFirst, left] at first
      | cons byte rest =>
          simp only [scan, List.length_cons, scanFirst, left, List.head?_cons,
            Option.mem_some_iff] at first
          rw [← first] at isArray
          have readFirst : readLexeme byte rest = (.openBracket, (readLexeme byte rest).2) :=
            Prod.ext isArray rfl
          rcases readLexeme_inv (by trivial) readFirst with ⟨word, cut, spelling⟩
          cases spelling with
          | mark member =>
              rw [List.singleton_append, List.cons.injEq] at cut
              have isBracket : byte = 0x5B := by
                rw [cut.1]
                simpa [marks] using member
              rw [left, List.head?_cons, isBracket] at notArray
              exact notArray rfl

theorem Setting.scannable {setting : Setting} (sound : setting.IsSound) :
    Scannable setting.lexemes := by
  have named : Scannable [Lexeme.string setting.field.name] := scannable_singleton trivial
  refine named.append trivial ?_
  cases setting with
  | objcopy value | uploader value | excludedSection value | target value =>
      exact scannable_singleton trivial
  | stripSymbols values =>
      refine scannable_nil.append trivial ?_
      refine scannable_closedList ?_ ?_
      · trivial
      intro item member
      rcases List.mem_map.mp member with ⟨value, _, rfl⟩
      exact scannable_singleton trivial
  | slot value =>
      have small : value.toNat < 10 := Nat.lt_of_le_of_lt sound.2 (by decide)
      exact scannable_singleton small

theorem scannable_objectLexemes {settings : List Setting}
    (sound : ∀ setting ∈ settings, setting.IsSound) : Scannable (objectLexemes settings) := by
  refine scannable_nil.append trivial ?_
  refine scannable_closedList ?_ ?_
  · trivial
  intro item member
  rcases List.mem_map.mp member with ⟨setting, given, rfl⟩
  exact Setting.scannable (sound setting given)

/-! ## Files -/

theorem check_eq_ok_iff (configuration checked : Configuration) (change : Fault → Fault) :
    configuration.check.mapError change = .ok checked ↔
      configuration = checked ∧ checked.problem? = none := by
  unfold check
  cases found : configuration.problem? with
  | some problem =>
      simp only [Except.mapError, reduceCtorEq, false_iff, not_and]
      intro same
      rw [← same, found]
      exact Option.some_ne_none problem
  | none =>
      simp only [Except.mapError, Except.ok.injEq, iff_self_and]
      intro same
      rw [← same, found]

theorem load_eq_ok_iff_decode {read : Word → Except IoFault Word} {path content : Word}
    (readable : read path = .ok content) (configuration : Configuration) :
    load read path = .ok configuration ↔
      decode content = .ok configuration ∧ configuration.problem? = none := by
  rw [load, readable]
  simp only
  cases decode content with
  | error diagnosis => simp
  | ok decoded =>
      rw [Except.ok.injEq, check_eq_ok_iff]

theorem sound_of_load {read : Word → Except IoFault Word} {path : Word}
    {configuration : Configuration} (loaded : load read path = .ok configuration)
    (field : Field) : (configuration.setting field).IsSound := by
  cases readable : read path with
  | error fault =>
      rw [load, readable] at loaded
      cases loaded
  | ok content =>
      have accepted := ((load_eq_ok_iff_decode readable configuration).mp loaded).2
      exact (problem?_eq_none_iff configuration).mp accepted field

theorem load_eq_ok_iff_readOverrides {read : Word → Except IoFault Word} {path content : Word}
    {configuration : Configuration} (readable : read path = .ok content) :
    load read path = .ok configuration ↔
      ∃ overrides, readOverrides (scan content) = .ok overrides ∧
        standard.override overrides = configuration ∧ configuration.problem? = none := by
  rw [load_eq_ok_iff_decode readable, decode]
  cases readOverrides (scan content) with
  | error failure => simp
  | ok overrides => simp only [Except.ok.injEq, exists_eq_left']

section

variable {content : Word} {settings : List Setting} {configuration : Configuration}

theorem Gives.override_eq (gives : Gives content settings configuration) :
    standard.override (({} : Overrides).setAll settings) = configuration := by
  rcases setting_override_setAll standard settings {} gives.distinct with ⟨given, others⟩
  apply ext_setting
  intro field
  by_cases isGiven : field ∈ settings.map Setting.field
  · rcases List.mem_map.mp isGiven with ⟨setting, member, rfl⟩
    rw [given setting member, gives.given setting member]
  · rw [others field isGiven, gives.others field isGiven, override_empty]

theorem Gives.accepted (gives : Gives content settings configuration) :
    configuration.problem? = none := by
  rw [problem?_eq_none_iff]
  intro field
  by_cases isGiven : field ∈ settings.map Setting.field
  · rcases List.mem_map.mp isGiven with ⟨setting, member, rfl⟩
    rw [gives.given setting member]
    exact gives.sound setting member
  · rw [gives.others field isGiven]
    exact standard_sound field

end

theorem load_eq_ok_iff {read : Word → Except IoFault Word} {path content : Word}
    (readable : read path = .ok content)
    (notArray : (content.dropWhile isBlank).head? ≠ some 0x5B) (configuration : Configuration) :
    load read path = .ok configuration ↔ ∃ settings, Gives content settings configuration := by
  rw [load_eq_ok_iff_readOverrides readable]
  constructor
  · intro loaded
    rcases loaded with ⟨overrides, readAll, rfl, accepted⟩
    rcases (readOverrides_eq_ok_iff (head_scan_of_notArray notArray)).mp readAll with
      ⟨settings, distinct, scanned, rfl⟩
    rcases setting_override_setAll standard settings {} distinct with ⟨given, others⟩
    rw [override_empty] at others
    -- Only sound settings can be told apart in all their spellings, and a run has checked them.
    have sound : ∀ setting ∈ settings, setting.IsSound := by
      intro setting member
      rw [← given setting member]
      exact (problem?_eq_none_iff _).mp accepted setting.field
    exact ⟨settings, (scan_eq_iff (scannable_objectLexemes sound) content).mp scanned, distinct,
      sound, given, others⟩
  · intro described
    rcases described with ⟨settings, gives⟩
    have scanned := (scan_eq_iff (scannable_objectLexemes gives.sound) content).mpr gives.spelled
    have readAll := (readOverrides_eq_ok_iff (head_scan_of_notArray notArray)).mpr
      ⟨settings, gives.distinct, scanned, rfl⟩
    exact ⟨_, readAll, gives.override_eq, gives.accepted⟩

/-- Names and symbols may be spelled with escapes, and members in any order. -/
theorem load_escaped :
    ∃ settings, Gives
      (Word.ofString " \x7b\"\\u0073lot\" : 8,\r\n\"strip_symbols\":[\"\\ud83E\\uDD16\"]\x7d\n")
      settings { standard with stripSymbols := ["🤖"], slot := 8 } := by
  apply (@load_eq_ok_iff (fun _ => .ok _) [] _ rfl _ _).mp
  · decide +kernel
  · decide +kernel

end UploadRunner.Configuration
