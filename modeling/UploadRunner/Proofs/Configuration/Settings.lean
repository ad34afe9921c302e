import UploadRunner.Configuration.Check
import UploadRunner.Configuration.Decode

/-! Configurations field by field.

A setting is a field with a value. A configuration has one setting of each field, and
overrides hold settings of different fields. -/

namespace UploadRunner.Configuration

inductive Setting
  | objcopy (value : String)
  | uploader (value : String)
  | stripSymbols (values : List String)
  | excludedSection (value : String)
  | target (value : String)
  | slot (value : UInt8)
  deriving DecidableEq, Repr

namespace Setting

def field : Setting → Field
  | .objcopy _ => .objcopy
  | .uploader _ => .uploader
  | .stripSymbols _ => .stripSymbols
  | .excludedSection _ => .excludedSection
  | .target _ => .target
  | .slot _ => .slot

/-- Whether a run accepts the value: no text is empty, and the slot is one of a
device. -/
def IsSound : Setting → Prop
  | .objcopy value | .uploader value | .excludedSection value | .target value => value ≠ ""
  | .stripSymbols values => ∀ value ∈ values, value ≠ ""
  | .slot value => 1 ≤ value.toNat ∧ value.toNat ≤ 8

end Setting

def setting (configuration : Configuration) : Field → Setting
  | .objcopy => .objcopy configuration.objcopy
  | .uploader => .uploader configuration.uploader
  | .stripSymbols => .stripSymbols configuration.stripSymbols
  | .excludedSection => .excludedSection configuration.excludedSection
  | .target => .target configuration.target
  | .slot => .slot configuration.slot

def Overrides.set (overrides : Overrides) : Setting → Overrides
  | .objcopy value => { overrides with objcopy := some value }
  | .uploader value => { overrides with uploader := some value }
  | .stripSymbols values => { overrides with stripSymbols := some values }
  | .excludedSection value => { overrides with excludedSection := some value }
  | .target value => { overrides with target := some value }
  | .slot value => { overrides with slot := some value }

/-! ## Settings of a configuration -/

theorem ext_setting {left right : Configuration}
    (equal : ∀ field, left.setting field = right.setting field) : left = right := by
  cases left
  cases right
  have objcopy := equal .objcopy
  have uploader := equal .uploader
  have stripSymbols := equal .stripSymbols
  have excludedSection := equal .excludedSection
  have target := equal .target
  have slot := equal .slot
  simp only [setting, Setting.objcopy.injEq, Setting.uploader.injEq,
    Setting.stripSymbols.injEq, Setting.excludedSection.injEq, Setting.target.injEq,
    Setting.slot.injEq] at objcopy uploader stripSymbols excludedSection target slot
  simp only [objcopy, uploader, stripSymbols, excludedSection, target, slot]

theorem problem?_eq_none_iff (configuration : Configuration) :
    configuration.problem? = none ↔ ∀ field, (configuration.setting field).IsSound := by
  have everyText : configuration.texts.find? (·.2.isEmpty) = none ↔
      configuration.objcopy ≠ "" ∧ configuration.uploader ≠ "" ∧
        configuration.excludedSection ≠ "" ∧ configuration.target ≠ "" := by
    simp [texts, List.find?_eq_none]
  have everySymbol : configuration.stripSymbols.any (·.isEmpty) = false ↔
      ∀ value ∈ configuration.stripSymbols, value ≠ "" := by
    simp only [List.any_eq_false, String.isEmpty_iff]
  constructor
  · intro accepted field
    unfold problem? at accepted
    split at accepted
    · cases accepted
    rename_i noEmptyText
    split at accepted
    · cases accepted
    rename_i noEmptySymbol
    split at accepted
    · rename_i inRange
      have sound := everyText.mp noEmptyText
      cases field with
      | objcopy => exact sound.1
      | uploader => exact sound.2.1
      | excludedSection => exact sound.2.2.1
      | target => exact sound.2.2.2
      | stripSymbols => exact everySymbol.mp (Bool.eq_false_iff.mpr noEmptySymbol)
      | slot => exact inRange
    · cases accepted
  · intro sound
    have noEmptyText := everyText.mpr
      ⟨sound .objcopy, sound .uploader, sound .excludedSection, sound .target⟩
    have noEmptySymbol := everySymbol.mpr (sound .stripSymbols)
    have inRange : firstSlot ≤ configuration.slot ∧ configuration.slot ≤ lastSlot := sound .slot
    rw [problem?, noEmptyText]
    simp only
    rw [noEmptySymbol, if_neg Bool.false_ne_true, if_pos inRange]

theorem standard_sound (field : Field) : (standard.setting field).IsSound := by
  have accepted : standard.problem? = none := by decide
  exact (problem?_eq_none_iff standard).mp accepted field

/-! ## Settings of overrides -/

theorem setting_override_set (configuration : Configuration) (overrides : Overrides)
    (given : Setting) (field : Field) :
    (configuration.override (overrides.set given)).setting field =
      if field = given.field then given else (configuration.override overrides).setting field := by
  cases given <;> cases field <;> rfl

theorem gives_set (overrides : Overrides) (given : Setting) (field : Field) :
    (overrides.set given).gives field = (field = given.field || overrides.gives field) := by
  cases given <;> cases field <;> rfl

def Overrides.missing (overrides : Overrides) : List Field :=
  Field.all.filter fun field => !overrides.gives field

theorem mem_missing (overrides : Overrides) (field : Field) :
    field ∈ overrides.missing ↔ overrides.gives field = false := by
  simp [Overrides.missing]

theorem missing_set (overrides : Overrides) {given : Setting}
    (fresh : overrides.gives given.field = false) :
    (overrides.set given).missing.length < overrides.missing.length := by
  have fewer : (overrides.set given).missing =
      overrides.missing.filter fun field => !decide (field = given.field) := by
    rw [Overrides.missing, Overrides.missing, List.filter_filter]
    congr 1
    funext field
    rw [gives_set, Bool.not_or]
  rw [fewer, List.length_filter_lt_length_iff_exists]
  exact ⟨given.field, (mem_missing _ _).mpr fresh, by simp⟩

def Overrides.setAll (overrides : Overrides) (settings : List Setting) : Overrides :=
  settings.foldl Overrides.set overrides

def Overrides.LacksAll (overrides : Overrides) (settings : List Setting) : Prop :=
  (settings.map Setting.field).Nodup ∧
    ∀ setting ∈ settings, overrides.gives setting.field = false

theorem lacksAll_empty_iff (settings : List Setting) :
    ({} : Overrides).LacksAll settings ↔ (settings.map Setting.field).Nodup := by
  constructor
  · exact fun lacks => lacks.1
  · intro distinct
    refine ⟨distinct, ?_⟩
    intro setting _
    cases setting <;> rfl

theorem lacksAll_cons_iff (overrides : Overrides) (setting : Setting)
    (settings : List Setting) :
    overrides.LacksAll (setting :: settings) ↔
      overrides.gives setting.field = false ∧ (overrides.set setting).LacksAll settings := by
  simp only [Overrides.LacksAll, List.map_cons, List.nodup_cons, List.forall_mem_cons, gives_set,
    Bool.or_eq_false_iff, decide_eq_false_iff_not, List.mem_map, not_exists, not_and]
  constructor
  · intro lacks
    rcases lacks with ⟨⟨other, distinct⟩, fresh, freshRest⟩
    exact ⟨fresh, distinct, fun next member => ⟨other next member, freshRest next member⟩⟩
  · intro lacks
    rcases lacks with ⟨fresh, distinct, rest⟩
    exact ⟨⟨fun next member => (rest next member).1, distinct⟩, fresh,
      fun next member => (rest next member).2⟩

theorem setting_override_setAll (configuration : Configuration) (settings : List Setting) :
    ∀ overrides : Overrides, (settings.map Setting.field).Nodup →
      (∀ given ∈ settings,
        (configuration.override (overrides.setAll settings)).setting given.field = given) ∧
      ∀ field ∉ settings.map Setting.field,
        (configuration.override (overrides.setAll settings)).setting field =
          (configuration.override overrides).setting field := by
  induction settings with
  | nil =>
      intro overrides _
      refine ⟨?_, fun _ _ => rfl⟩
      intro given member
      cases member
  | cons first settings induction =>
      intro overrides distinct
      rw [List.map_cons, List.nodup_cons] at distinct
      rcases induction (overrides.set first) distinct.2 with ⟨given, kept⟩
      refine ⟨?_, ?_⟩
      · intro setting member
        rcases List.mem_cons.mp member with rfl | later
        · have last := kept setting.field distinct.1
          rw [setting_override_set, if_pos rfl] at last
          exact last
        · exact given setting later
      · intro field absent
        rw [List.map_cons, List.mem_cons, not_or] at absent
        have earlier := kept field absent.2
        rw [setting_override_set, if_neg absent.1] at earlier
        exact earlier

end UploadRunner.Configuration
