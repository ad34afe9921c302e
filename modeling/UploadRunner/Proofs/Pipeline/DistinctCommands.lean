import UploadRunner.Pipeline.Basic
import UploadRunner.Proofs.Text.Utf8

/-! What the commands of a pipeline tell.

Each command tells some of the settings: the last words of a list of arguments stand at
fixed distances from its end, so that no symbol can be taken for a file. Two pipelines with
the same commands are for the same artifact and for the same configuration. -/

namespace UploadRunner

/-! ## Arguments -/

theorem Numeral.digits_injective : Function.Injective Numeral.digits := by
  intro left right equal
  calc
    left = Nat.ofDigitChars 10 (Nat.toDigits 10 left) 0 := Nat.ofDigitChars_ten_toDigits.symm
    _ = Nat.ofDigitChars 10 (Nat.toDigits 10 right) 0 := congrArg (Nat.ofDigitChars 10 · 0) equal
    _ = right := Nat.ofDigitChars_ten_toDigits

namespace Pipeline

theorem stripArgument_injective : Function.Injective stripArgument := by
  intro left right equal
  apply Word.ofString_injective
  exact List.append_cancel_left equal

theorem slotArgument_injective : Function.Injective slotArgument := by
  intro left right equal
  have sameDigits := Word.ofText_injective equal
  exact UInt8.toNat_inj.mp (Numeral.digits_injective sameDigits)

theorem binaryFile_injective : Function.Injective binaryFile := by
  intro left right equal
  exact List.append_cancel_right equal

/-! ## Commands -/

section

variable {artifact other : Word} {configuration otherConfiguration : Configuration}

/-- However many symbols are stripped, the two files are the last two arguments. -/
theorem stripCommand_tells
    (equal : stripCommand artifact configuration = stripCommand other otherConfiguration) :
    configuration.stripSymbols = otherConfiguration.stripSymbols := by
  have sameArguments := congrArg Command.arguments equal
  have parts := List.append_inj' sameArguments rfl
  exact (List.map_inj_right fun _ _ same => stripArgument_injective same).mp parts.1

theorem stripSteps_tell
    (equal : (stripSteps artifact configuration).map Step.command =
      (stripSteps other otherConfiguration).map Step.command) :
    configuration.stripSymbols = otherConfiguration.stripSymbols := by
  rw [stripSteps, stripSteps] at equal
  cases empty : configuration.stripSymbols.isEmpty <;>
    cases otherEmpty : otherConfiguration.stripSymbols.isEmpty <;>
    rw [empty, otherEmpty] at equal
  case false.false => exact stripCommand_tells (List.cons.inj equal).1
  case false.true => cases equal
  case true.false => cases equal
  case true.true => rw [List.isEmpty_iff.mp empty, List.isEmpty_iff.mp otherEmpty]

theorem convertCommand_tells
    (equal : convertCommand artifact configuration = convertCommand other otherConfiguration) :
    configuration.objcopy = otherConfiguration.objcopy ∧
      configuration.excludedSection = otherConfiguration.excludedSection ∧ artifact = other := by
  have sameProgram := congrArg Command.program equal
  have sameArguments := congrArg Command.arguments equal
  simp only [convertCommand, List.cons.injEq, and_true, true_and] at sameProgram sameArguments
  rcases sameArguments with ⟨sameSection, _, sameFile⟩
  exact ⟨Word.ofString_injective sameProgram, Word.ofString_injective sameSection,
    binaryFile_injective sameFile⟩

theorem uploadCommand_tells
    (equal : uploadCommand artifact configuration = uploadCommand other otherConfiguration) :
    configuration.uploader = otherConfiguration.uploader ∧
      configuration.target = otherConfiguration.target ∧
      configuration.slot = otherConfiguration.slot := by
  have sameProgram := congrArg Command.program equal
  have sameArguments := congrArg Command.arguments equal
  simp only [uploadCommand, List.cons.injEq, and_true, true_and] at sameProgram sameArguments
  rcases sameArguments with ⟨sameTarget, sameSlot, _⟩
  exact ⟨Word.ofString_injective sameProgram, Word.ofString_injective sameTarget,
    slotArgument_injective sameSlot⟩

end

theorem commands_eq_iff (artifact other : Word)
    (configuration otherConfiguration : Configuration) :
    (steps artifact configuration).map Step.command =
        (steps other otherConfiguration).map Step.command ↔
      artifact = other ∧ configuration = otherConfiguration := by
  constructor
  · intro equal
    rw [steps, steps, List.map_append, List.map_append] at equal
    -- The last two commands are those that convert and upload, whatever comes before them.
    have parts := List.append_inj' equal rfl
    have symbols := stripSteps_tell parts.1
    have later := parts.2
    simp only [List.map_cons, List.map_nil, List.cons.injEq, and_true] at later
    rcases convertCommand_tells later.1 with ⟨objcopy, excludedSection, sameArtifact⟩
    rcases uploadCommand_tells later.2 with ⟨uploader, target, slot⟩
    refine ⟨sameArtifact, ?_⟩
    cases configuration
    cases otherConfiguration
    simp only [Configuration.mk.injEq]
    exact ⟨objcopy, uploader, symbols, excludedSection, target, slot⟩
  · intro same
    rw [same.1, same.2]

end Pipeline

end UploadRunner
