import Mathlib.Data.List.Chain
import UploadRunner.Pipeline.Basic
import UploadRunner.Proofs.Configuration.Texts

/-! Tool chains.

The tools of a pipeline hand files on: the first reads the artifact, and each of the others
reads what the one before it was given to write. No file is written twice, and a
configuration that has been loaded gives every tool the words that it needs. -/

namespace UploadRunner

namespace Step

def readFile? (step : Step) : Option Word :=
  match step.kind with
  | .strip | .convert => step.command.arguments.dropLast.getLast?
  | .upload => step.command.arguments.getLast?

def writtenFile? (step : Step) : Option Word :=
  match step.kind with
  | .strip | .convert => step.command.arguments.getLast?
  | .upload => none

end Step

/-- What stands before the name of a file in the progress of a step, and behind it. -/
def StepKind.frame : StepKind → Text × Text
  | .strip => ("stripping symbols from ".toList, [])
  | .convert => ("converting ".toList, " to binary".toList)
  | .upload => ("uploading ".toList, [])

theorem Step.progress_eq (step : Step) :
    step.progress = step.kind.frame.1 ++ Word.lossy step.input ++ step.kind.frame.2 := by
  rw [Step.progress]
  cases step.kind with
  | strip => exact (List.append_nil _).symm
  | convert => rfl
  | upload => exact (List.append_nil _).symm

namespace Pipeline

/-- Whether steps make a tool chain that brings an artifact onto a device. -/
structure IsToolChain (artifact : Word) (configuration : Configuration) (steps : List Step) :
    Prop where
  kinds : steps.map Step.kind =
    if configuration.stripSymbols = [] then [.convert, .upload] else [.strip, .convert, .upload]
  begins : steps.head?.map Step.input = some artifact
  /-- Each step is for the file that the step before it writes. -/
  linked : steps.IsChain fun earlier later => earlier.writtenFile? = some later.input
  reads : ∀ step ∈ steps, step.readFile? = some step.input
  announced : ∀ step ∈ steps, Word.lossy step.input <:+: step.progress
  writes : steps.filterMap Step.writtenFile? =
    if configuration.stripSymbols = [] then [artifact ++ Word.ofString ".bin"]
    else [artifact ++ Word.ofString ".stripped", artifact ++ Word.ofString ".bin"]
  distinct : (artifact :: steps.filterMap Step.writtenFile?).Nodup
  strips : ∀ step ∈ steps, step.kind = .strip → step.command.arguments =
    configuration.stripSymbols.map (fun symbol => Word.ofString ("--strip-symbol=" ++ symbol)) ++
      [artifact, artifact ++ Word.ofString ".stripped"]
  named : ∀ symbol ∈ configuration.stripSymbols, symbol ≠ ""
  slot : ∀ step ∈ steps, step.kind = .upload → ∃ digit ∈ "12345678".toList,
    digit.toNat = '0'.toNat + configuration.slot.toNat ∧
    step.command.arguments =
      [Word.ofString "upload", Word.ofString "--target", Word.ofString configuration.target,
        Word.ofString "--slot", Word.ofText [digit], artifact ++ Word.ofString ".bin"]
  /-- No word is empty, except for an empty artifact where it is read. -/
  filled : ∀ step ∈ steps, step.command.program ≠ [] ∧
    ∀ argument ∈ step.command.arguments, argument = [] → artifact = [] ∧ step.input = artifact

/-! ## Steps -/

section

variable (artifact : Word) (configuration : Configuration)

theorem mem_steps {step : Step} (member : step ∈ steps artifact configuration) :
    (configuration.stripSymbols.isEmpty = false ∧
        step = ⟨.strip, artifact, stripCommand artifact configuration⟩) ∨
      step = ⟨.convert, convertedFile artifact configuration,
        convertCommand artifact configuration⟩ ∨
      step = ⟨.upload, binaryFile artifact, uploadCommand artifact configuration⟩ := by
  rw [steps, List.mem_append, stripSteps] at member
  rcases member with isStrip | isLater
  · split at isStrip
    · cases isStrip
    case isFalse nonempty =>
      exact Or.inl ⟨Bool.eq_false_iff.mpr nonempty, List.mem_singleton.mp isStrip⟩
  · rw [List.mem_cons, List.mem_singleton] at isLater
    exact Or.inr isLater

theorem steps_of_unstripped (unstripped : configuration.stripSymbols = []) :
    steps artifact configuration =
      [⟨.convert, artifact, convertCommand artifact configuration⟩,
        ⟨.upload, binaryFile artifact, uploadCommand artifact configuration⟩] := by
  rw [steps, stripSteps, convertedFile, unstripped]
  rfl

theorem steps_of_stripped (stripped : configuration.stripSymbols ≠ []) :
    steps artifact configuration =
      [⟨.strip, artifact, stripCommand artifact configuration⟩,
        ⟨.convert, strippedFile artifact, convertCommand artifact configuration⟩,
        ⟨.upload, binaryFile artifact, uploadCommand artifact configuration⟩] := by
  rw [steps, stripSteps, convertedFile, List.isEmpty_eq_false_iff.mpr stripped]
  rfl

/-! ## Files -/

theorem stripCommand_files (input : Word) :
    Step.readFile? ⟨.strip, input, stripCommand artifact configuration⟩ = some artifact ∧
      Step.writtenFile? ⟨.strip, input, stripCommand artifact configuration⟩ =
        some (strippedFile artifact) := by
  have files : (stripCommand artifact configuration).arguments =
      configuration.stripSymbols.map stripArgument ++ [artifact] ++ [strippedFile artifact] := by
    rw [stripCommand, List.append_assoc]
    rfl
  constructor
  · simp only [Step.readFile?, files, List.dropLast_concat, List.getLast?_concat]
  · simp only [Step.writtenFile?, files, List.getLast?_concat]

theorem strippedFile_ne_nil : strippedFile artifact ≠ [] := by
  apply List.append_ne_nil_of_right_ne_nil
  decide

theorem binaryFile_ne_nil : binaryFile artifact ≠ [] := by
  apply List.append_ne_nil_of_right_ne_nil
  decide

theorem written_files : (steps artifact configuration).filterMap Step.writtenFile? =
    if configuration.stripSymbols = [] then [binaryFile artifact]
    else [strippedFile artifact, binaryFile artifact] := by
  by_cases unstripped : configuration.stripSymbols = []
  · rw [if_pos unstripped, steps_of_unstripped artifact configuration unstripped]
    rfl
  · rw [if_neg unstripped, steps_of_stripped artifact configuration unstripped,
      List.filterMap_cons_some (stripCommand_files artifact configuration artifact).2]
    rfl

theorem files_nodup : [artifact, strippedFile artifact, binaryFile artifact].Nodup := by
  have stripped : artifact ≠ strippedFile artifact := by
    intro equal
    exact absurd (List.self_eq_append_right.mp equal) (by decide)
  have binary : artifact ≠ binaryFile artifact := by
    intro equal
    exact absurd (List.self_eq_append_right.mp equal) (by decide)
  have different : strippedFile artifact ≠ binaryFile artifact := by
    intro equal
    exact absurd (List.append_cancel_left equal) (by decide)
  simp [stripped, binary, different]

end

theorem input_infix_progress (step : Step) : Word.lossy step.input <:+: step.progress := by
  rw [Step.progress_eq]
  exact List.infix_append _ _ _

/-! ## Words -/

theorem ofString_ne_nil {string : String} (nonempty : string ≠ "") :
    Word.ofString string ≠ [] := by
  intro empty
  exact nonempty (Word.ofString_injective empty)

theorem stripArgument_eq (symbol : String) :
    stripArgument symbol = Word.ofString ("--strip-symbol=" ++ symbol) :=
  (Word.ofString_append _ _).symm

theorem slotArgument_of_sound {slot : UInt8} (low : 1 ≤ slot.toNat) (high : slot.toNat ≤ 8) :
    ∃ digit ∈ "12345678".toList, digit.toNat = '0'.toNat + slot.toNat ∧
      slotArgument slot = Word.ofText [digit] := by
  have digits : Numeral.digits slot.toNat = [slot.toNat.digitChar] :=
    Nat.toDigits_of_lt_base (by omega)
  have everyDigit : ∀ number < 8, (number + 1).digitChar ∈ "12345678".toList ∧
      (number + 1).digitChar.toNat = '0'.toNat + (number + 1) := by
    decide
  have digit := everyDigit (slot.toNat - 1) (by omega)
  rw [Nat.sub_add_cancel low] at digit
  exact ⟨slot.toNat.digitChar, digit.1, digit.2, by rw [slotArgument, digits]⟩

section

variable {artifact : Word} {configuration : Configuration}

theorem convertedFile_eq_nil (empty : convertedFile artifact configuration = []) :
    artifact = [] ∧ convertedFile artifact configuration = artifact := by
  rw [convertedFile] at empty ⊢
  split at empty
  case isTrue unstripped => exact ⟨empty, if_pos unstripped⟩
  case isFalse => exact absurd empty (strippedFile_ne_nil artifact)

theorem stripCommand_filled :
    ∀ argument ∈ (stripCommand artifact configuration).arguments,
      argument = [] → artifact = [] := by
  intro argument member empty
  rcases List.mem_append.mp member with isSymbol | isFile
  · rcases List.mem_map.mp isSymbol with ⟨symbol, _, rfl⟩
    exact absurd (List.append_eq_nil_iff.mp empty).1 (by decide)
  · rcases List.mem_pair.mp isFile with rfl | rfl
    · exact empty
    · exact absurd empty (strippedFile_ne_nil artifact)

theorem convertCommand_filled (named : configuration.excludedSection ≠ "") :
    ∀ argument ∈ (convertCommand artifact configuration).arguments,
      argument = [] → artifact = [] ∧ convertedFile artifact configuration = artifact := by
  simp only [convertCommand, List.forall_mem_cons]
  refine ⟨?_, ?_, ?_, ?_, convertedFile_eq_nil, ?_, nofun⟩
  · exact fun empty => absurd empty (by decide)
  · exact fun empty => absurd empty (by decide)
  · exact fun empty => absurd empty (by decide)
  · exact fun empty => absurd empty (ofString_ne_nil named)
  · exact fun empty => absurd empty (binaryFile_ne_nil artifact)

theorem uploadCommand_filled (named : configuration.target ≠ "") :
    ∀ argument ∈ (uploadCommand artifact configuration).arguments, argument ≠ [] := by
  simp only [uploadCommand, List.forall_mem_cons]
  have slot : slotArgument configuration.slot ≠ [] := by
    intro empty
    exact Nat.toDigits_ne_nil (Word.ofText_injective empty)
  refine ⟨?_, ?_, ofString_ne_nil named, ?_, slot, binaryFile_ne_nil artifact, nofun⟩
  · decide
  · decide
  · decide

end

theorem steps_isToolChain {read : Word → Except IoFault Word} {path : Word}
    {configuration : Configuration} (loaded : Configuration.load read path = .ok configuration)
    (artifact : Word) : IsToolChain artifact configuration (steps artifact configuration) where
  kinds := by
    by_cases unstripped : configuration.stripSymbols = []
    · rw [if_pos unstripped, steps_of_unstripped artifact configuration unstripped]
      rfl
    · rw [if_neg unstripped, steps_of_stripped artifact configuration unstripped]
      rfl
  begins := by
    by_cases unstripped : configuration.stripSymbols = []
    · rw [steps_of_unstripped artifact configuration unstripped]
      rfl
    · rw [steps_of_stripped artifact configuration unstripped]
      rfl
  linked := by
    by_cases unstripped : configuration.stripSymbols = []
    · rw [steps_of_unstripped artifact configuration unstripped]
      exact List.isChain_pair.mpr rfl
    · rw [steps_of_stripped artifact configuration unstripped, List.isChain_cons_cons]
      exact ⟨(stripCommand_files artifact configuration artifact).2, List.isChain_pair.mpr rfl⟩
  reads := by
    intro step member
    rcases mem_steps artifact configuration member with ⟨_, rfl⟩ | rfl | rfl
    · exact (stripCommand_files artifact configuration artifact).1
    · rfl
    · rfl
  announced := fun step _ => input_infix_progress step
  writes := written_files artifact configuration
  distinct := by
    rw [written_files]
    split
    -- Where nothing is stripped, one name fewer is written.
    · have fewer : [artifact, binaryFile artifact].Sublist
          [artifact, strippedFile artifact, binaryFile artifact] := by simp
      exact List.Nodup.sublist fewer (files_nodup artifact)
    · exact files_nodup artifact
  strips := by
    intro step member isStrip
    rcases mem_steps artifact configuration member with ⟨_, rfl⟩ | rfl | rfl
    · rw [← funext stripArgument_eq]
      rfl
    · cases isStrip
    · cases isStrip
  named := Configuration.sound_of_load loaded .stripSymbols
  slot := by
    intro step member isUpload
    have sound := Configuration.sound_of_load loaded .slot
    rcases mem_steps artifact configuration member with ⟨_, rfl⟩ | rfl | rfl
    · cases isUpload
    · cases isUpload
    · rcases slotArgument_of_sound sound.1 sound.2 with ⟨digit, range, value, argument⟩
      refine ⟨digit, range, value, ?_⟩
      rw [← argument]
      rfl
  filled := by
    intro step member
    have objcopy := ofString_ne_nil (Configuration.sound_of_load loaded .objcopy)
    have uploader := ofString_ne_nil (Configuration.sound_of_load loaded .uploader)
    rcases mem_steps artifact configuration member with ⟨_, rfl⟩ | rfl | rfl
    · exact ⟨objcopy, fun argument given empty =>
        ⟨stripCommand_filled argument given empty, rfl⟩⟩
    · have excluded := Configuration.sound_of_load loaded .excludedSection
      exact ⟨objcopy, convertCommand_filled excluded⟩
    · have target := Configuration.sound_of_load loaded .target
      exact ⟨uploader, fun argument given empty =>
        absurd empty (uploadCommand_filled target argument given)⟩

/-- Symbols may look like options or like files, and the artifact need not be text. -/
theorem misleadingSymbols_isToolChain :
    IsToolChain [0xE2, 0x82]
      { Configuration.standard with stripSymbols := ["--slot", "out.bin"], slot := 8 }
      (steps [0xE2, 0x82]
        { Configuration.standard with stripSymbols := ["--slot", "out.bin"], slot := 8 }) :=
  let content :=
    Word.ofString "\x7b\"strip_symbols\": [\"--slot\", \"out.bin\"], \"slot\": 8\x7d"
  @steps_isToolChain (fun _ => .ok content) [] _ (by decide +kernel) _

end Pipeline

end UploadRunner
