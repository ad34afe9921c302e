import UploadRunner.Proofs.Pipeline.QuietRuns

/-! Names of derived files.

The files of a pipeline are called like the artifact, with suffixes behind its name. A suffix
is shown as it is, however the name ends: what is shown of a file is what is shown of the
artifact, with the suffix behind it. The tools are given the bytes of the name instead. -/

namespace UploadRunner

/-! ## Words of a step -/

namespace Pipeline

/-- What stands behind the name of the artifact in the names of the files that the command of
a step is given, the file that it reads first. -/
def suffixes (configuration : Configuration) : StepKind → List String
  | .strip => ["", ".stripped"]
  | .convert => [if configuration.stripSymbols = [] then "" else ".stripped", ".bin"]
  | .upload => [".bin"]

def toolWords (configuration : Configuration) : StepKind → List Word
  | .strip => Word.ofString configuration.objcopy :: configuration.stripSymbols.map stripArgument
  | .convert =>
      [Word.ofString configuration.objcopy, Word.ofString "-O", Word.ofString "binary",
        Word.ofString "-R", Word.ofString configuration.excludedSection]
  | .upload =>
      [Word.ofString configuration.uploader, Word.ofString "upload", Word.ofString "--target",
        Word.ofString configuration.target, Word.ofString "--slot",
        slotArgument configuration.slot]

end Pipeline

theorem Command.split_line (command : Command) :
    Shell.split command.line = some (command.words.map Word.lossy) :=
  Shell.split_line _ _

/-! ## Files of a step -/

theorem Word.lossy_append_ofString (word : Word) (string : String) :
    lossy (word ++ ofString string) = lossy word ++ string.toList :=
  lossy_append word string.toList

/-- How a step names its files: each is called like the artifact, with a suffix behind it. -/
structure Step.IsNamedAfter (artifact : Word) (configuration : Configuration) (step : Step) :
    Prop where
  passed : step.command.words = Pipeline.toolWords configuration step.kind ++
    (Pipeline.suffixes configuration step.kind).map fun suffix => artifact ++ Word.ofString suffix
  /-- A shell reads the shown name with the suffix. -/
  echoed : Shell.split step.command.line =
    some ((Pipeline.toolWords configuration step.kind).map Word.lossy ++
      (Pipeline.suffixes configuration step.kind).map fun suffix =>
        Word.lossy artifact ++ suffix.toList)
  announced : ∃ suffix, (Pipeline.suffixes configuration step.kind).head? = some suffix ∧
    step.progress =
      step.kind.frame.1 ++ (Word.lossy artifact ++ suffix.toList) ++ step.kind.frame.2

theorem Step.IsNamedAfter.of_words {artifact : Word} {configuration : Configuration} {step : Step}
    (passed : step.command.words = Pipeline.toolWords configuration step.kind ++
      (Pipeline.suffixes configuration step.kind).map fun suffix =>
        artifact ++ Word.ofString suffix)
    (input : ∃ suffix, (Pipeline.suffixes configuration step.kind).head? = some suffix ∧
      step.input = artifact ++ Word.ofString suffix) :
    step.IsNamedAfter artifact configuration where
  passed := passed
  echoed := by
    rw [Command.split_line, passed, List.map_append, List.map_map]
    simp only [Function.comp_def, Word.lossy_append_ofString]
  announced := by
    rcases input with ⟨suffix, first, input⟩
    refine ⟨suffix, first, ?_⟩
    rw [Step.progress_eq, input, Word.lossy_append_ofString]

namespace Pipeline

variable {artifact : Word} {configuration : Configuration}

theorem append_ofString_empty (word : Word) : word ++ Word.ofString "" = word :=
  List.append_nil word

theorem convertedFile_eq :
    convertedFile artifact configuration =
      artifact ++ Word.ofString (if configuration.stripSymbols = [] then "" else ".stripped") := by
  rw [convertedFile]
  by_cases unstripped : configuration.stripSymbols = []
  · rw [if_pos (List.isEmpty_iff.mpr unstripped), if_pos unstripped, append_ofString_empty]
  · have nonempty : ¬ configuration.stripSymbols.isEmpty = true := by
      rw [List.isEmpty_iff]
      exact unstripped
    rw [if_neg nonempty, if_neg unstripped, strippedFile]

theorem steps_isNamedAfter {step : Step} (member : step ∈ steps artifact configuration) :
    step.IsNamedAfter artifact configuration := by
  rcases mem_steps artifact configuration member with ⟨_, rfl⟩ | rfl | rfl
  · apply Step.IsNamedAfter.of_words
    · simp only [Command.words, stripCommand, toolWords, suffixes, List.map_cons, List.map_nil,
        append_ofString_empty, List.cons_append]
      rfl
    · exact ⟨"", rfl, (append_ofString_empty artifact).symm⟩
  · apply Step.IsNamedAfter.of_words
    · simp only [Command.words, convertCommand, toolWords, suffixes, List.map_cons, List.map_nil,
        convertedFile_eq, List.cons_append, List.nil_append]
      rfl
    · exact ⟨_, rfl, convertedFile_eq⟩
  · apply Step.IsNamedAfter.of_words
    · rfl
    · exact ⟨".bin", rfl, rfl⟩

end Pipeline

/-! ## Runs -/

structure Run.IsNamedAfter {State : Type} (runner : Runner State) (state : State)
    (isVerbose : Bool) (artifact : Word) (configuration : Configuration) (output : Output)
    (run : Run) : Prop where
  stripped : Word.lossy (Pipeline.strippedFile artifact) =
    Word.lossy artifact ++ ".stripped".toList
  binary : Word.lossy (Pipeline.binaryFile artifact) = Word.lossy artifact ++ ".bin".toList
  named : ∀ step ∈ Pipeline.steps artifact configuration, step.IsNamedAfter artifact configuration
  /-- The steps that are run are the first ones, as many as the output admits, and the runner
  is given their commands. -/
  executed : run.executions.map Execution.step <+: Pipeline.steps artifact configuration
  reached : ∀ count ≤ (Pipeline.steps artifact configuration).length,
    (count ≤ run.executions.length ↔
      output.Admits isVerbose (Pipeline.steps artifact configuration) count)
  handed : run.executions.map Execution.reply =
    runner.replies (run.executions.map fun execution => execution.step.command) state
  printed : ∀ execution ∈ run.executions,
    execution.printed = Word.ofText (execution.step.shown isVerbose)
  /-- Nothing else is written, and at most the last announcement is cut short. -/
  written : run.written <+:
    Word.ofText ((Pipeline.steps artifact configuration).flatMap (Step.shown isVerbose))

theorem runSteps_isNamedAfter {State : Type} (runner : Runner State) (state : State)
    (isVerbose : Bool) (artifact : Word) (configuration : Configuration) (output : Output) :
    Run.IsNamedAfter runner state isVerbose artifact configuration output
      (runSteps runner isVerbose (Pipeline.steps artifact configuration) output state) where
  stripped := Pipeline.lossy_strippedFile artifact
  binary := Pipeline.lossy_binaryFile artifact
  named := fun step member => Pipeline.steps_isNamedAfter member
  executed := by
    rw [executions_step]
    exact List.take_prefix _ _
  reached := le_executions_iff runner isVerbose _ output state
  handed := executions_handed runner isVerbose _ output state
  printed := by
    intro execution member
    rcases List.mem_iff_getElem?.mp member with ⟨index, found⟩
    rw [(execution_announced runner isVerbose _ output state index execution found).1]
    exact execution.step.announcement_eq isVerbose
  written := by
    rw [← announcements_eq]
    exact written_begins runner isVerbose _ output state

example : (Pipeline.steps [0x61, 0xE2, 0x82] .standard).map (String.ofList ·.progress) =
    ["stripping symbols from a\uFFFD", "converting a\uFFFD.stripped to binary",
      "uploading a\uFFFD.bin"] := by
  decide +kernel

end UploadRunner
