import UploadRunner.Proofs.Pipeline.FaultyOutput
import UploadRunner.Proofs.Pipeline.ToolChains
import UploadRunner.Proofs.Shell.Lines
import UploadRunner.Proofs.Text.Excerpts
import UploadRunner.Proofs.Text.Separated

/-! Runs that do not show their commands.

A quiet run shows the name of the artifact once for each step, so at most three times.
If the name has to be quoted, each of its single quotes is three in a command, and two
more stand around it: no command fits into what is shown. If it need not be quoted, two
words of each command stand side by side nowhere in what is shown. -/

namespace UploadRunner

/-! ## Single quotes -/

namespace Shell

theorem count_quoteCharacters (word : Text) :
    (word.flatMap quoteCharacter).count '\'' = 3 * word.count '\'' := by
  induction word with
  | nil => rfl
  | cons character word induction =>
      rw [List.flatMap_cons, List.count_append, induction]
      by_cases isQuote : character = '\''
      · rw [isQuote, List.count_cons_self]
        change 3 + _ = _
        omega
      · rw [quoteCharacter, if_neg isQuote, List.count_cons_of_ne isQuote,
          List.count_cons_of_ne isQuote]
        simp

/-- A word that has to be quoted shows each of its single quotes as three, between two
others. -/
theorem count_quote {word : Text} (special : word.all isPlain = false) :
    (quote word).count '\'' = 3 * word.count '\'' + 2 := by
  have quoted : quote word = '\'' :: word.flatMap quoteCharacter ++ ['\''] := by
    rw [quote, special, Bool.and_false, if_neg Bool.false_ne_true]
  rw [quoted, List.count_append, List.count_cons_self, count_quoteCharacters]
  rfl

theorem quote_of_plain {word : Text} (nonempty : word ≠ []) (plain : word.all isPlain = true) :
    quote word = word := by
  rw [quote, plain, List.isEmpty_eq_false_iff.mpr nonempty]
  rfl

theorem quote_lossy_ofString (string : String) :
    quote (Word.lossy (Word.ofString string)) = quote string.toList := by
  rw [Word.ofString, Word.lossy_ofText]

theorem notMem_of_plain {word : Text} (plain : word.all isPlain = true) {other : Char}
    (special : isPlain other = false) : other ∉ word := by
  intro member
  have isPlain := List.all_eq_true.mp plain other member
  rw [special] at isPlain
  cases isPlain

theorem line_append (program : Text) (arguments more : List Text) :
    line program (arguments ++ more) =
      line program arguments ++ more.flatMap fun argument => ' ' :: quote argument := by
  rw [line, line, List.flatMap_append, List.append_assoc]

end Shell

/-! ## Shown names -/

namespace Pipeline

variable (artifact : Word) (configuration : Configuration)

theorem lossy_strippedFile :
    Word.lossy (strippedFile artifact) = Word.lossy artifact ++ ".stripped".toList :=
  Word.lossy_append artifact _

theorem lossy_binaryFile :
    Word.lossy (binaryFile artifact) = Word.lossy artifact ++ ".bin".toList :=
  Word.lossy_append artifact _

/-! ## Lines of commands -/

theorem stripCommand_line :
    ∃ front, (stripCommand artifact configuration).line =
      front ++ (' ' :: Shell.quote (Word.lossy artifact)) ++
        ' ' :: Shell.quote (Word.lossy artifact ++ ".stripped".toList) := by
  refine ⟨Shell.line (Word.lossy (Word.ofString configuration.objcopy))
    ((configuration.stripSymbols.map stripArgument).map Word.lossy), ?_⟩
  rw [Command.line, stripCommand, List.map_append, Shell.line_append]
  simp [lossy_strippedFile]

theorem convertCommand_line :
    ∃ front between, (convertCommand artifact configuration).line =
      front ++ (' ' :: "-O".toList ++ ' ' :: "binary".toList) ++ between ++
        ' ' :: Shell.quote (Word.lossy artifact ++ ".bin".toList) := by
  have option : Shell.quote "-O".toList = "-O".toList := by decide
  have format : Shell.quote "binary".toList = "binary".toList := by decide
  refine ⟨Shell.quote configuration.objcopy.toList, ' ' :: Shell.quote "-R".toList ++
    ' ' :: Shell.quote configuration.excludedSection.toList ++
    ' ' :: Shell.quote (Word.lossy (convertedFile artifact configuration)), ?_⟩
  simp only [Command.line, convertCommand, Shell.line, List.map_cons, List.map_nil,
    List.flatMap_cons, List.flatMap_nil, List.append_nil, Shell.quote_lossy_ofString, option,
    format, lossy_binaryFile, List.append_assoc]

theorem uploadCommand_line :
    ∃ front between, (uploadCommand artifact configuration).line =
      front ++ (' ' :: "upload".toList ++ ' ' :: "--target".toList) ++ between ++
        ' ' :: Shell.quote (Word.lossy artifact ++ ".bin".toList) := by
  have verb : Shell.quote "upload".toList = "upload".toList := by decide
  have target : Shell.quote "--target".toList = "--target".toList := by decide
  refine ⟨Shell.quote configuration.uploader.toList,
    ' ' :: Shell.quote configuration.target.toList ++ ' ' :: Shell.quote "--slot".toList ++
    ' ' :: Shell.quote (Word.lossy (slotArgument configuration.slot)), ?_⟩
  simp only [Command.line, uploadCommand, Shell.line, List.map_cons, List.map_nil,
    List.flatMap_cons, List.flatMap_nil, List.append_nil, Shell.quote_lossy_ofString, verb,
    target, lossy_binaryFile, List.append_assoc]

theorem line_ends {step : Step} (member : step ∈ steps artifact configuration) :
    ∃ front suffix, step.command.line =
      front ++ Shell.quote (Word.lossy artifact ++ suffix) := by
  rcases mem_steps artifact configuration member with ⟨_, rfl⟩ | rfl | rfl
  · rcases stripCommand_line artifact configuration with ⟨front, line⟩
    rw [line]
    exact ⟨_, _, by rw [List.append_cons]⟩
  · rcases convertCommand_line artifact configuration with ⟨front, between, line⟩
    rw [line]
    exact ⟨_, _, by rw [List.append_cons]⟩
  · rcases uploadCommand_line artifact configuration with ⟨front, between, line⟩
    rw [line]
    exact ⟨_, _, by rw [List.append_cons]⟩

end Pipeline

/-! ## What is shown -/

def Step.shown (isVerbose : Bool) (step : Step) : Text :=
  step.progress ++ ['\n'] ++ if isVerbose then step.command.line ++ ['\n'] else []

theorem Step.announcement_eq (isVerbose : Bool) (step : Step) :
    step.announcement isVerbose = Word.ofText (step.shown isVerbose) := by
  rw [Step.announcement, Step.shown, Word.ofText_append, announcementLine]
  cases isVerbose with
  | false => rfl
  | true => rfl

theorem announcements_eq (isVerbose : Bool) (steps : List Step) :
    announcements isVerbose steps = Word.ofText (steps.flatMap (Step.shown isVerbose)) := by
  rw [announcements, Word.ofText, List.flatMap_assoc]
  apply List.flatMap_congr
  intro step _
  exact step.announcement_eq isVerbose

def progressLines (steps : List Step) : Text :=
  steps.flatMap fun step => step.progress ++ ['\n']

theorem announcements_quiet (steps : List Step) :
    announcements false steps = Word.ofText (progressLines steps) := by
  have quiet : steps.flatMap (Step.shown false) = progressLines steps := by
    apply List.flatMap_congr
    intro step _
    exact List.append_nil _
  rw [announcements_eq, quiet]

theorem count_frame (kind : StepKind) :
    kind.frame.1.count '\'' = 0 ∧ kind.frame.2.count '\'' = 0 := by
  cases kind <;> decide

theorem count_progress (step : Step) :
    (step.progress ++ ['\n']).count '\'' = (Word.lossy step.input).count '\'' := by
  have lineEnd : ['\n'].count '\'' = 0 := by decide
  rcases count_frame step.kind with ⟨before, behind⟩
  rw [List.count_append, lineEnd, Step.progress_eq, List.count_append, List.count_append, before,
    behind, Nat.zero_add, Nat.add_zero]

theorem count_progressLines_le {steps : List Step} {bound : Nat}
    (each : ∀ step ∈ steps, (Word.lossy step.input).count '\'' ≤ bound) :
    (progressLines steps).count '\'' ≤ steps.length * bound := by
  induction steps with
  | nil => exact Nat.zero_le _
  | cons step steps induction =>
      have first := each step List.mem_cons_self
      have others := induction fun other member => each other (List.mem_cons_of_mem step member)
      rw [progressLines, List.flatMap_cons, List.count_append, count_progress, List.length_cons,
        Nat.succ_mul, Nat.add_comm]
      exact Nat.add_le_add others first

/-- What blanks separate in the progress of a pipeline. A line end stands inside such a
part. -/
def progressParts (isStripped : Bool) (name : Text) : List Text :=
  (if isStripped then
    ["stripping".toList, "symbols".toList, "from".toList, name ++ "\nconverting".toList,
      name ++ ".stripped".toList]
  else ["converting".toList, name]) ++
    ["to".toList, "binary\nuploading".toList, name ++ ".bin\n".toList]

namespace Pipeline

variable (artifact : Word) (configuration : Configuration)

theorem progressLines_steps :
    progressLines (steps artifact configuration) =
      [' '].intercalate
        (progressParts (!configuration.stripSymbols.isEmpty) (Word.lossy artifact)) := by
  cases unstripped : configuration.stripSymbols.isEmpty <;>
    simp [steps, stripSteps, convertedFile, unstripped, progressLines, Step.progress,
      progressParts, lossy_strippedFile, lossy_binaryFile, List.intercalate]

theorem count_input {step : Step} (member : step ∈ steps artifact configuration) :
    (Word.lossy step.input).count '\'' = (Word.lossy artifact).count '\'' := by
  have stripped : (Word.lossy (strippedFile artifact)).count '\'' =
      (Word.lossy artifact).count '\'' := by
    rw [lossy_strippedFile, List.count_append]
    rfl
  have binary : (Word.lossy (binaryFile artifact)).count '\'' =
      (Word.lossy artifact).count '\'' := by
    rw [lossy_binaryFile, List.count_append]
    rfl
  rcases mem_steps artifact configuration member with ⟨_, rfl⟩ | rfl | rfl
  · rfl
  · rw [convertedFile]
    split
    · rfl
    · exact stripped
  · exact binary

/-- The name stands in the progress at most three times, and nothing else in it has a
quote. -/
theorem count_progressLines :
    (progressLines (steps artifact configuration)).count '\'' ≤
      3 * (Word.lossy artifact).count '\'' := by
  have few : (steps artifact configuration).length ≤ 3 := by
    rw [steps, stripSteps]
    split
    · exact Nat.le_succ 2
    · exact le_rfl
  have each : ∀ step ∈ steps artifact configuration,
      (Word.lossy step.input).count '\'' ≤ (Word.lossy artifact).count '\'' :=
    fun step member => (count_input artifact configuration member).le
  exact (count_progressLines_le each).trans (Nat.mul_le_mul_right _ few)

end Pipeline

/-! ## Names that have to be quoted -/

theorem quoted_not_infix {artifact : Word} {configuration : Configuration} {step : Step}
    (member : step ∈ Pipeline.steps artifact configuration)
    (special : (Word.lossy artifact).all Shell.isPlain = false) :
    ¬ step.command.line <:+: progressLines (Pipeline.steps artifact configuration) := by
  intro contained
  rcases Pipeline.line_ends artifact configuration member with ⟨front, suffix, line⟩
  have stillSpecial : (Word.lossy artifact ++ suffix).all Shell.isPlain = false := by
    rw [List.all_append, special, Bool.false_and]
  have inLine : (step.command.line).count '\'' =
      front.count '\'' + (3 * (Word.lossy artifact ++ suffix).count '\'' + 2) := by
    rw [line, List.count_append, Shell.count_quote stillSpecial]
  have inProgress := Pipeline.count_progressLines artifact configuration
  have fewer := contained.sublist.count_le '\''
  rw [List.count_append] at inLine
  omega

/-! ## Names that need not be quoted -/

section

variable {isStripped : Bool} {name first second : Text}

theorem progressParts_solid (plain : name.all Shell.isPlain = true) :
    ∀ part ∈ progressParts isStripped name, ' ' ∉ part := by
  have solid : ' ' ∉ name := Shell.notMem_of_plain plain (by decide)
  cases isStripped <;> simp [progressParts, solid]

theorem neighbours_of_progress (plain : name.all Shell.isPlain = true) (firstSolid : ' ' ∉ first)
    (secondSolid : ' ' ∉ second)
    (contained : ' ' :: first ++ ' ' :: second <:+:
      [' '].intercalate (progressParts isStripped name)) :
    ∃ more, (first, second ++ more) ∈
      (progressParts isStripped name).zip (progressParts isStripped name).tail := by
  have nonempty : progressParts isStripped name ≠ [] := by
    rw [progressParts]
    exact List.append_ne_nil_of_right_ne_nil _ (List.cons_ne_nil _ _)
  rcases neighbours_of_infix firstSolid secondSolid contained with ⟨more, neighbours⟩
  rw [separatedBy_intercalate nonempty (progressParts_solid plain)] at neighbours
  exact ⟨more, neighbours⟩

theorem first_of_neighbours
    (neighbours : (first, second) ∈
      (progressParts isStripped name).zip (progressParts isStripped name).tail) :
    first ∈ ["stripping".toList, "symbols".toList, "from".toList, "converting".toList,
        "to".toList] ∨
      '\n' ∈ first ∨ second = "to".toList := by
  cases isStripped with
  | false =>
      simp only [progressParts, Bool.false_eq_true, if_false, List.cons_append, List.nil_append,
        List.tail_cons, List.zip_cons_cons, List.zip_nil_right, List.mem_cons, Prod.mk.injEq,
        List.not_mem_nil, or_false] at neighbours
      rcases neighbours with ⟨rfl, rfl⟩ | ⟨rfl, rfl⟩ | ⟨rfl, rfl⟩ | ⟨rfl, rfl⟩ <;> simp
  | true =>
      simp only [progressParts, if_true, List.cons_append, List.nil_append, List.tail_cons,
        List.zip_cons_cons, List.zip_nil_right, List.mem_cons, Prod.mk.injEq, List.not_mem_nil,
        or_false] at neighbours
      rcases neighbours with ⟨rfl, rfl⟩ | ⟨rfl, rfl⟩ | ⟨rfl, rfl⟩ | ⟨rfl, rfl⟩ | ⟨rfl, rfl⟩ |
        ⟨rfl, rfl⟩ | ⟨rfl, rfl⟩ <;> simp

/-- Two words of which one follows the other in every command that converts, and two in
every one that uploads. -/
def fixedNeighbours : List (Text × Text) :=
  [("-O".toList, "binary".toList), ("upload".toList, "--target".toList)]

theorem fixed_not_infix (plain : name.all Shell.isPlain = true)
    (fixed : (first, second) ∈ fixedNeighbours) :
    ¬ ' ' :: first ++ ' ' :: second <:+: [' '].intercalate (progressParts isStripped name) := by
  intro contained
  rw [fixedNeighbours, List.mem_pair, Prod.mk.injEq, Prod.mk.injEq] at fixed
  rcases fixed with ⟨rfl, rfl⟩ | ⟨rfl, rfl⟩
  all_goals
    rcases neighbours_of_progress plain (by decide) (by decide) contained with ⟨more, neighbours⟩
    rcases first_of_neighbours neighbours with isFixed | ended | beforeTo
    · exact absurd isFixed (by decide)
    · exact absurd ended (by decide)
    · simp at beforeTo

theorem strip_not_infix (plain : name.all Shell.isPlain = true) :
    ¬ ' ' :: name ++ ' ' :: (name ++ ".stripped".toList) <:+:
      [' '].intercalate (progressParts true name) := by
  intro contained
  have solid : ' ' ∉ name := Shell.notMem_of_plain plain (by decide)
  have stillSolid : ' ' ∉ name ++ ".stripped".toList := by simp [solid]
  rcases neighbours_of_progress plain solid stillSolid contained with ⟨more, neighbours⟩
  simp only [progressParts, if_true, List.cons_append, List.nil_append, List.tail_cons,
    List.zip_cons_cons, List.zip_nil_right, List.mem_cons, Prod.mk.injEq, List.not_mem_nil,
    or_false] at neighbours
  -- No name is longer than itself, and behind a fixed word no part begins with that word.
  rcases neighbours with ⟨isName, next⟩ | ⟨isName, next⟩ | ⟨isName, next⟩ | ⟨isName, _⟩ |
    ⟨isName, _⟩ | ⟨isName, next⟩ | ⟨isName, next⟩
  case inr.inr.inr.inl => simp at isName
  case inr.inr.inr.inr.inl => simp at isName
  all_goals simp [isName] at next

end

/-- An empty name is quoted, although it holds nothing that has to be; any other one stands
between blanks. -/
theorem stripCommand_not_infix {artifact : Word} (configuration : Configuration)
    (plain : (Word.lossy artifact).all Shell.isPlain = true) :
    ¬ (Pipeline.stripCommand artifact configuration).line <:+:
      [' '].intercalate (progressParts true (Word.lossy artifact)) := by
  intro contained
  rcases Pipeline.stripCommand_line artifact configuration with ⟨front, line⟩
  rw [line] at contained
  by_cases empty : Word.lossy artifact = []
  · rw [empty] at contained
    have quoted : '\'' ∈ [' '].intercalate (progressParts true []) := by
      apply contained.subset
      exact List.mem_append_left _
        (List.mem_append_right front (List.mem_cons_of_mem ' ' List.mem_cons_self))
    revert quoted
    decide
  · have stillPlain : (Word.lossy artifact ++ ".stripped".toList).all Shell.isPlain = true := by
      rw [List.all_append, plain]
      decide
    have nonempty : Word.lossy artifact ++ ".stripped".toList ≠ [] :=
      List.append_ne_nil_of_left_ne_nil empty _
    rw [Shell.quote_of_plain empty plain, Shell.quote_of_plain nonempty stillPlain,
      List.append_assoc] at contained
    exact strip_not_infix plain ((List.suffix_append front _).isInfix.trans contained)

theorem line_not_infix {artifact : Word} {configuration : Configuration} {step : Step}
    (member : step ∈ Pipeline.steps artifact configuration) :
    ¬ step.command.line <:+: progressLines (Pipeline.steps artifact configuration) := by
  -- A name that is quoted betrays itself by the number of its quotes; any other one by what stands
  -- beside it.
  cases plain : (Word.lossy artifact).all Shell.isPlain with
  | false => exact quoted_not_infix member plain
  | true =>
      rw [Pipeline.progressLines_steps]
      rcases Pipeline.mem_steps artifact configuration member with ⟨stripped, rfl⟩ | rfl | rfl
      · rw [stripped]
        exact stripCommand_not_infix configuration plain
      · rcases Pipeline.convertCommand_line artifact configuration with ⟨front, between, line⟩
        rw [line]
        intro contained
        refine fixed_not_infix plain (List.mem_cons_self) (List.IsInfix.trans ?_ contained)
        exact ⟨front, _, (List.append_assoc _ _ _).symm⟩
      · rcases Pipeline.uploadCommand_line artifact configuration with ⟨front, between, line⟩
        rw [line]
        intro contained
        refine fixed_not_infix plain (List.mem_cons_of_mem _ List.mem_cons_self)
          (List.IsInfix.trans ?_ contained)
        exact ⟨front, _, (List.append_assoc _ _ _).symm⟩

/-! ## Runs -/

theorem written_begins {State : Type} (runner : Runner State) (isVerbose : Bool)
    (steps : List Step) (output : Output) (state : State) :
    (runSteps runner isVerbose steps output state).written <+: announcements isVerbose steps := by
  have accepted : ∀ word, output.accepted word <+: word := by
    intro word
    rw [Output.accepted]
    cases output.room with
    | none => exact List.prefix_rfl
    | some room => exact List.take_prefix room word
  have first : ∀ count, announcements isVerbose (steps.take count) <+:
      announcements isVerbose steps := by
    intro count
    refine ⟨announcements isVerbose (steps.drop count), ?_⟩
    rw [announcements, announcements, announcements, ← List.flatMap_append,
      List.take_append_drop]
  rw [written_eq]
  exact (accepted _).trans (first _)

/-- A quiet run writes no command of its pipeline, whatever the artifact is called, the
configuration says, the tools do and the output accepts. -/
theorem quiet_run_shows_no_command {State : Type} (runner : Runner State) (state : State)
    (artifact : Word) (configuration : Configuration) (output : Output) :
    ∀ step ∈ Pipeline.steps artifact configuration,
      ¬ Word.ofText step.command.line <:+:
        (runSteps runner false (Pipeline.steps artifact configuration) output state).written := by
  intro step member contained
  have shown := contained.trans (written_begins runner false _ output state).isInfix
  rw [announcements_quiet, Word.ofText_infix_iff] at shown
  exact line_not_infix member shown

def imitation : Word :=
  Word.ofString "x.bin\npros upload --target v5 --slot 1 x"

/-- The name is shown as it is, and still the command is not shown: there, the name is
quoted. -/
theorem imitation_shows_no_command :
    (⟨.upload, Pipeline.binaryFile imitation, Pipeline.uploadCommand imitation .standard⟩ : Step) ∈
        Pipeline.steps imitation .standard ∧
      ¬ Word.ofText (Pipeline.uploadCommand imitation .standard).line <:+:
        (runSteps scriptedRunner false (Pipeline.steps imitation .standard)
          { room := some 90, refusedFlush := some 3 } [.signaled 9]).written := by
  have member : (⟨.upload, Pipeline.binaryFile imitation,
      Pipeline.uploadCommand imitation .standard⟩ : Step) ∈
        Pipeline.steps imitation .standard := by
    simp [Pipeline.steps]
  have hidden := quiet_run_shows_no_command scriptedRunner [.signaled 9] imitation .standard
    { room := some 90, refusedFlush := some 3 } _ member
  exact ⟨member, hidden⟩

end UploadRunner
