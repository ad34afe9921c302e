import UploadRunner.Arguments.Parse

/-! The command lines that are accepted, and what they ask for.

A command line names at most one configuration file, then the artifact, and then
anything. The artifact is the first token that is no option, or whatever follows a
separator. -/

namespace UploadRunner.Arguments

/-! ## Shapes -/

def configurationTokens : Option String → List String
  | none => []
  | some path => ["--config", path]

def withoutSeparator (tokens : List String) : List String :=
  if tokens.head? = some "--" then tokens.tail else tokens

/-- A command line without an option before its artifact, and what it asks for. -/
inductive ArtifactLine (configuration : Option String) : List String → Arguments → Prop
  | plain (artifact : String) (trailing : List String) :
      artifact.toList.head? ≠ some '-' → artifact ≠ "help" →
      ArtifactLine configuration (artifact :: trailing)
        ⟨configuration, artifact, withoutSeparator trailing⟩
  | separated (artifact : String) (trailing : List String) :
      ArtifactLine configuration ("--" :: artifact :: trailing)
        ⟨configuration, artifact, trailing⟩

def CommandLine (tokens : List String) (arguments : Arguments) : Prop :=
  ∃ configuration rest,
    tokens = configurationTokens configuration ++ rest ∧
      ArtifactLine configuration rest arguments

/-! ## Single tokens -/

theorem asksForHelp_iff (token : String) :
    asksForHelp token = true ↔ token = "--help" ∨ token = "help" := by
  rw [asksForHelp, Bool.or_eq_true, decide_eq_true_eq, decide_eq_true_eq]

theorem isOption_iff (token : String) :
    isOption token = true ↔ token.toList.head? = some '-' := by
  rw [isOption, decide_eq_true_eq]

theorem not_isOption {token : String} (positional : token.toList.head? ≠ some '-') :
    isOption token = false := by
  rw [isOption, decide_eq_false_iff_not]
  exact positional

theorem not_asksForHelp {token : String} (positional : token.toList.head? ≠ some '-')
    (silent : token ≠ "help") : asksForHelp token = false := by
  rw [Bool.eq_false_iff]
  intro help
  rcases (asksForHelp_iff token).mp help with equal | equal
  · rw [equal] at positional
    exact positional rfl
  · exact silent equal

theorem not_asksForHelp_option {token : String} (option : token.toList.head? = some '-')
    (other : token ≠ "--help") : asksForHelp token = false := by
  rw [Bool.eq_false_iff]
  intro help
  rcases (asksForHelp_iff token).mp help with equal | equal
  · exact other equal
  · rw [equal] at option
    cases option

namespace Progress

variable {progress : Progress}

/-- How one token is read. Only the name of a configuration file takes the next one, too. -/
theorem read_cons (token : String) (rest : List String) :
    progress.read (token :: rest) =
      if progress.optionsEnded then (progress.place token).read rest
      else if asksForHelp token then { progress with asksHelp := true }.read rest
      else if !isOption token then (progress.place token).read rest
      else if token = "--" then { progress with optionsEnded := true }.read rest
      else if progress.asksHelp then .error .optionBehindHelp
      else if token = "--config" then
        rest.head?.elim (.error .missingValue) fun path =>
          (progress.setConfiguration path).bind (read · rest.tail)
      else .error (.unknownOption token) := by
  rw [read.eq_def]
  cases rest with
  | nil => rfl
  | cons path rest =>
      simp only [List.head?_cons, Option.elim_some, List.tail_cons]
      generalize progress.setConfiguration path = named
      cases named <;> rfl

theorem read_ended (ended : progress.optionsEnded = true) (token : String)
    (rest : List String) :
    progress.read (token :: rest) = (progress.place token).read rest := by
  rw [read_cons, if_pos ended]

theorem read_help (started : progress.optionsEnded = false) {token : String}
    (help : asksForHelp token = true) (rest : List String) :
    progress.read (token :: rest) = { progress with asksHelp := true }.read rest := by
  simp only [read_cons, started, help, Bool.false_eq_true, if_false, if_true]

theorem read_positional (started : progress.optionsEnded = false) {token : String}
    (silent : asksForHelp token = false) (positional : isOption token = false)
    (rest : List String) :
    progress.read (token :: rest) = (progress.place token).read rest := by
  simp only [read_cons, started, silent, positional, Bool.false_eq_true, Bool.not_false, if_false,
    if_true]

theorem read_separator (started : progress.optionsEnded = false) (rest : List String) :
    progress.read ("--" :: rest) = { progress with optionsEnded := true }.read rest := by
  have silent : asksForHelp "--" = false := by decide
  have option : isOption "--" = true := by decide
  simp only [read_cons, started, silent, option, Bool.false_eq_true, Bool.not_true, if_false,
    if_true]

theorem read_behindHelp (started : progress.optionsEnded = false)
    (asks : progress.asksHelp = true) {token : String} (option : isOption token = true)
    (silent : asksForHelp token = false) (notSeparator : token ≠ "--") (rest : List String) :
    progress.read (token :: rest) = .error .optionBehindHelp := by
  simp only [read_cons, started, asks, silent, option, notSeparator, Bool.false_eq_true,
    Bool.not_true, if_false, if_true]

theorem read_refused (started : progress.optionsEnded = false) {token : String}
    (option : token.toList.head? = some '-') (silent : asksForHelp token = false)
    (notSeparator : token ≠ "--") (notConfiguration : token ≠ "--config")
    (rest : List String) :
    progress.read (token :: rest) =
      .error (if progress.asksHelp then .optionBehindHelp else .unknownOption token) := by
  have isOption : isOption token = true := (isOption_iff token).mpr option
  simp only [read_cons, started, silent, isOption, notSeparator, notConfiguration,
    Bool.false_eq_true, Bool.not_true, if_false]
  cases progress.asksHelp <;> rfl

theorem read_named (started : progress.optionsEnded = false) (path : String)
    (rest : List String) :
    progress.read ("--config" :: path :: rest) =
      if progress.asksHelp then .error .optionBehindHelp
      else (progress.setConfiguration path).bind fun next => next.read rest := by
  have silent : asksForHelp "--config" = false := by decide
  have option : isOption "--config" = true := by decide
  simp only [read_cons, started, silent, option, Bool.false_eq_true, Bool.not_true, if_false,
    if_true, String.reduceEq]
  rfl

theorem read_configuration (started : progress.optionsEnded = false)
    (silent : progress.asksHelp = false) (unset : progress.configuration = none)
    (path : String) (rest : List String) :
    progress.read ("--config" :: path :: rest) =
      { progress with configuration := some path }.read rest := by
  simp only [read_named started, silent, setConfiguration, unset, Except.bind,
    Bool.false_eq_true, if_false]

/-! ## Ends -/

theorem place_asksHelp (progress : Progress) (token : String) :
    (progress.place token).asksHelp = progress.asksHelp := by
  rw [place]
  split <;> rfl

/-- Nothing that follows takes a request for help back. -/
theorem read_asksHelp (tokens : List String) :
    ∀ progress final : Progress, progress.asksHelp = true →
      progress.read tokens = .ok final → final.asksHelp = true := by
  induction tokens with
  | nil =>
      intro progress final asks reading
      cases reading
      exact asks
  | cons token rest induction =>
      intro progress final asks reading
      have placed : (progress.place token).asksHelp = true :=
        (place_asksHelp progress token).trans asks
      cases ended : progress.optionsEnded with
      | true => exact induction _ final placed (read_ended ended token rest ▸ reading)
      | false =>
          cases help : asksForHelp token with
          | true => exact induction _ final rfl (read_help ended help rest ▸ reading)
          | false =>
              cases option : isOption token with
              | false =>
                  exact induction _ final placed (read_positional ended help option rest ▸ reading)
              | true =>
                  by_cases isSeparator : token = "--"
                  · rw [isSeparator, read_separator ended] at reading
                    exact induction { progress with optionsEnded := true } final asks reading
                  · rw [read_behindHelp ended asks option help isSeparator] at reading
                    cases reading

theorem read_flags (tokens : List String) :
    ∀ progress : Progress, progress.optionsEnded = true → progress.artifact.isSome →
      progress.read tokens = .ok { progress with flags := progress.flags ++ tokens } := by
  induction tokens with
  | nil =>
      intro progress _ _
      rw [read, List.append_nil]
  | cons token rest induction =>
      intro progress ended found
      rcases Option.isSome_iff_exists.mp found with ⟨artifact, named⟩
      have placed : progress.place token =
          { progress with optionsEnded := true, flags := progress.flags ++ [token] } := by
        rw [place, named]
      have stillFound : (progress.place token).artifact.isSome := by
        rw [placed]
        exact found
      have stillEnded : (progress.place token).optionsEnded = true := by
        rw [placed]
      rw [read_ended ended, induction _ stillEnded stillFound, placed]
      simp only [List.append_assoc, List.singleton_append, ended]

def outcome (progress : Progress) (tokens : List String) : Except EarlyExit Arguments :=
  match progress.read tokens with
  | .error error => .error (.usage error)
  | .ok progress => progress.finish

theorem outcome_of_read {next : Progress} {tokens rest : List String}
    (reading : progress.read tokens = next.read rest) :
    progress.outcome tokens = next.outcome rest := by
  rw [outcome, reading]
  rfl

theorem outcome_of_error {tokens : List String}
    (refused : ∃ error, progress.read tokens = .error error) (arguments : Arguments) :
    progress.outcome tokens ≠ .ok arguments := by
  rcases refused with ⟨error, reading⟩
  rw [outcome, reading]
  exact fun impossible => nomatch impossible

theorem outcome_of_asksHelp (asks : progress.asksHelp = true) (tokens : List String)
    (arguments : Arguments) : progress.outcome tokens ≠ .ok arguments := by
  rw [outcome]
  cases reading : progress.read tokens with
  | error error => exact fun impossible => nomatch impossible
  | ok final =>
      have stillAsks := read_asksHelp tokens progress final asks reading
      simp [finish, stillAsks]

theorem outcome_flags (configuration : Option String) (artifact : String)
    (trailing : List String) :
    outcome { optionsEnded := true, configuration, artifact := some artifact } trailing =
      .ok ⟨configuration, artifact, trailing⟩ := by
  rw [outcome, read_flags trailing _ rfl rfl]
  rfl

end Progress

/-! ## Separators -/

theorem insertSeparator_first (token : String) (rest : List String) :
    insertSeparator (token :: rest) =
      token ::
        if token = "--" then rest
        else if token = "--config" then rest.take 1 ++ insertSeparator (rest.drop 1)
        else if isOption token then insertSeparator rest
        else separated rest := by
  rw [insertSeparator.eq_def]
  by_cases isSeparator : token = "--"
  · simp only [isSeparator, separator, if_true]
  by_cases isName : token = "--config"
  · have nothing : insertSeparator [] = [] := rfl
    cases rest <;> simp [isName, separator, configurationOption, nothing]
  · cases option : isOption token <;>
      simp [isSeparator, isName, option, separator, configurationOption]

theorem insertSeparator_cons (token : String) (rest : List String) :
    ∃ later, insertSeparator (token :: rest) = token :: later :=
  ⟨_, insertSeparator_first token rest⟩

theorem insertSeparator_separator (rest : List String) :
    insertSeparator ("--" :: rest) = "--" :: rest :=
  insertSeparator_first "--" rest

theorem insertSeparator_configuration (path : String) (rest : List String) :
    insertSeparator ("--config" :: path :: rest) = "--config" :: path :: insertSeparator rest :=
  insertSeparator_first "--config" (path :: rest)

theorem insertSeparator_option {token : String} (option : token.toList.head? = some '-')
    (notSeparator : token ≠ "--") (notConfiguration : token ≠ "--config")
    (rest : List String) :
    insertSeparator (token :: rest) = token :: insertSeparator rest := by
  have isOption : isOption token = true := (isOption_iff token).mpr option
  rw [insertSeparator_first, if_neg notSeparator, if_neg notConfiguration, if_pos isOption]

theorem separated_eq (rest : List String) : separated rest = "--" :: withoutSeparator rest := by
  rw [separated, withoutSeparator]
  cases rest with
  | nil => rfl
  | cons next later =>
      by_cases isSeparator : next = "--" <;> simp [isSeparator, separator]

theorem insertSeparator_artifact {token : String} (positional : isOption token = false)
    (rest : List String) :
    insertSeparator (token :: rest) = token :: "--" :: withoutSeparator rest := by
  have notSeparator : token ≠ "--" := by
    intro equal
    rw [equal] at positional
    cases positional
  have notConfiguration : token ≠ "--config" := by
    intro equal
    rw [equal] at positional
    cases positional
  rw [insertSeparator_first, if_neg notSeparator, if_neg notConfiguration, positional,
    if_neg Bool.false_ne_true, separated_eq]

theorem read_otherOption (configuration : Option String) (asks : Bool) {token : String}
    {rest : List String} (option : token.toList.head? = some '-')
    (noRequest : token ≠ "--help") (notSeparator : token ≠ "--")
    (noName : token = "--config" → asks = true ∨ configuration ≠ none ∨ rest = []) :
    ∃ error, Progress.read { configuration, asksHelp := asks } (insertSeparator (token :: rest)) =
      .error error := by
  by_cases isName : token = "--config"
  · subst isName
    cases rest with
    | nil => cases asks <;> exact ⟨_, rfl⟩
    | cons path rest =>
        rw [insertSeparator_configuration, Progress.read_named rfl]
        rcases noName rfl with rfl | given | nothing
        · exact ⟨_, rfl⟩
        · rcases Option.ne_none_iff_exists'.mp given with ⟨earlier, rfl⟩
          cases asks <;> exact ⟨_, rfl⟩
        · cases nothing
  · have silent := not_asksForHelp_option option noRequest
    rw [insertSeparator_option option notSeparator isName,
      Progress.read_refused rfl option silent notSeparator isName]
    exact ⟨_, rfl⟩

/-! ## Accepted lines -/

section

variable (configuration : Option String) (arguments : Arguments)

theorem outcome_separated (rest : List String) :
    Progress.outcome { configuration } ("--" :: rest) = .ok arguments ↔
      ArtifactLine configuration ("--" :: rest) arguments := by
  rw [Progress.outcome_of_read (Progress.read_separator rfl rest)]
  cases rest with
  | nil =>
      constructor
      · intro impossible
        cases impossible
      · intro shape
        cases shape with
        | plain _ _ positional _ => exact absurd rfl positional
  | cons artifact trailing =>
      rw [Progress.outcome_of_read (Progress.read_ended rfl artifact trailing)]
      rw [Progress.place, Progress.outcome_flags]
      constructor
      · intro equal
        cases equal
        exact .separated artifact trailing
      · intro shape
        cases shape with
        | plain _ _ positional _ => exact absurd rfl positional
        | separated => rfl

theorem outcome_artifact {artifact : String} (positional : artifact.toList.head? ≠ some '-')
    (silent : artifact ≠ "help") (rest : List String) :
    Progress.outcome { configuration } (artifact :: "--" :: rest) =
      .ok ⟨configuration, artifact, rest⟩ := by
  have noHelp := not_asksForHelp positional silent
  rw [Progress.outcome_of_read (Progress.read_positional rfl noHelp (not_isOption positional) _)]
  have placed : Progress.place { configuration } artifact =
      { configuration, artifact := some artifact } := rfl
  rw [placed, Progress.outcome_of_read (Progress.read_separator rfl rest),
    Progress.outcome_flags]

theorem outcome_insertSeparator (tokens : List String)
    (noOption : tokens.head? = some "--config" → configuration ≠ none) :
    Progress.outcome { configuration } (insertSeparator tokens) = .ok arguments ↔
      ArtifactLine configuration tokens arguments := by
  cases tokens with
  | nil =>
      constructor
      · intro impossible
        cases impossible
      · intro shape
        cases shape
  | cons token rest =>
      by_cases isSeparator : token = "--"
      · rw [isSeparator, insertSeparator_separator]
        exact outcome_separated configuration arguments rest
      -- An option that may stand here asks for help or is refused; an artifact is no option.
      by_cases option : token.toList.head? = some '-'
      · rcases insertSeparator_cons token rest with ⟨later, inserted⟩
        rw [inserted]
        constructor
        · intro accepted
          cases help : asksForHelp token with
          | true =>
              rw [Progress.outcome_of_read (Progress.read_help rfl help later)] at accepted
              exact absurd accepted (Progress.outcome_of_asksHelp rfl later arguments)
          | false =>
              have noRequest : token ≠ "--help" := by
                intro equal
                rw [equal] at help
                cases help
              have noName : token = "--config" → false = true ∨ configuration ≠ none ∨ rest = [] :=
                fun equal => Or.inr (Or.inl (noOption (congrArg some equal)))
              have refused :=
                read_otherOption configuration false option noRequest isSeparator noName
              rw [inserted] at refused
              exact absurd accepted (Progress.outcome_of_error refused arguments)
        · intro shape
          cases shape with
          | plain _ _ positional _ => exact absurd option positional
          | separated => exact absurd rfl isSeparator
      · rw [insertSeparator_artifact (not_isOption option)]
        by_cases help : token = "help"
        · have asks : asksForHelp token = true := (asksForHelp_iff token).mpr (Or.inr help)
          rw [Progress.outcome_of_read (Progress.read_help rfl asks _)]
          constructor
          · intro accepted
            exact absurd accepted (Progress.outcome_of_asksHelp rfl _ arguments)
          · intro shape
            cases shape with
            | plain _ _ _ silent => exact absurd help silent
            | separated => exact absurd rfl isSeparator
        · rw [outcome_artifact configuration option help]
          constructor
          · intro equal
            cases equal
            exact .plain token rest option help
          · intro shape
            cases shape with
            | plain => rfl
            | separated => exact absurd rfl isSeparator

end

theorem insertSeparator_configurationTokens (configuration : Option String)
    (rest : List String) :
    insertSeparator (configurationTokens configuration ++ rest) =
      configurationTokens configuration ++ insertSeparator rest := by
  cases configuration with
  | none => rfl
  | some path => exact insertSeparator_configuration path rest

theorem read_configurationTokens (configuration : Option String) (rest : List String) :
    Progress.read {} (configurationTokens configuration ++ rest) =
      Progress.read { configuration } rest := by
  cases configuration with
  | none => rfl
  | some path =>
      apply Progress.read_configuration
      · rfl
      · rfl
      · rfl

theorem parse_artifact (configuration : Option String) {artifact : String}
    (positional : artifact.toList.head? ≠ some '-') (silent : artifact ≠ "help")
    (trailing : List String) :
    parse (configurationTokens configuration ++ artifact :: trailing) =
      .ok ⟨configuration, artifact, withoutSeparator trailing⟩ := by
  change Progress.outcome {} (insertSeparator _) = _
  rw [insertSeparator_configurationTokens, insertSeparator_artifact (not_isOption positional),
    Progress.outcome_of_read (read_configurationTokens configuration _)]
  exact outcome_artifact configuration positional silent _

theorem artifactLine_head {configuration : Option String} {tokens : List String}
    {arguments : Arguments} (shape : ArtifactLine configuration tokens arguments) :
    tokens.head? ≠ some "--config" := by
  cases shape with
  | plain artifact trailing positional _ =>
      intro equal
      cases equal
      exact positional rfl
  | separated => simp

theorem commandLine_named (path : String) (rest : List String) (arguments : Arguments) :
    CommandLine ("--config" :: path :: rest) arguments ↔
      ArtifactLine (some path) rest arguments := by
  constructor
  · rintro ⟨configuration, later, equal, shape⟩
    cases configuration with
    | none =>
        have sameHead : later.head? = some "--config" := by
          rw [configurationTokens, List.nil_append] at equal
          rw [← equal]
          rfl
        exact absurd sameHead (artifactLine_head shape)
    | some other =>
        cases equal
        exact shape
  · intro shape
    exact ⟨some path, rest, rfl, shape⟩

theorem commandLine_unnamed {tokens : List String}
    (unnamed : ∀ path rest, tokens ≠ "--config" :: path :: rest) (arguments : Arguments) :
    CommandLine tokens arguments ↔ ArtifactLine none tokens arguments := by
  constructor
  · rintro ⟨configuration, later, equal, shape⟩
    cases configuration with
    | none =>
        rw [equal]
        exact shape
    | some path => exact absurd equal (unnamed path later)
  · intro shape
    exact ⟨none, tokens, rfl, shape⟩

/-- Reading accepts exactly the command lines, and finds in them what they ask for.
Commands are shown exactly if the first flag asks for it. -/
theorem parse_eq_ok_iff (tokens : List String) (arguments : Arguments) :
    (parse tokens = .ok arguments ↔ CommandLine tokens arguments) ∧
      (arguments.isVerbose = true ↔ arguments.flags.head? = some "-v") := by
  refine ⟨?_, by rw [isVerbose, verboseFlag, decide_eq_true_eq]⟩
  change Progress.outcome {} (insertSeparator tokens) = _ ↔ _
  by_cases named : ∃ path rest, tokens = "--config" :: path :: rest
  · rcases named with ⟨path, rest, rfl⟩
    have inserted : insertSeparator ("--config" :: path :: rest) =
        "--config" :: path :: insertSeparator rest := by
      rw [insertSeparator.eq_def]
      rfl
    rw [commandLine_named, inserted,
      Progress.outcome_of_read (Progress.read_configuration rfl rfl rfl path _)]
    exact outcome_insertSeparator (some path) arguments rest fun _ => Option.some_ne_none path
  · have unnamed : ∀ path rest, tokens ≠ "--config" :: path :: rest :=
      fun path rest equal => named ⟨path, rest, equal⟩
    rw [commandLine_unnamed unnamed]
    by_cases option : tokens = ["--config"]
    · rw [option]
      constructor
      · intro impossible
        cases impossible
      · intro shape
        exact absurd rfl (artifactLine_head shape)
    · refine outcome_insertSeparator none arguments tokens fun isFirst => ?_
      cases tokens with
      | nil => cases isFirst
      | cons token rest =>
          cases isFirst
          cases rest with
          | nil => exact absurd rfl option
          | cons path rest => exact absurd rfl (unnamed path rest)

end UploadRunner.Arguments
