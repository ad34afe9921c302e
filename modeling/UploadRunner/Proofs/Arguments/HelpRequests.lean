import UploadRunner.Proofs.Arguments.Separators

/-! Requests for help.

The word `help` asks for help only in the place of the artifact, and `--help` only before
it. Behind `--help`, neither a missing artifact nor whatever follows the artifact or a
separator is an error, while any other option is. -/

namespace UploadRunner.Arguments

/-! ## Shapes -/

/-- What may stand behind the tokens `--help` of a request for help: the word `help`, or, if
there are such tokens at all, anything that does not begin with another option. -/
inductive RequestEnd (asked : Prop) : List String → Prop
  | word (rest : List String) : RequestEnd asked ("help" :: rest)
  | nothing : asked → RequestEnd asked []
  | separator (rest : List String) : asked → RequestEnd asked ("--" :: rest)
  | artifact {token : String} (rest : List String) :
      asked → token.toList.head? ≠ some '-' → RequestEnd asked (token :: rest)

def requestTokens (configuration : Option String) (count : Nat) : List String :=
  configurationTokens configuration ++ List.replicate count "--help"

def HelpRequest (tokens : List String) : Prop :=
  ∃ configuration count rest,
    tokens = requestTokens configuration count ++ rest ∧ RequestEnd (1 ≤ count) rest

structure IsReadForHelp (tokens : List String) : Prop where
  requested : parse tokens = .error .help ↔ HelpRequest tokens
  /-- Another option behind a request for help is an error. -/
  refused : ∀ configuration count option rest,
    tokens = requestTokens configuration (count + 1) ++ option :: rest →
    option.toList.head? = some '-' → option ≠ "--help" → option ≠ "--" →
    parse tokens = .error (.usage .optionBehindHelp)
  /-- Neither the path of the configuration file nor anything behind a separator or behind
  the artifact asks for help. -/
  silent : ∀ configuration rest, tokens = configurationTokens configuration ++ rest →
    EndsOptions rest → parse tokens ≠ .error .help

/-! ## Reading -/

namespace Progress

variable {progress : Progress}

theorem read_requests (count : Nat) (rest : List String) :
    ∀ progress : Progress, progress.optionsEnded = false →
      progress.read (List.replicate count "--help" ++ rest) =
        { progress with asksHelp := progress.asksHelp || decide (1 ≤ count) }.read rest := by
  induction count with
  | zero =>
      intro progress _
      simp
  | succ count induction =>
      intro progress started
      have help : asksForHelp "--help" = true := by decide
      have later := induction { progress with asksHelp := true } started
      rw [List.replicate_succ, List.cons_append, read_help started help, later]
      simp

theorem read_behindOptions (tokens : List String) :
    ∀ progress : Progress, progress.optionsEnded = true →
      ∃ final : Progress, progress.read tokens = .ok final ∧
        final.asksHelp = progress.asksHelp := by
  induction tokens with
  | nil =>
      intro progress _
      exact ⟨progress, rfl, rfl⟩
  | cons token rest induction =>
      intro progress ended
      have stillEnded : (progress.place token).optionsEnded = true := by
        rw [place]
        split
        · exact ended
        · rfl
      rcases induction _ stillEnded with ⟨final, reading, asks⟩
      refine ⟨final, ?_, asks.trans (place_asksHelp progress token)⟩
      rw [read_ended ended, reading]

theorem finish_eq_help_iff (progress : Progress) :
    progress.finish = .error .help ↔ progress.asksHelp = true := by
  rw [finish]
  cases progress.asksHelp with
  | true => simp
  | false => cases progress.artifact <;> simp

theorem outcome_ended_eq_help_iff (ended : progress.optionsEnded = true)
    (tokens : List String) :
    progress.outcome tokens = .error .help ↔ progress.asksHelp = true := by
  rcases read_behindOptions tokens progress ended with ⟨final, reading, asks⟩
  rw [outcome, reading, ← asks]
  exact finish_eq_help_iff final

end Progress

/-! ## The end of a request -/

theorem passedOver_requests (count : Nat) : PassedOver (List.replicate count "--help") := by
  induction count with
  | zero => exact .nil
  | succ count induction => exact .option rfl (by decide) (by decide) induction

theorem parse_requestTokens (configuration : Option String) (count : Nat)
    (rest : List String) :
    parse (requestTokens configuration count ++ rest) =
      Progress.outcome { configuration, asksHelp := decide (1 ≤ count) }
        (insertSeparator rest) := by
  have requests := Progress.read_requests count (insertSeparator rest) { configuration } rfl
  change Progress.outcome {} (insertSeparator (requestTokens configuration count ++ rest)) = _
  rw [requestTokens, List.append_assoc, insertSeparator_configurationTokens,
    insertSeparator_append (passedOver_requests count)]
  apply Progress.outcome_of_read
  rw [read_configurationTokens, requests]
  rfl

theorem RequestEnd.asked {asked : Prop} {rest : List String} (ends : RequestEnd asked rest)
    (noWord : rest.head? ≠ some "help") : asked := by
  cases ends with
  | word => exact absurd rfl noWord
  | nothing asked => exact asked
  | separator _ asked => exact asked
  | artifact _ asked _ => exact asked

theorem RequestEnd.head_ne {asked : Prop} {rest : List String} (ends : RequestEnd asked rest)
    {option : String} (isOption : option.toList.head? = some '-') (notSeparator : option ≠ "--") :
    rest.head? ≠ some option := by
  intro isFirst
  cases ends with
  | word =>
      cases isFirst
      cases isOption
  | nothing => cases isFirst
  | separator =>
      cases isFirst
      exact notSeparator rfl
  | artifact _ _ positional =>
      cases isFirst
      exact positional isOption

theorem EndsOptions.requestEnd {rest : List String} (ends : EndsOptions rest) :
    RequestEnd True rest := by
  cases ends with
  | nothing => exact .nothing trivial
  | separator rest => exact .separator rest trivial
  | positional rest positional _ => exact .artifact rest trivial positional

theorem EndsOptions.noWord {rest : List String} (ends : EndsOptions rest) :
    rest.head? ≠ some "help" := by
  intro isWord
  cases ends with
  | nothing => cases isWord
  | separator => simp at isWord
  | positional _ _ silent =>
      cases isWord
      exact silent rfl

section

variable (configuration : Option String) (asks : Bool)

theorem outcome_word (rest : List String) :
    Progress.outcome { configuration, asksHelp := asks } (insertSeparator ("help" :: rest)) =
      .error .help := by
  have positional : isOption "help" = false := by decide
  have help : asksForHelp "help" = true := by decide
  rw [insertSeparator_artifact positional,
    Progress.outcome_of_read (Progress.read_help rfl help _),
    Progress.outcome_of_read (Progress.read_separator rfl _),
    Progress.outcome_ended_eq_help_iff rfl]

theorem outcome_artifact_eq_help_iff {token : String} (positional : token.toList.head? ≠ some '-')
    (noWord : token ≠ "help") (rest : List String) :
    Progress.outcome { configuration, asksHelp := asks } (insertSeparator (token :: rest)) =
      .error .help ↔ asks = true := by
  have isPositional := not_isOption positional
  have silent := not_asksForHelp positional noWord
  rw [insertSeparator_artifact isPositional,
    Progress.outcome_of_read (Progress.read_positional rfl silent isPositional _),
    Progress.outcome_of_read (Progress.read_separator rfl _),
    Progress.outcome_ended_eq_help_iff rfl]
  rfl

/-- Where the tokens behind a request are none of those that belong to it, the usage is shown
exactly if they may end it. -/
theorem outcome_eq_help_iff {rest : List String} (noRequest : rest.head? ≠ some "--help")
    (noName : rest.head? = some "--config" → asks = true ∨ configuration ≠ none ∨ rest.tail = []) :
    Progress.outcome { configuration, asksHelp := asks } (insertSeparator rest) = .error .help ↔
      RequestEnd (asks = true) rest := by
  cases rest with
  | nil =>
      have ended := Progress.finish_eq_help_iff { configuration, asksHelp := asks }
      exact ended.trans ⟨RequestEnd.nothing, fun ends => ends.asked (by simp)⟩
  | cons token rest =>
      by_cases isSeparator : token = "--"
      · subst isSeparator
        rw [insertSeparator_separator, Progress.outcome_of_read (Progress.read_separator rfl rest),
          Progress.outcome_ended_eq_help_iff rfl]
        exact ⟨RequestEnd.separator rest, fun ends => ends.asked (by simp)⟩
      by_cases option : token.toList.head? = some '-'
      · have noRequest : token ≠ "--help" := fun equal => noRequest (congrArg some equal)
        have noName : token = "--config" → asks = true ∨ configuration ≠ none ∨ rest = [] :=
          fun equal => noName (congrArg some equal)
        -- An option is refused here, and a request does not end with one.
        rcases read_otherOption configuration asks option noRequest isSeparator noName with
          ⟨error, refused⟩
        rw [Progress.outcome, refused]
        constructor
        · intro impossible
          cases impossible
        · intro ends
          cases ends with
          | word => cases option
          | separator => exact absurd rfl isSeparator
          | artifact _ _ positional => exact absurd option positional
      · by_cases isWord : token = "help"
        · subst isWord
          exact iff_of_true (outcome_word configuration asks rest) (.word rest)
        · have noWord : (token :: rest).head? ≠ some "help" :=
            fun equal => isWord (Option.some.inj equal)
          rw [outcome_artifact_eq_help_iff configuration asks option isWord]
          exact ⟨fun asked => .artifact rest asked option, fun ends => ends.asked noWord⟩

end

theorem exists_requests (tokens : List String) :
    ∃ count rest, tokens = List.replicate count "--help" ++ rest ∧
      rest.head? ≠ some "--help" := by
  induction tokens with
  | nil => exact ⟨0, [], rfl, by simp⟩
  | cons token tokens induction =>
      by_cases request : token = "--help"
      · rcases induction with ⟨count, rest, rfl, noRequest⟩
        exact ⟨count + 1, rest, by rw [request]; rfl, noRequest⟩
      · exact ⟨0, token :: tokens, rfl, fun equal => request (Option.some.inj equal)⟩

theorem exists_requestTokens (tokens : List String) :
    ∃ configuration count rest, tokens = requestTokens configuration count ++ rest ∧
      rest.head? ≠ some "--help" ∧
      (rest.head? = some "--config" → 1 ≤ count ∨ configuration ≠ none ∨ rest.tail = []) := by
  by_cases named : ∃ path later, tokens = "--config" :: path :: later
  · rcases named with ⟨path, later, rfl⟩
    rcases exists_requests later with ⟨count, rest, rfl, noRequest⟩
    exact ⟨some path, count, rest, rfl, noRequest, fun _ => Or.inr (Or.inl (by simp))⟩
  · rcases exists_requests tokens with ⟨count, rest, rfl, noRequest⟩
    refine ⟨none, count, rest, rfl, noRequest, fun isName => ?_⟩
    cases count with
    | succ count => exact Or.inl (by simp)
    | zero =>
        cases rest with
        | nil => cases isName
        | cons token rest =>
            cases isName
            cases rest with
            | nil => exact Or.inr (Or.inr rfl)
            | cons path rest => exact absurd ⟨path, rest, rfl⟩ named

theorem parse_eq_help_iff {configuration : Option String} {count : Nat} {rest : List String}
    (noRequest : rest.head? ≠ some "--help")
    (noName : rest.head? = some "--config" →
      1 ≤ count ∨ configuration ≠ none ∨ rest.tail = []) :
    parse (requestTokens configuration count ++ rest) = .error .help ↔
      RequestEnd (1 ≤ count) rest := by
  rw [parse_requestTokens, outcome_eq_help_iff configuration _ noRequest, decide_eq_true_eq]
  rw [decide_eq_true_eq]
  exact noName

theorem parse_isReadForHelp (tokens : List String) : IsReadForHelp tokens where
  requested := by
    constructor
    · intro asked
      rcases exists_requestTokens tokens with
        ⟨configuration, count, rest, rfl, noRequest, noName⟩
      exact ⟨configuration, count, rest, rfl, (parse_eq_help_iff noRequest noName).mp asked⟩
    · intro request
      rcases request with ⟨configuration, count, rest, rfl, ends⟩
      have noRequest := ends.head_ne rfl (by decide : "--help" ≠ "--")
      have noName := ends.head_ne rfl (by decide : "--config" ≠ "--")
      exact (parse_eq_help_iff noRequest fun isName => absurd isName noName).mpr ends
  refused := by
    intro configuration count option rest whole begins noRequest notSeparator
    have isOption := (isOption_iff option).mpr begins
    have silent := not_asksForHelp_option begins noRequest
    have asks : decide (1 ≤ count + 1) = true := decide_eq_true (Nat.le_add_left 1 count)
    rcases insertSeparator_cons option rest with ⟨later, inserted⟩
    rw [whole, parse_requestTokens, inserted, Progress.outcome,
      Progress.read_behindHelp rfl asks isOption silent notSeparator]
  silent := by
    intro configuration rest whole ends
    have noRequest := ends.requestEnd.head_ne rfl (by decide : "--help" ≠ "--")
    have noName := ends.requestEnd.head_ne rfl (by decide : "--config" ≠ "--")
    have withoutRequests : tokens = requestTokens configuration 0 ++ rest := by
      rw [whole, requestTokens, List.replicate_zero, List.append_nil]
    rw [withoutRequests, Ne, parse_eq_help_iff noRequest fun isName => absurd isName noName]
    intro request
    exact absurd (request.asked ends.noWord) (by decide)

end UploadRunner.Arguments
