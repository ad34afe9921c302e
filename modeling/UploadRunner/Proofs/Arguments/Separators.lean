import UploadRunner.Proofs.Arguments.CommandLines

/-! The separator behind the artifact.

The search for the artifact passes over options. What it passes over is read in one way,
whatever stands behind it. A separator behind the artifact changes nothing where what
stands there ends the options by itself, and a second search puts no second one there. -/

namespace UploadRunner.Arguments

/-! ## Searching for the artifact -/

/-- Tokens that the search for the artifact passes over: options, and the value of the one
that names a configuration file. -/
inductive PassedOver : List String → Prop
  | nil : PassedOver []
  | option {token : String} {rest : List String} :
      token.toList.head? = some '-' → token ≠ "--" → token ≠ "--config" → PassedOver rest →
      PassedOver (token :: rest)
  | configuration (path : String) {rest : List String} :
      PassedOver rest → PassedOver ("--config" :: path :: rest)

/-- Where the artifact stands in a list of tokens: it is the first token that is neither
passed over nor a separator. -/
structure ArtifactAt (tokens before : List String) (artifact : String)
    (trailing : List String) : Prop where
  whole : tokens = before ++ artifact :: trailing
  passed : PassedOver before
  positional : artifact.toList.head? ≠ some '-'

inductive EndsOptions : List String → Prop
  | nothing : EndsOptions []
  | separator (rest : List String) : EndsOptions ("--" :: rest)
  | positional {token : String} (rest : List String) :
      token.toList.head? ≠ some '-' → token ≠ "help" → EndsOptions (token :: rest)

theorem PassedOver.append {left right : List String} (passed : PassedOver left)
    (further : PassedOver right) : PassedOver (left ++ right) := by
  induction passed with
  | nil => exact further
  | option isOption notSeparator notConfiguration _ induction =>
      exact .option isOption notSeparator notConfiguration induction
  | configuration path _ induction => exact .configuration path induction

/-! ## Inserting the separator -/

theorem insertSeparator_append {before : List String} (passed : PassedOver before)
    (rest : List String) : insertSeparator (before ++ rest) = before ++ insertSeparator rest := by
  induction passed with
  | nil => rfl
  | option isOption notSeparator notConfiguration _ induction =>
      rw [List.cons_append, insertSeparator_option isOption notSeparator notConfiguration,
        induction, List.cons_append]
  | configuration path _ induction =>
      rw [List.cons_append, List.cons_append, insertSeparator_configuration, induction,
        List.cons_append, List.cons_append]

theorem ArtifactAt.inserted {tokens before trailing : List String} {artifact : String}
    (found : ArtifactAt tokens before artifact trailing) :
    insertSeparator tokens = before ++ artifact :: "--" :: withoutSeparator trailing := by
  rw [found.whole, insertSeparator_append found.passed,
    insertSeparator_artifact (not_isOption found.positional)]

theorem ArtifactAt.behind {front tokens before trailing : List String} {artifact : String}
    (passed : PassedOver front) (found : ArtifactAt tokens before artifact trailing) :
    ArtifactAt (front ++ tokens) (front ++ before) artifact trailing where
  whole := by rw [found.whole, List.append_assoc]
  passed := passed.append found.passed
  positional := found.positional

theorem artifact_or_unchanged (tokens : List String) :
    (∃ before artifact trailing, ArtifactAt tokens before artifact trailing) ∨
      insertSeparator tokens = tokens := by
  induction tokens using insertSeparator.induct with
  | case1 => exact Or.inr rfl
  | case2 rest => exact Or.inr (insertSeparator_separator rest)
  | case3 => exact Or.inr rfl
  | case4 path rest _ induction =>
      rcases induction with ⟨before, artifact, trailing, found⟩ | unchanged
      · have passed : PassedOver ["--config", path] := .configuration path .nil
        exact Or.inl ⟨_, artifact, trailing, found.behind passed⟩
      · exact Or.inr ((insertSeparator_configuration path rest).trans (by rw [unchanged]; rfl))
  | case5 token rest notSeparator notConfiguration option induction =>
      have isOption := (isOption_iff token).mp option
      rcases induction with ⟨before, artifact, trailing, found⟩ | unchanged
      · have passed : PassedOver [token] := .option isOption notSeparator notConfiguration .nil
        exact Or.inl ⟨_, artifact, trailing, found.behind passed⟩
      · rw [insertSeparator_option isOption notSeparator notConfiguration, unchanged]
        exact Or.inr rfl
  | case6 token rest _ _ positional =>
      have isPositional := fun option => positional ((isOption_iff token).mpr option)
      exact Or.inl ⟨[], token, rest, ⟨rfl, .nil, isPositional⟩⟩

/-! ## Reading what is passed over -/

namespace Progress

variable {progress : Progress}

/-- What is passed over is refused or read in one way, whatever stands behind it, and no
artifact is found in it. -/
theorem read_passedOver {before : List String} (passed : PassedOver before) :
    ∀ progress : Progress, progress.optionsEnded = false → progress.artifact = none →
      (∃ error, ∀ rest, progress.read (before ++ rest) = .error error) ∨
        ∃ next : Progress, next.optionsEnded = false ∧ next.artifact = none ∧
          ∀ rest, progress.read (before ++ rest) = next.read rest := by
  -- What is passed over only changes the progress, which is why any progress is allowed for.
  induction passed with
  | nil =>
      intro progress started unplaced
      exact Or.inr ⟨progress, started, unplaced, fun rest => rfl⟩
  | @option token _ option notSeparator notConfiguration _ induction =>
      intro progress started unplaced
      cases help : asksForHelp token with
      | true =>
          have reading := fun rest => read_help started help rest
          simp only [List.cons_append, reading]
          exact induction _ started unplaced
      | false =>
          have refused := read_refused started option help notSeparator notConfiguration
          exact Or.inl ⟨_, fun rest => refused _⟩
  | configuration path _ induction =>
      intro progress started unplaced
      simp only [List.cons_append, read_named started]
      cases progress.asksHelp with
      | true => exact Or.inl ⟨.optionBehindHelp, fun rest => rfl⟩
      | false =>
          cases given : progress.configuration with
          | some earlier =>
              refine Or.inl ⟨.repeatedValue path, fun rest => ?_⟩
              simp only [setConfiguration, given, Except.bind, Bool.false_eq_true, if_false]
          | none =>
              simp only [setConfiguration, given, Except.bind, Bool.false_eq_true, if_false]
              exact induction _ started unplaced

/-- Tokens that end the options are read behind an artifact as they are read behind a
separator. -/
theorem outcome_withoutSeparator (started : progress.optionsEnded = false)
    (found : progress.artifact.isSome) {trailing : List String} (ends : EndsOptions trailing) :
    progress.outcome ("--" :: withoutSeparator trailing) = progress.outcome trailing := by
  cases ends with
  | nothing =>
      rw [withoutSeparator, outcome_of_read (read_separator started _)]
      rfl
  | separator rest => rfl
  | @positional token rest positional silent =>
      have kept : withoutSeparator (token :: rest) = token :: rest := by
        apply if_neg
        intro isSeparator
        cases isSeparator
        exact positional rfl
      have help := not_asksForHelp positional silent
      have option := not_isOption positional
      rcases Option.isSome_iff_exists.mp found with ⟨artifact, named⟩
      rw [kept, outcome_of_read (read_separator started _), outcome_of_read (read_ended rfl _ _),
        outcome_of_read (read_positional started help option rest)]
      simp only [place, named]

end Progress

/-- Reading with a separator behind the artifact is reading without it, unless the artifact
asks for help or an option stands right behind it. -/
theorem parse_eq_parsePlain {tokens : List String}
    (unopposed :
      (∀ before artifact trailing, ¬ ArtifactAt tokens before artifact trailing) ∨
        ∃ before artifact trailing, ArtifactAt tokens before artifact trailing ∧
          artifact ≠ "help" ∧ EndsOptions trailing) :
    parse tokens = parsePlain tokens := by
  change Progress.outcome {} (insertSeparator tokens) = Progress.outcome {} tokens
  rcases unopposed with absent | ⟨before, artifact, trailing, found, silent, ends⟩
  · rcases artifact_or_unchanged tokens with ⟨before, artifact, trailing, found⟩ | unchanged
    · exact absurd found (absent before artifact trailing)
    · rw [unchanged]
  -- Up to the artifact both lists are the same, and are read or refused alike.
  rw [found.inserted, found.whole]
  rcases Progress.read_passedOver found.passed {} rfl rfl with
    ⟨error, refused⟩ | ⟨next, started, unplaced, reading⟩
  · rw [Progress.outcome, Progress.outcome, refused, refused]
  have placed : next.place artifact = { next with artifact := some artifact } := by
    rw [Progress.place, unplaced]
  have reached : ∀ rest, Progress.outcome {} (before ++ artifact :: rest) =
      Progress.outcome { next with artifact := some artifact } rest := by
    intro rest
    have help := not_asksForHelp found.positional silent
    have option := not_isOption found.positional
    rw [Progress.outcome_of_read (reading _),
      Progress.outcome_of_read (Progress.read_positional started help option rest), placed]
  rw [reached, reached]
  apply Progress.outcome_withoutSeparator
  · exact started
  · rfl
  · exact ends

theorem parse_eq_parsePlain_named : parse ["--config", "--help", "out", "x", "--", "-v"] =
    parsePlain ["--config", "--help", "out", "x", "--", "-v"] :=
  parse_eq_parsePlain (Or.inr ⟨["--config", "--help"], "out", ["x", "--", "-v"],
    ⟨rfl, .configuration "--help" .nil, by decide⟩, by decide,
    .positional ["--", "-v"] (by decide) (by decide)⟩)

/-! ## Stability -/

theorem PassedOver.unique {before otherBefore trailing otherTrailing : List String}
    {artifact other : String} (passed : PassedOver before) (otherPassed : PassedOver otherBefore)
    (positional : artifact.toList.head? ≠ some '-')
    (otherPositional : other.toList.head? ≠ some '-')
    (equal : before ++ artifact :: trailing = otherBefore ++ other :: otherTrailing) :
    before = otherBefore ∧ artifact = other ∧ trailing = otherTrailing := by
  -- Where the two lists differ in kind, one token would be an option and the artifact at once.
  induction passed generalizing otherBefore with
  | nil =>
      cases otherPassed with
      | nil =>
          cases equal
          exact ⟨rfl, rfl, rfl⟩
      | option isOption _ _ _ =>
          cases equal
          exact absurd isOption positional
      | configuration path _ =>
          cases equal
          exact absurd rfl positional
  | @option token rest isOption notSeparator notConfiguration _ induction =>
      cases otherPassed with
      | nil =>
          cases equal
          exact absurd isOption otherPositional
      | option _ _ _ otherPassed =>
          rcases List.cons.inj equal with ⟨rfl, behind⟩
          rcases induction otherPassed behind with ⟨rfl, same⟩
          exact ⟨rfl, same⟩
      | configuration path _ => exact absurd (List.cons.inj equal).1 notConfiguration
  | configuration path _ induction =>
      cases otherPassed with
      | nil =>
          cases equal
          exact absurd rfl otherPositional
      | option _ _ notConfiguration _ => exact absurd (List.cons.inj equal).1.symm notConfiguration
      | configuration otherPath otherPassed =>
          rcases List.cons.inj (List.cons.inj equal).2 with ⟨rfl, behind⟩
          rcases induction otherPassed behind with ⟨rfl, same⟩
          exact ⟨rfl, same⟩

theorem ArtifactAt.replaced {tokens before trailing : List String} {artifact : String}
    (found : ArtifactAt tokens before artifact trailing) (other : List String) :
    ArtifactAt (before ++ artifact :: other) before artifact other where
  whole := rfl
  passed := found.passed
  positional := found.positional

theorem ArtifactAt.followed {tokens before trailing : List String} {artifact : String}
    (found : ArtifactAt tokens before artifact trailing) :
    ArtifactAt (insertSeparator tokens) before artifact ("--" :: withoutSeparator trailing) := by
  rw [found.inserted]
  exact found.replaced _

theorem insertSeparator_twice (tokens : List String) :
    insertSeparator (insertSeparator tokens) = insertSeparator tokens := by
  rcases artifact_or_unchanged tokens with ⟨before, artifact, trailing, found⟩ | unchanged
  · have again := found.followed.inserted
    rw [again, found.inserted]
    rfl
  · rw [unchanged, unchanged]

structure IsStable (tokens : List String) : Prop where
  unique : ∀ before artifact trailing otherBefore other otherTrailing,
    ArtifactAt tokens before artifact trailing →
    ArtifactAt tokens otherBefore other otherTrailing →
      before = otherBefore ∧ artifact = other ∧ trailing = otherTrailing
  /-- The tokens are kept, and if anything is new, it is one separator right behind the
  artifact. -/
  kept : insertSeparator tokens = tokens ∨
    ∃ before artifact trailing, ArtifactAt tokens before artifact trailing ∧
      insertSeparator tokens = before ++ artifact :: "--" :: trailing
  repeated : insertSeparator (insertSeparator tokens) = insertSeparator tokens
  followed : ∀ before artifact trailing, ArtifactAt tokens before artifact trailing →
    ∃ rest, ArtifactAt (insertSeparator tokens) before artifact ("--" :: rest)
  /-- Whatever stands behind the artifact, the separator has the same place. It is put there
  unless it stands there. -/
  independent : ∀ before artifact trailing, ArtifactAt tokens before artifact trailing →
    ∀ other, insertSeparator (before ++ artifact :: other) =
      before ++ artifact :: if other.head? = some "--" then other else "--" :: other

theorem insertSeparator_isStable (tokens : List String) : IsStable tokens := by
  have independent : ∀ before artifact trailing, ArtifactAt tokens before artifact trailing →
      ∀ other, insertSeparator (before ++ artifact :: other) =
        before ++ artifact :: if other.head? = some "--" then other else "--" :: other := by
    intro before artifact trailing found other
    rw [(found.replaced other).inserted, ← separated_eq, separated, separator]
  exact {
    unique := by
      intro before artifact trailing otherBefore other otherTrailing found otherFound
      apply found.passed.unique otherFound.passed found.positional otherFound.positional
      rw [← found.whole, otherFound.whole]
    kept := by
      rcases artifact_or_unchanged tokens with ⟨before, artifact, trailing, found⟩ | unchanged
      · have inserted := independent before artifact trailing found trailing
        rw [← found.whole] at inserted
        split at inserted
        · exact Or.inl (inserted.trans found.whole.symm)
        · exact Or.inr ⟨before, artifact, trailing, found, inserted⟩
      · exact Or.inl unchanged
    repeated := insertSeparator_twice tokens
    followed := by
      intro before artifact trailing found
      exact ⟨withoutSeparator trailing, found.followed⟩
    independent := independent }

example : insertSeparator (insertSeparator ["--config", "--", "-x", "out", "x", "--"]) =
    ["--config", "--", "-x", "out", "--", "x", "--"] := by
  decide

end UploadRunner.Arguments
