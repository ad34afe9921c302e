import UploadRunner.Host.Basic
import UploadRunner.Proofs.Arguments.CommandLines
import UploadRunner.Proofs.Invocation.Readings
import UploadRunner.Proofs.Pipeline.OpenOutput

/-! The tokens behind the artifact.

They decide whether commands are shown and nothing else. Two invocations that differ only
there run the same commands, log the same and end with the same status, whether or not
their configuration can be used. -/

namespace UploadRunner

def Arguments.showsCommands (trailing : List String) : Bool :=
  (withoutSeparator trailing).head? = some "-v"

namespace Invocation

/-- An invocation that may name a configuration file, then names an artifact, and goes on. -/
def withTrailing (program : Word) (configuration : Option String) (artifact : String)
    (trailing : List String) : Invocation where
  program
  arguments :=
    (Arguments.configurationTokens configuration ++ artifact :: trailing).map Word.ofString

/-! ## Sessions with and without commands -/

/-- Two sessions that do the same and tell of it the same, but for the commands that each of
them shows or does not. -/
structure Corresponds (firstShows secondShows : Bool) (first second : Session) : Prop where
  status : first.status = second.status
  remarks : first.remarks = second.remarks
  exchanges : first.executions.map Execution.exchange =
    second.executions.map Execution.exchange
  first_output : first.output = first.executions.flatMap fun execution =>
    execution.step.announcement firstShows ++ execution.reply.shown
  second_output : second.output = second.executions.flatMap fun execution =>
    execution.step.announcement secondShows ++ execution.reply.shown

section

variable {State : Type} (machine : Machine State) (request : Text)

theorem configured_corresponds (configuration : Option String) (artifact : String)
    (chosen : Configuration) (first second : List String) :
    Corresponds (Arguments.isVerbose ⟨configuration, artifact, first⟩)
      (Arguments.isVerbose ⟨configuration, artifact, second⟩)
      (configured machine .unlimited request ⟨configuration, artifact, first⟩ chosen)
      (configured machine .unlimited request ⟨configuration, artifact, second⟩ chosen) := by
  have exchanged := unlimited_exchanges (machine.runner request)
    (Pipeline.steps (Word.ofString artifact) chosen) (machine.stateBehind configuration)
    (Arguments.isVerbose ⟨configuration, artifact, first⟩)
    (Arguments.isVerbose ⟨configuration, artifact, second⟩)
  have ended := unlimited_result_eq (machine.runner request)
    (Pipeline.steps (Word.ofString artifact) chosen) (machine.stateBehind configuration)
    (Arguments.isVerbose ⟨configuration, artifact, first⟩)
    (Arguments.isVerbose ⟨configuration, artifact, second⟩)
  constructor
  case status => simp only [configured, ended]
  case remarks =>
    have told := flatMap_congr_exchange
      (fun exchange => Execution.remarks ⟨[], {}, exchange.1, exchange.2⟩) exchanged
    simp only [configured, ended]
    exact congrArg (_ ++ · ++ _) told
  case exchanges => exact exchanged
  case first_output => exact unlimited_transcript _ _ _ _
  case second_output => exact unlimited_transcript _ _ _ _

theorem session_corresponds (configuration : Option String) (artifact : String)
    (first second : List String) :
    Corresponds (Arguments.isVerbose ⟨configuration, artifact, first⟩)
      (Arguments.isVerbose ⟨configuration, artifact, second⟩)
      (session machine .unlimited request ⟨configuration, artifact, first⟩)
      (session machine .unlimited request ⟨configuration, artifact, second⟩) := by
  -- The configuration is chosen without a look at the flags.
  cases chosen : Invocation.configuration machine.content ⟨configuration, artifact, first⟩ with
  | error fault =>
      have alsoFailed : Invocation.configuration machine.content
          ⟨configuration, artifact, second⟩ = .error fault := chosen
      rw [session_of_fault machine .unlimited request chosen,
        session_of_fault machine .unlimited request alsoFailed]
      exact ⟨rfl, rfl, rfl, rfl, rfl⟩
  | ok found =>
      have alsoChosen : Invocation.configuration machine.content
          ⟨configuration, artifact, second⟩ = .ok found := chosen
      rw [session_of_configuration machine .unlimited request chosen,
        session_of_configuration machine .unlimited request alsoChosen]
      exact configured_corresponds machine request configuration artifact found first second

/-! ## What can be told apart -/

/-- How two invocations compare of which one goes on with `first` behind the artifact, and the
other with `second`. -/
structure DifferInPrinting (first second : List String) (firstSeen secondSeen : Appearance) :
    Prop where
  status : firstSeen.status = secondSeen.status
  errors : firstSeen.errors = secondSeen.errors
  executions : firstSeen.executions.map Execution.exchange =
    secondSeen.executions.map Execution.exchange
  alike : Arguments.showsCommands first = Arguments.showsCommands second →
    firstSeen.output = secondSeen.output
  /-- Where only one of them shows commands, these stand behind the progress of their steps
  and before what is shown by their tools. -/
  unlike : Arguments.showsCommands first = true → Arguments.showsCommands second = false →
    firstSeen.output = (secondSeen.executions.flatMap fun execution =>
        announcementLine execution.step.progress ++
          announcementLine execution.step.command.line ++ execution.reply.shown) ∧
      secondSeen.output = secondSeen.executions.flatMap fun execution =>
        announcementLine execution.step.progress ++ execution.reply.shown

theorem refused_differInPrinting (first second : List String) (message : String) :
    DifferInPrinting first second (refused message) (refused message) :=
  ⟨rfl, rfl, rfl, fun _ => rfl, fun _ _ => ⟨rfl, rfl⟩⟩

theorem Corresponds.differInPrinting {first second : List String}
    {firstSession secondSession : Session}
    (corresponds : Corresponds (Arguments.showsCommands first) (Arguments.showsCommands second)
      firstSession secondSession) :
    DifferInPrinting first second (firstSession.appearance request)
      (secondSession.appearance request) := by
  -- The first output, told of the executions of the second session.
  have written : firstSession.output = secondSession.executions.flatMap fun execution =>
      execution.step.announcement (Arguments.showsCommands first) ++ execution.reply.shown :=
    corresponds.first_output.trans (flatMap_congr_exchange
      (fun exchange => exchange.1.announcement (Arguments.showsCommands first) ++ exchange.2.shown)
      corresponds.exchanges)
  constructor
  case status => exact corresponds.status
  case errors => exact congrArg (Log.writtenUnder request) corresponds.remarks
  case executions => exact corresponds.exchanges
  case alike =>
    intro same
    rw [Session.appearance, Session.appearance, written, corresponds.second_output, same]
  case unlike =>
    intro shows hides
    rw [Session.appearance, Session.appearance, written, corresponds.second_output, shows, hides]
    simp only [Step.announcement, if_true, Bool.false_eq_true, if_false, List.append_nil,
      and_self]

theorem withTrailing_differInPrinting (program : Word) (configuration : Option String)
    {artifact : String} (positional : artifact.toList.head? ≠ some '-')
    (silent : artifact ≠ "help") (first second : List String) :
    DifferInPrinting first second
      (perform machine .unlimited request
        (withTrailing program configuration artifact first))
      (perform machine .unlimited request
        (withTrailing program configuration artifact second)) := by
  cases named : string program with
  | error word =>
      have refusal : ∀ trailing,
          perform machine .unlimited request
              (withTrailing program configuration artifact trailing) =
            refused ("Invalid utf8: " ++ String.ofList (Word.lossy word) ++ "\n") := by
        intro trailing
        simp only [perform, strings, withTrailing, named]
      rw [refusal first, refusal second]
      exact refused_differInPrinting first second _
  | ok path =>
      have accepts : ∀ trailing,
          (withTrailing program configuration artifact trailing).Accepts
            ⟨configuration, artifact, Arguments.withoutSeparator trailing⟩ :=
        fun trailing =>
          ⟨path, Arguments.configurationTokens configuration ++ artifact :: trailing,
            ⟨(string_eq_ok_iff program path).mp named, rfl⟩,
            Arguments.parse_artifact configuration positional silent trailing⟩
      rw [perform_of_accepts machine .unlimited request (accepts first),
        perform_of_accepts machine .unlimited request (accepts second)]
      exact (session_corresponds machine request configuration artifact _ _).differInPrinting
        request

end

def failingHost : Host where
  files := Files.adding {} (Word.ofString "c.json") (.file (Word.ofString "\x7b\x7d"))
  tools := [(Word.ofString "pros", { ending := .exits 3 })]

theorem failingHost_differInPrinting :
    let seen := fun trailing => perform failingHost.machine .unlimited []
      (withTrailing (Word.ofString "pros-runner") (some "c.json") "out.elf" trailing)
    "out.elf".toList.head? ≠ some '-' ∧ "out.elf" ≠ "help" ∧
      (seen ["--config", "--help"]).status = 3 ∧
      DifferInPrinting ["--", "-v", "-v"] ["--config", "--help"]
        (seen ["--", "-v", "-v"]) (seen ["--config", "--help"]) :=
  ⟨by decide, by decide, by decide +kernel,
    withTrailing_differInPrinting failingHost.machine [] _ (some "c.json") (by decide) (by decide)
      _ _⟩

end Invocation

end UploadRunner
