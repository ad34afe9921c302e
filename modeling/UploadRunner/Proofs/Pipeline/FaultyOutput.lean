import Mathlib.Data.List.Basic
import Mathlib.Data.PNat.Defs
import UploadRunner.Pipeline.Run

/-! Runs on outputs that refuse something.

What a step announces is one text, whatever writes it is made of: an output takes as
much of it as it has room for. The steps before the first announcement that is not
taken and flushed are the ones that are run. -/

namespace UploadRunner

/-! ## Room -/

namespace Output

variable {output : Output} {first : Word}

theorem hasRoom_iff (output : Output) (word : Word) :
    output.hasRoom word = true ↔ ∀ limit ∈ output.room, word.length ≤ limit := by
  rw [hasRoom]
  cases output.room with
  | none => simp
  | some limit => simp

theorem accepted_of_hasRoom (fits : output.hasRoom first = true) :
    output.accepted first = first := by
  rw [hasRoom_iff] at fits
  rw [accepted]
  cases limited : output.room with
  | none => rfl
  | some limit => exact List.take_of_length_le (fits limit limited)

theorem hasRoom_append (fits : output.hasRoom first = true) (second : Word) :
    output.hasRoom (first ++ second) = (output.afterWrite first).hasRoom second := by
  rw [hasRoom_iff] at fits
  rw [Bool.eq_iff_iff, hasRoom_iff, hasRoom_iff, afterWrite]
  cases limited : output.room with
  | none => simp
  | some limit =>
      have bound := fits limit limited
      simp only [Option.map_some, Option.mem_def, Option.some.injEq, forall_eq',
        List.length_append]
      omega

theorem hasRoom_of_append {second : Word} (fits : output.hasRoom (first ++ second) = true) :
    output.hasRoom first = true := by
  rw [hasRoom_iff] at fits ⊢
  intro limit limited
  have bound := fits limit limited
  rw [List.length_append] at bound
  omega

theorem accepted_append (fits : output.hasRoom first = true) (second : Word) :
    output.accepted (first ++ second) = first ++ (output.afterWrite first).accepted second := by
  rw [hasRoom_iff] at fits
  rw [accepted, accepted, afterWrite]
  cases limited : output.room with
  | none => rfl
  | some limit =>
      have bound := fits limit limited
      simp only [Option.map_some, List.take_append, List.take_of_length_le bound]

theorem accepted_append_of_full (full : output.hasRoom first = false) (second : Word) :
    output.accepted (first ++ second) = output.accepted first := by
  rw [Bool.eq_false_iff, ne_eq, hasRoom_iff] at full
  rw [accepted, accepted]
  cases limited : output.room with
  | none => simp [limited] at full
  | some limit =>
      have bound : limit < first.length := by simpa [limited] using full
      exact List.take_append_of_le_length (Nat.le_of_lt bound)

theorem afterWrite_append (fits : output.hasRoom first = true) (second : Word) :
    output.afterWrite (first ++ second) = (output.afterWrite first).afterWrite second := by
  have taken := accepted_append fits second
  have all := accepted_of_hasRoom fits
  rw [afterWrite, taken]
  simp only [afterWrite, all, List.length_append, Option.map_map, Function.comp_def,
    Nat.sub_sub, Nat.add_assoc]

end Output

/-! ## Announcements -/

def Step.announcement (isVerbose : Bool) (step : Step) : Word :=
  announcementLine step.progress ++
    if isVerbose then announcementLine step.command.line else []

def Step.refusal (isVerbose : Bool) (output : Output) (step : Step) : Option Fault :=
  if output.hasRoom (announcementLine step.progress) = false then
    some ⟨.io output.refusal, [.writingProgress]⟩
  else if output.hasRoom (step.announcement isVerbose) = false then
    some ⟨.io output.refusal, [.writingCommand]⟩
  else if output.refusesFlush then some ⟨.io .flushRefused, [.flushingOutput]⟩
  else none

section

variable (step : Step) (isVerbose : Bool) (output : Output)

theorem announce_of_full (full : output.hasRoom (announcementLine step.progress) = false) :
    step.announce isVerbose output =
      { accepted := output.accepted (announcementLine step.progress)
        output := output.afterWrite (announcementLine step.progress)
        fault := some ⟨.io output.refusal, [.writingProgress]⟩ } := by
  cases isVerbose <;>
    simp [Step.announce, Writing.start, Writing.write, Writing.flush, full]

theorem announce_quiet (fits : output.hasRoom (announcementLine step.progress) = true) :
    step.announce false output =
      { accepted := output.accepted (announcementLine step.progress)
        output := (output.afterWrite (announcementLine step.progress)).afterFlush
        fault :=
          if output.refusesFlush then some ⟨.io .flushRefused, [.flushingOutput]⟩ else none } := by
  simp [Step.announce, Writing.start, Writing.write, Writing.flush, fits]
  rfl

theorem announce_verbose (fits : output.hasRoom (announcementLine step.progress) = true) :
    step.announce true output =
      Writing.flush
        { accepted := output.accepted (step.announcement true)
          output := output.afterWrite (step.announcement true)
          fault :=
            if output.hasRoom (step.announcement true) then none
            else some ⟨.io output.refusal, [.writingCommand]⟩ } := by
  simp only [Step.announce, Writing.start, Writing.write, fits, Step.announcement, if_true,
    Output.accepted_append fits, Output.hasRoom_append fits, Output.afterWrite_append fits,
    Output.accepted_of_hasRoom fits, List.nil_append]
  rfl

theorem announce_fault :
    (step.announce isVerbose output).fault = step.refusal isVerbose output := by
  rw [Step.refusal]
  cases fits : output.hasRoom (announcementLine step.progress) with
  | false => rw [announce_of_full step isVerbose output fits, if_pos rfl]
  | true =>
      rw [if_neg (by simp)]
      cases isVerbose with
      | false =>
          have quiet : step.announcement false = announcementLine step.progress :=
            List.append_nil _
          simp only [announce_quiet step output fits, quiet, fits, Bool.true_eq_false, if_false]
      | true =>
          rw [announce_verbose step output fits]
          cases room : output.hasRoom (step.announcement true) <;> simp [Writing.flush]
          rfl

theorem announce_accepted :
    (step.announce isVerbose output).accepted =
      output.accepted (step.announcement isVerbose) := by
  cases fits : output.hasRoom (announcementLine step.progress) with
  | false =>
      rw [announce_of_full step isVerbose output fits, Step.announcement,
        Output.accepted_append_of_full fits]
  | true =>
      cases isVerbose with
      | false =>
          have quiet : step.announcement false = announcementLine step.progress :=
            List.append_nil _
          rw [announce_quiet step output fits, quiet]
      | true =>
          rw [announce_verbose step output fits]
          cases room : output.hasRoom (step.announcement true) <;> rfl

theorem announce_output (fits : output.hasRoom (step.announcement isVerbose) = true) :
    (step.announce isVerbose output).output =
      (output.afterWrite (step.announcement isVerbose)).afterFlush := by
  have progressFits : output.hasRoom (announcementLine step.progress) = true :=
    Output.hasRoom_of_append fits
  cases isVerbose with
  | false =>
      have quiet : step.announcement false = announcementLine step.progress :=
        List.append_nil _
      rw [announce_quiet step output progressFits, quiet]
  | true => rw [announce_verbose step output progressFits, fits]; rfl

end

theorem refusal_eq_none_iff (isVerbose : Bool) (output : Output) (step : Step) :
    step.refusal isVerbose output = none ↔
      output.hasRoom (step.announcement isVerbose) = true ∧ output.refusesFlush = false := by
  rw [Step.refusal]
  constructor
  · intro granted
    split at granted
    · cases granted
    split at granted
    · cases granted
    split at granted
    · cases granted
    case isFalse fits kept => exact ⟨by simpa using fits, by simpa using kept⟩
  · rintro ⟨fits, kept⟩
    have progressFits : output.hasRoom (announcementLine step.progress) = true :=
      Output.hasRoom_of_append fits
    simp [fits, progressFits, kept]

/-! ## Steps of a run -/

def announcements (isVerbose : Bool) (steps : List Step) : Word :=
  steps.flatMap (Step.announcement isVerbose)

def Run.written (run : Run) : Word :=
  run.executions.flatMap Execution.printed ++ run.trailing

section

variable {State : Type} (runner : Runner State) (isVerbose : Bool)

theorem runSteps_refused {step : Step} {output : Output} {fault : Fault}
    (refused : step.refusal isVerbose output = some fault) (later : List Step) (state : State) :
    runSteps runner isVerbose (step :: later) output state =
      { executions := []
        trailing := output.accepted (step.announcement isVerbose)
        output := (step.announce isVerbose output).output
        records := []
        fault := some fault } := by
  rw [← announce_fault] at refused
  simp only [runSteps, refused, announce_accepted]

def Step.outputBehind (isVerbose : Bool) (output : Output) (step : Step) : Output :=
  (output.afterWrite (step.announcement isVerbose)).afterFlush

theorem runSteps_granted {step : Step} {output : Output}
    (granted : step.refusal isVerbose output = none) (later : List Step) (state : State) :
    runSteps runner isVerbose (step :: later) output state =
      (runSteps runner isVerbose later (step.outputBehind isVerbose output)
        (runner step.command state).2).preceded
        { printed := step.announcement isVerbose
          output := step.outputBehind isVerbose output
          step
          reply := (runner step.command state).1 } := by
  have fits := ((refusal_eq_none_iff isVerbose output step).mp granted).1
  rw [← announce_fault] at granted
  simp only [runSteps, granted, announce_accepted, announce_output step isVerbose output fits,
    Output.accepted_of_hasRoom fits, Step.outputBehind]

end

/-! ## Outputs of a run -/

theorem hasRoom_outputBehind {isVerbose : Bool} {output : Output} {step : Step}
    (granted : step.refusal isVerbose output = none) (word : Word) :
    (step.outputBehind isVerbose output).hasRoom word =
      output.hasRoom (step.announcement isVerbose ++ word) :=
  (Output.hasRoom_append ((refusal_eq_none_iff isVerbose output step).mp granted).1 word).symm

theorem accepted_outputBehind {isVerbose : Bool} {output : Output} {step : Step}
    (granted : step.refusal isVerbose output = none) (word : Word) :
    step.announcement isVerbose ++ (step.outputBehind isVerbose output).accepted word =
      output.accepted (step.announcement isVerbose ++ word) :=
  (Output.accepted_append ((refusal_eq_none_iff isVerbose output step).mp granted).1 word).symm

/-- Whether an output takes the announcements of the first steps and grants their
flushes. -/
def Output.Admits (output : Output) (isVerbose : Bool) (steps : List Step) (count : Nat) :
    Prop :=
  output.hasRoom (announcements isVerbose (steps.take count)) = true ∧
    ∀ refused ∈ output.refusedFlush,
      ¬ (output.flushes < refused ∧ refused ≤ output.flushes + count)

theorem admits_zero (output : Output) (isVerbose : Bool) (steps : List Step) :
    output.Admits isVerbose steps 0 := by
  refine ⟨?_, fun refused _ bounds => ?_⟩
  · rw [Output.hasRoom_iff]
    intro limit _
    exact Nat.zero_le limit
  · omega

theorem admits_succ (output : Output) (isVerbose : Bool) (step : Step) (later : List Step)
    (count : Nat) :
    output.Admits isVerbose (step :: later) (count + 1) ↔
      step.refusal isVerbose output = none ∧
        (step.outputBehind isVerbose output).Admits isVerbose later count := by
  have granted_iff := refusal_eq_none_iff isVerbose output step
  have flush_iff : output.refusesFlush = false ↔
      ∀ refused ∈ output.refusedFlush, refused ≠ output.flushes + 1 := by
    rw [Output.refusesFlush]
    cases output.refusedFlush <;> simp
  constructor
  · rintro ⟨fits, kept⟩
    have granted : step.refusal isVerbose output = none := by
      refine granted_iff.mpr ⟨Output.hasRoom_of_append fits, flush_iff.mpr ?_⟩
      intro refused isRefused equal
      exact kept refused isRefused (by omega)
    refine ⟨granted, ?_, ?_⟩
    · rw [hasRoom_outputBehind granted]
      exact fits
    · intro refused isRefused bounds
      change output.flushes + 1 < refused ∧ refused ≤ output.flushes + 1 + count at bounds
      exact kept refused isRefused (by omega)
  · rintro ⟨granted, fits, kept⟩
    rw [hasRoom_outputBehind granted] at fits
    refine ⟨fits, ?_⟩
    intro refused isRefused bounds
    have notNext := flush_iff.mp (granted_iff.mp granted).2 refused isRefused
    apply kept refused isRefused
    change output.flushes + 1 < refused ∧ refused ≤ output.flushes + 1 + count
    omega

section

variable {State : Type} (runner : Runner State) (isVerbose : Bool)

theorem le_executions_iff (steps : List Step) :
    ∀ (output : Output) (state : State) (count : Nat), count ≤ steps.length →
      (count ≤ (runSteps runner isVerbose steps output state).executions.length ↔
        output.Admits isVerbose steps count) := by
  induction steps with
  | nil =>
      intro output state count bound
      have none : count = 0 := Nat.le_zero.mp bound
      rw [none]
      exact iff_of_true (Nat.zero_le _) (admits_zero output isVerbose [])
  | cons step later induction =>
      intro output state count bound
      cases count with
      | zero => exact iff_of_true (Nat.zero_le _) (admits_zero output isVerbose _)
      | succ count =>
          rw [admits_succ]
          cases refused : step.refusal isVerbose output with
          | some fault =>
              rw [runSteps_refused runner isVerbose refused]
              simp
          | none =>
              rw [runSteps_granted runner isVerbose refused]
              have later := induction (step.outputBehind isVerbose output)
                (runner step.command state).2 count (Nat.le_of_succ_le_succ bound)
              simp [Run.preceded, later]

/-- A run writes what the output takes of the announcements up to the first step that is
not run. -/
theorem written_eq (steps : List Step) :
    ∀ (output : Output) (state : State),
      (runSteps runner isVerbose steps output state).written =
        output.accepted (announcements isVerbose (steps.take
          ((runSteps runner isVerbose steps output state).executions.length + 1))) := by
  induction steps with
  | nil =>
      intro output state
      exact (Output.accepted_of_hasRoom (admits_zero output isVerbose []).1).symm
  | cons step later induction =>
      intro output state
      cases refused : step.refusal isVerbose output with
      | some fault =>
          rw [runSteps_refused runner isVerbose refused]
          simp [Run.written, announcements]
      | none =>
          have induction := induction (step.outputBehind isVerbose output)
            (runner step.command state).2
          rw [runSteps_granted runner isVerbose refused]
          simp only [Run.preceded, Run.written, List.flatMap_cons, List.length_cons,
            List.take_succ_cons, announcements] at induction ⊢
          rw [List.append_assoc, induction, ← accepted_outputBehind refused]

theorem executions_step (steps : List Step) :
    ∀ (output : Output) (state : State),
      (runSteps runner isVerbose steps output state).executions.map Execution.step =
        steps.take (runSteps runner isVerbose steps output state).executions.length := by
  induction steps with
  | nil =>
      intro output state
      rfl
  | cons step later induction =>
      intro output state
      cases refused : step.refusal isVerbose output with
      | some fault =>
          rw [runSteps_refused runner isVerbose refused]
          rfl
      | none =>
          rw [runSteps_granted runner isVerbose refused]
          simp [Run.preceded, induction]

theorem execution_announced (steps : List Step) :
    ∀ (output : Output) (state : State) (index : Nat) (execution : Execution),
      (runSteps runner isVerbose steps output state).executions[index]? = some execution →
        execution.printed = execution.step.announcement isVerbose ∧
          execution.output.unflushed = 0 ∧
          execution.output.flushes = output.flushes + index + 1 := by
  induction steps with
  | nil =>
      intro output state index execution found
      cases found
  | cons step later induction =>
      intro output state index execution found
      cases refused : step.refusal isVerbose output with
      | some fault =>
          rw [runSteps_refused runner isVerbose refused] at found
          cases found
      | none =>
          rw [runSteps_granted runner isVerbose refused] at found
          have kept := ((refusal_eq_none_iff isVerbose output step).mp refused).2
          cases index with
          | zero =>
              cases found
              -- A flush that is granted leaves nothing behind it.
              refine ⟨rfl, ?_, rfl⟩
              exact if_neg (by
                change ¬ output.refusesFlush = true
                rw [kept]
                exact Bool.false_ne_true)
          | succ index =>
              rcases induction (step.outputBehind isVerbose output) (runner step.command state).2
                index execution found with ⟨printed, flushed, count⟩
              refine ⟨printed, flushed, ?_⟩
              change execution.output.flushes = output.flushes + 1 + index + 1 at count
              omega

def Runner.replies : List Command → State → List Reply
  | [], _ => []
  | command :: later, state =>
      (runner command state).1 :: Runner.replies later (runner command state).2

theorem executions_reply (steps : List Step) :
    ∀ (output : Output) (state : State),
      (runSteps runner isVerbose steps output state).executions.map Execution.reply =
        runner.replies ((steps.take
          (runSteps runner isVerbose steps output state).executions.length).map Step.command)
          state := by
  induction steps with
  | nil =>
      intro output state
      rfl
  | cons step later induction =>
      intro output state
      cases refused : step.refusal isVerbose output with
      | some fault =>
          rw [runSteps_refused runner isVerbose refused]
          rfl
      | none =>
          rw [runSteps_granted runner isVerbose refused]
          simp [Run.preceded, induction, Runner.replies]

theorem executions_handed (steps : List Step) (output : Output) (state : State) :
    (runSteps runner isVerbose steps output state).executions.map Execution.reply =
      runner.replies ((runSteps runner isVerbose steps output state).executions.map
        fun execution => execution.step.command) state := by
  have commands := congrArg (List.map Step.command)
    (executions_step runner isVerbose steps output state)
  rw [List.map_map] at commands
  rw [executions_reply, ← commands]
  rfl

theorem reply_of_handed {executions : List Execution} :
    ∀ {state : State},
      executions.map Execution.reply =
        runner.replies (executions.map fun execution => execution.step.command) state →
      ∀ execution ∈ executions,
        ∃ left, execution.reply = (runner execution.step.command left).1 := by
  induction executions with
  | nil =>
      intro state _ execution member
      cases member
  | cons first later induction =>
      intro state replied execution member
      rw [List.map_cons, List.map_cons, Runner.replies, List.cons.injEq] at replied
      rcases List.mem_cons.mp member with rfl | isLater
      · exact ⟨state, replied.1⟩
      · exact induction replied.2 execution isLater

/-- Why a run ends before a step: whether it has the room for the text that announces the
steps before, for a line more, and for another line more. -/
theorem fault_eq (steps : List Step) :
    ∀ (output : Output) (state : State),
      let count := (runSteps runner isVerbose steps output state).executions.length
      (runSteps runner isVerbose steps output state).fault =
        (steps[count]?).map fun step =>
          if output.hasRoom (announcements isVerbose (steps.take count) ++
              announcementLine step.progress) = false then
            ⟨.io output.refusal, [.writingProgress]⟩
          else if output.hasRoom (announcements isVerbose (steps.take (count + 1))) = false then
            ⟨.io output.refusal, [.writingCommand]⟩
          else ⟨.io .flushRefused, [.flushingOutput]⟩ := by
  induction steps with
  | nil =>
      intro output state
      rfl
  | cons step later induction =>
      intro output state
      cases refused : step.refusal isVerbose output with
      | some fault =>
          have first : announcements isVerbose ((step :: later).take (0 + 1)) =
              step.announcement isVerbose := by
            simp [announcements]
          have nothing : announcements isVerbose ((step :: later).take 0) = [] := rfl
          rw [runSteps_refused runner isVerbose refused]
          simp only [List.length_nil, List.getElem?_cons_zero, Option.map_some, first, nothing,
            List.nil_append]
          -- The reasons are looked for in the order in which an announcement meets them.
          rw [Step.refusal] at refused
          rw [← refused]
          split
          · rfl
          case isFalse progressFits =>
            split
            · rfl
            case isFalse fits =>
              split
              · rfl
              case isFalse kept =>
                rw [if_neg progressFits, if_neg fits, if_neg kept] at refused
                cases refused
      | none =>
          have induction := induction (step.outputBehind isVerbose output)
            (runner step.command state).2
          rw [runSteps_granted runner isVerbose refused]
          simp only [Run.preceded, List.length_cons, List.getElem?_cons_succ, List.take_succ_cons,
            announcements, List.flatMap_cons, List.append_assoc] at induction ⊢
          rw [induction]
          simp only [hasRoom_outputBehind refused]
          rfl

end

/-! ## Whole runs -/

def Fits (room : Option Nat) (word : Word) : Prop :=
  ∀ limit ∈ room, word.length ≤ limit

def upTo (room : Option Nat) (word : Word) : Word :=
  match room with
  | none => word
  | some limit => word.take limit

theorem Fits.take {room : Option Nat} {isVerbose : Bool} {steps : List Step}
    {fewer more : Nat} (fits : Fits room (announcements isVerbose (steps.take more)))
    (order : fewer ≤ more) : Fits room (announcements isVerbose (steps.take fewer)) := by
  intro limit limited
  have split : steps.take more = steps.take fewer ++ (steps.take more).drop fewer := by
    have parts := List.take_append_drop fewer (steps.take more)
    rw [List.take_take, Nat.min_eq_left order] at parts
    exact parts.symm
  have bound := fits limit limited
  rw [split, announcements, List.flatMap_append, List.length_append] at bound
  exact Nat.le_trans (Nat.le_add_right _ _) bound

/-- What a run on an output does that accepts `room` bytes in all, or any number if there
is no limit, and that refuses the flush with a number, counted from one, or none. Below,
the announcements of the first steps are the texts of their progress, and of their commands
if asked for, each with a line end. -/
structure Run.IsOn {State : Type} (runner : Runner State) (isVerbose : Bool)
    (steps : List Step) (state : State) (room : Option Nat) (refusal : IoFault)
    (refusedFlush : Option ℕ+) (run : Run) : Prop where
  /-- A step is run exactly if all announcements up to its own fit and no flush up to its
  own is refused. -/
  reached : ∀ number, 0 < number → number ≤ steps.length →
    (number ≤ run.executions.length ↔
      Fits room (announcements isVerbose (steps.take number)) ∧
        ∀ refused ∈ refusedFlush, number < refused)
  executed : run.executions.map Execution.step = steps.take run.executions.length
  replied : run.executions.map Execution.reply =
    runner.replies ((steps.take run.executions.length).map Step.command) state
  /-- Before a command runs, the announcements up to its own have been accepted, and a flush
  of all of it has succeeded. -/
  announced : ∀ index execution, run.executions[index]? = some execution →
    (run.executions.take (index + 1)).flatMap Execution.printed =
        announcements isVerbose (steps.take (index + 1)) ∧
      execution.output.unflushed = 0 ∧ execution.output.flushes = index + 1
  written_refused : ∀ refused ∈ refusedFlush, (refused : Nat) ≤ steps.length →
    Fits room (announcements isVerbose (steps.take refused)) →
      run.written = announcements isVerbose (steps.take refused)
  written_limited :
    (∀ refused ∈ refusedFlush, (refused : Nat) ≤ steps.length →
      ¬ Fits room (announcements isVerbose (steps.take refused))) →
      run.written = upTo room (announcements isVerbose steps)
  fails_iff : (∃ fault, run.result = .error fault) ↔ run.executions.length < steps.length
  /-- The messages of the failure, the outermost first, tell what could not be written or
  flushed of the first step that is not run. -/
  failure : ∀ step fault, steps[run.executions.length]? = some step →
    run.result = .error fault →
      (¬ Fits room (announcements isVerbose (steps.take run.executions.length) ++
          announcementLine step.progress) ∧
        fault.chain = ["Failed to write progress.", refusal.message]) ∨
      (Fits room (announcements isVerbose (steps.take run.executions.length) ++
          announcementLine step.progress) ∧
        ¬ Fits room (announcements isVerbose (steps.take (run.executions.length + 1))) ∧
        fault.chain = ["Failed to write command.", refusal.message]) ∨
      (Fits room (announcements isVerbose (steps.take (run.executions.length + 1))) ∧
        refusedFlush.map PNat.val = some (run.executions.length + 1) ∧
        fault.chain = ["Failed to flush output.", "flush refused"])

def Output.fresh (room : Option Nat) (refusal : IoFault) (refusedFlush : Option ℕ+) : Output where
  room := room
  refusal := refusal
  refusedFlush := refusedFlush.map PNat.val

section

variable {State : Type} (runner : Runner State) (isVerbose : Bool) (steps : List Step)
  (state : State) (room : Option Nat) (refusal : IoFault) (refusedFlush : Option ℕ+)

theorem fresh_full_iff (word : Word) :
    (Output.fresh room refusal refusedFlush).hasRoom word = false ↔ ¬ Fits room word := by
  rw [Bool.eq_false_iff, ne_eq, Output.hasRoom_iff]
  rfl

theorem fresh_admits_iff (count : Nat) :
    (Output.fresh room refusal refusedFlush).Admits isVerbose steps count ↔
      Fits room (announcements isVerbose (steps.take count)) ∧
        ∀ refused ∈ refusedFlush, count < refused := by
  rw [Output.Admits, Output.hasRoom_iff]
  refine and_congr Iff.rfl ?_
  cases refusedFlush with
  | none => simp [Output.fresh]
  | some refused =>
      have positive : 0 < (refused : Nat) := refused.pos
      simp only [Output.fresh, Option.map_some, Option.mem_def, Option.some.injEq, forall_eq']
      omega

theorem executions_printed (output : Output) (count : Nat) :
    ((runSteps runner isVerbose steps output state).executions.take count).flatMap
        Execution.printed =
      announcements isVerbose ((steps.take
        (runSteps runner isVerbose steps output state).executions.length).take count) := by
  rw [← executions_step, ← List.map_take, announcements, List.flatMap_map]
  apply List.flatMap_congr
  intro execution member
  rcases List.mem_iff_getElem?.mp (List.mem_of_mem_take member) with ⟨index, found⟩
  exact (execution_announced runner isVerbose steps output state index execution found).1

theorem reached_iff {number : Nat} (bound : number ≤ steps.length) :
    number ≤ (runSteps runner isVerbose steps (.fresh room refusal refusedFlush)
        state).executions.length ↔
      Fits room (announcements isVerbose (steps.take number)) ∧
        ∀ refused ∈ refusedFlush, number < refused := by
  rw [le_executions_iff runner isVerbose steps _ state number bound, fresh_admits_iff]

/-- The flush that ends a run is the one behind the announcement of the first step that
is not run. -/
theorem refused_eq {refused : ℕ+} (isRefused : refused ∈ refusedFlush)
    (bound : (refused : Nat) ≤ steps.length)
    (fits : Fits room (announcements isVerbose (steps.take refused))) :
    (runSteps runner isVerbose steps (.fresh room refusal refusedFlush)
      state).executions.length + 1 = refused := by
  have positive : 0 < (refused : Nat) := refused.pos
  have notReached : ¬ (refused : Nat) ≤ (runSteps runner isVerbose steps
      (.fresh room refusal refusedFlush) state).executions.length := by
    rw [reached_iff runner isVerbose steps state room refusal refusedFlush bound]
    rintro ⟨_, kept⟩
    exact Nat.lt_irrefl _ (kept refused isRefused)
  -- All flushes before it are granted, since only one is ever refused.
  have reachedBefore : (refused : Nat) - 1 ≤ (runSteps runner isVerbose steps
      (.fresh room refusal refusedFlush) state).executions.length := by
    rw [reached_iff runner isVerbose steps state room refusal refusedFlush (by omega)]
    refine ⟨fits.take (by omega), fun other isOther => ?_⟩
    have same : other = refused := Option.mem_unique isOther isRefused
    rw [same]
    omega
  omega

theorem full_of_unreached
    (unrefused : ∀ refused ∈ refusedFlush, (refused : Nat) ≤ steps.length →
      ¬ Fits room (announcements isVerbose (steps.take refused)))
    (unreached : (runSteps runner isVerbose steps (.fresh room refusal refusedFlush)
      state).executions.length < steps.length) :
    ¬ Fits room (announcements isVerbose (steps.take ((runSteps runner isVerbose steps
      (.fresh room refusal refusedFlush) state).executions.length + 1))) := by
  intro fits
  have next := reached_iff runner isVerbose steps state room refusal refusedFlush unreached
  have kept : ∀ refused ∈ refusedFlush, (runSteps runner isVerbose steps
      (.fresh room refusal refusedFlush) state).executions.length + 1 < (refused : Nat) := by
    intro refused isRefused
    apply Nat.lt_of_not_le
    intro order
    exact unrefused refused isRefused (by omega) (fits.take order)
  have impossible := next.mpr ⟨fits, kept⟩
  omega

theorem refused_next
    (unreached : (runSteps runner isVerbose steps (.fresh room refusal refusedFlush)
      state).executions.length < steps.length)
    (fits : Fits room (announcements isVerbose (steps.take ((runSteps runner isVerbose steps
      (.fresh room refusal refusedFlush) state).executions.length + 1)))) :
    refusedFlush.map PNat.val = some ((runSteps runner isVerbose steps
      (.fresh room refusal refusedFlush) state).executions.length + 1) := by
  by_contra other
  refine full_of_unreached runner isVerbose steps state room refusal refusedFlush ?_ unreached fits
  intro refused isRefused bound refusedFits
  apply other
  rw [refused_eq runner isVerbose steps state room refusal refusedFlush isRefused bound
    refusedFits, Option.mem_def.mp isRefused]
  rfl

theorem written_of_unrefused
    (unrefused : ∀ refused ∈ refusedFlush, (refused : Nat) ≤ steps.length →
      ¬ Fits room (announcements isVerbose (steps.take refused))) :
    (runSteps runner isVerbose steps (.fresh room refusal refusedFlush) state).written =
      upTo room (announcements isVerbose steps) := by
  have all : (Output.fresh room refusal refusedFlush).accepted (announcements isVerbose steps) =
      upTo room (announcements isVerbose steps) := rfl
  rw [← all, written_eq runner isVerbose steps (.fresh room refusal refusedFlush) state]
  by_cases unreached : (runSteps runner isVerbose steps (.fresh room refusal refusedFlush)
      state).executions.length < steps.length
  · have full := full_of_unreached runner isVerbose steps state room refusal refusedFlush
      unrefused unreached
    have noRoom := (fresh_full_iff room refusal refusedFlush _).mpr full
    have cut := Output.accepted_append_of_full noRoom (announcements isVerbose
      (steps.drop ((runSteps runner isVerbose steps (.fresh room refusal refusedFlush)
        state).executions.length + 1)))
    rw [← cut, announcements, announcements, announcements, ← List.flatMap_append,
      List.take_append_drop]
  · rw [List.take_of_length_le (by omega)]

theorem result_error_iff (run : Run) :
    (∃ fault, run.result = .error fault) ↔ run.fault.isSome := by
  rw [Run.result]
  cases run.fault <;> simp [resultOf]

theorem runSteps_isOn :
    Run.IsOn runner isVerbose steps state room refusal refusedFlush
      (runSteps runner isVerbose steps (.fresh room refusal refusedFlush) state) where
  reached := fun number _ bound =>
    reached_iff runner isVerbose steps state room refusal refusedFlush bound
  executed := executions_step runner isVerbose steps _ state
  replied := executions_reply runner isVerbose steps _ state
  announced := by
    intro index execution found
    rcases execution_announced runner isVerbose steps _ state index execution found with
      ⟨_, flushed, count⟩
    have inRange : index < (runSteps runner isVerbose steps (.fresh room refusal refusedFlush)
        state).executions.length := (List.getElem?_eq_some_iff.mp found).1
    refine ⟨?_, flushed, ?_⟩
    · rw [executions_printed, List.take_take, Nat.min_eq_left inRange]
    · change execution.output.flushes = 0 + index + 1 at count
      omega
  written_refused := by
    intro refused isRefused bound fits
    have last := refused_eq runner isVerbose steps state room refusal refusedFlush isRefused
      bound fits
    rw [written_eq, last]
    exact Output.accepted_of_hasRoom ((Output.hasRoom_iff _ _).mpr fits)
  written_limited := written_of_unrefused runner isVerbose steps state room refusal refusedFlush
  fails_iff := by
    rw [result_error_iff, fault_eq]
    simp
  failure := by
    intro step fault first failed
    have cause := fault_eq runner isVerbose steps (.fresh room refusal refusedFlush) state
    simp only [first, Option.map_some] at cause
    rw [Run.result, cause] at failed
    cases failed
    split
    case isTrue full => exact Or.inl ⟨(fresh_full_iff _ _ _ _).mp full, rfl⟩
    case isFalse progressFits =>
      rw [fresh_full_iff, not_not] at progressFits
      split
      case isTrue full =>
        exact Or.inr (Or.inl ⟨progressFits, (fresh_full_iff _ _ _ _).mp full, rfl⟩)
      case isFalse fits =>
        rw [fresh_full_iff, not_not] at fits
        refine Or.inr (Or.inr ⟨fits, ?_, rfl⟩)
        exact refused_next runner isVerbose steps state room refusal refusedFlush
          (List.getElem?_eq_some_iff.mp first).1 fits

end

end UploadRunner
