import UploadRunner.Host.Basic
import UploadRunner.Proofs.Pipeline.FaultyOutput
import UploadRunner.Proofs.Text.Separated

/-! The standard input that tools share.

Tools take its lines in the order in which they are started. Nothing else takes any of it but a
configuration that is read from it, so that what a tool reads hangs only on how many tools have
read before. -/

namespace UploadRunner

namespace Tool

/-! ## Lines -/

/-- The lines of an input. What follows the last line feed is none. -/
def lines (input : Word) : List Word :=
  (separatedBy lineFeed input).dropLast

example : lines (Word.ofString "one\n\nthree") = [Word.ofString "one", []] := by
  decide +kernel

section

variable {line : Word} (whole : lineFeed ∉ line)

include whole

theorem lines_of_notMem : lines line = [] := by
  rw [lines, separatedBy_of_notMem whole, List.dropLast_singleton]

theorem lines_append (rest : Word) : lines (line ++ lineFeed :: rest) = line :: lines rest := by
  rw [lines, separatedBy_append, separatedBy_of_notMem whole, List.singleton_append,
    List.dropLast_cons_of_ne_nil (separatedBy_ne_nil lineFeed rest), lines]

theorem takeLine_of_notMem : takeLine line = (none, []) := by
  rw [takeLine, if_neg (by simpa using whole)]

theorem takeLine_append (rest : Word) :
    takeLine (line ++ lineFeed :: rest) = (some line, rest) := by
  have passed : ∀ byte ∈ line, decide (byte ≠ lineFeed) = true := by
    intro byte member
    exact decide_eq_true fun isEnd => whole (isEnd ▸ member)
  rw [takeLine, if_pos (by simp), List.takeWhile_append_of_pos passed,
    List.dropWhile_append_of_pos passed]
  simp

end

theorem takeLine_lines (input : Word) :
    (takeLine input).1 = (lines input).head? ∧ lines (takeLine input).2 = (lines input).tail := by
  by_cases ended : lineFeed ∈ input
  · rcases List.eq_append_cons_of_mem ended with ⟨line, rest, rfl, whole⟩
    rw [takeLine_append whole, lines_append whole]
    exact ⟨rfl, rfl⟩
  · rw [takeLine_of_notMem ended, lines_of_notMem ended]
    exact ⟨rfl, rfl⟩

theorem run_line (tool : Tool) (command : Command) (input : Word) :
    (tool.run command input).1 =
      tool.act command (if tool.readsLine then (lines input).head? else none) := by
  rw [run, ← (takeLine_lines input).1]
  cases tool.readsLine with
  | true => rfl
  | false => rfl

theorem lines_run (tool : Tool) (command : Command) (input : Word) :
    lines (tool.run command input).2 =
      if tool.readsLine then (lines input).tail else lines input := by
  rw [run, ← (takeLine_lines input).2]
  cases tool.readsLine with
  | true => rfl
  | false => rfl

end Tool

/-! ## Attempts -/

namespace Machine

variable {State : Type} (machine : Machine State) (request : Text)

theorem prepared_of_canStart {command : Command} (canStart : command.canStart = true) :
    command.prepared = command := by
  have passable : ∀ word ∈ command.words, Command.passed word = word := by
    intro word member
    exact if_pos (List.all_eq_true.mp canStart word member)
  rw [Command.prepared, passable _ List.mem_cons_self, List.map_congr_left
    fun word member => passable word (List.mem_cons_of_mem _ member), List.map_id']

theorem runner_reply (command : Command) (state : State) :
    (machine.runner request command state).1 =
      (machine.attempt request command state).1.reply command := rfl

theorem runner_cases (command : Command) (state : State) :
    (∃ fault, (machine.runner request command state).1 = (Attempt.notStarted fault).reply command) ∨
      command.prepared = command ∧
        (machine.runner request command state).1 =
          (machine.start request command state).1.reply command := by
  rw [runner, attempt]
  cases canStart : command.canStart with
  | true => exact Or.inr ⟨prepared_of_canStart canStart, rfl⟩
  | false => exact Or.inl ⟨_, rfl⟩

/-! ## Lines -/

/-- How the commands of a machine use an input that they share: some of their tools take a line of
what is left of it, and reading a file leaves it alone unless the path leads to the input. -/
structure LineInput where
  left : State → Word
  isInput : Word → Bool
  reads : Command → Bool
  act : Command → Option Word → Attempt
  attempt_eq : ∀ command state, (machine.attempt request command state).1 =
    act command (if reads command then (Tool.lines (left state)).head? else none)
  lines_attempt : ∀ command state, Tool.lines (left (machine.attempt request command state).2) =
    if reads command then (Tool.lines (left state)).tail else Tool.lines (left state)
  left_read : ∀ path state, isInput path = false → left (machine.read path state).2 = left state
  used_up : ∀ path state, isInput path = true → left (machine.read path state).2 = []

variable {machine request}

namespace LineInput

variable (input : machine.LineInput request)

theorem runner_eq (command : Command) (state : State) :
    (machine.runner request command state).1 =
      (input.act command
        (if input.reads command then (Tool.lines (input.left state)).head? else none)).reply
          command := by
  rw [← input.attempt_eq]
  rfl

theorem lines_runner (command : Command) (state : State) :
    Tool.lines (input.left (machine.runner request command state).2) =
      if input.reads command then (Tool.lines (input.left state)).tail
      else Tool.lines (input.left state) :=
  input.lines_attempt command state

/-- The commands whose tools read a line are given one line each, in order. -/
theorem replies_lines {executions : List Execution} :
    ∀ {state : State} {index : Nat} {execution : Execution},
      executions.map Execution.reply =
        (machine.runner request).replies (executions.map (·.step.command)) state →
      (executions.filter fun execution => input.reads execution.step.command)[index]? =
        some execution →
      execution.reply = (input.act execution.step.command
        (Tool.lines (input.left state))[index]?).reply execution.step.command := by
  -- The index counts only the tools that read, and only these move the input on.
  induction executions with
  | nil =>
      intro state index execution _ found
      cases found
  | cons first later induction =>
      intro state index execution replied found
      rw [List.map_cons, List.map_cons, Runner.replies, List.cons.injEq] at replied
      rcases replied with ⟨answer, others⟩
      have left := input.lines_runner first.step.command state
      cases reads : input.reads first.step.command with
      | false =>
          rw [reads, if_neg Bool.false_ne_true] at left
          simp only [List.filter_cons, reads, Bool.false_eq_true, if_false] at found
          rw [← left]
          exact induction others found
      | true =>
          rw [reads, if_pos rfl] at left
          simp only [List.filter_cons, reads, if_true] at found
          cases index with
          | zero =>
              cases found
              rw [answer, input.runner_eq, reads, if_pos rfl, List.head?_eq_getElem?]
          | succ index =>
              have behind := induction others found
              rw [left, List.getElem?_tail] at behind
              exact behind

/-- Behind the loading of a configuration, the input is what it was, unless it has been read. -/
theorem left_stateBehind {configuration : Option String}
    (elsewhere : ∀ path, configuration = some path → input.isInput (Word.ofString path) = false) :
    input.left (machine.stateBehind configuration) = input.left machine.state := by
  cases configuration with
  | none => rfl
  | some path => exact input.left_read _ _ (elsewhere path rfl)

end LineInput

end Machine

/-! ## Hosts -/

namespace Host

variable (host : Host)

def startsReader (command : Command) : Bool :=
  match host.locate command.program with
  | .ok tool => command.canStart && tool.readsLine
  | .error _ => false

def act (command : Command) (line : Option Word) : Attempt :=
  if command.canStart then
    match host.locate command.program with
    | .ok tool => tool.act command line
    | .error fault => .notStarted fault
  else .notStarted .nulInCommand

def isInput (path : Word) : Bool :=
  match host.files.find path with
  | .ok (.leaf .input) => true
  | _ => false

theorem read_left (path input : Word) :
    (host.files.read path input).2 = if host.isInput path then [] else input := by
  rw [Files.read, isInput]
  cases host.files.find path with
  | error fault => rfl
  | ok node =>
      cases node with
      | directory location => rfl
      | leaf entry => cases entry <;> rfl

theorem attempt_eq (request : Text) (command : Command) (input : Word) :
    (host.machine.attempt request command input).1 = host.act command
        (if host.startsReader command then (Tool.lines input).head? else none) ∧
      Tool.lines (host.machine.attempt request command input).2 =
        if host.startsReader command then (Tool.lines input).tail else Tool.lines input := by
  rw [Machine.attempt, act, startsReader]
  cases command.canStart with
  | false => cases host.locate command.program <;> exact ⟨rfl, rfl⟩
  | true =>
      simp only [machine, start, if_true, Bool.true_and]
      cases host.locate command.program with
      | error fault => exact ⟨rfl, rfl⟩
      | ok tool => exact ⟨tool.run_line command input, tool.lines_run command input⟩

def lineInput (request : Text) : host.machine.LineInput request where
  left := id
  isInput := host.isInput
  reads := host.startsReader
  act := host.act
  attempt_eq := fun command input => (host.attempt_eq request command input).1
  lines_attempt := fun command input => (host.attempt_eq request command input).2
  left_read := by
    intro path input elsewhere
    exact (host.read_left path input).trans (if_neg (by rw [elsewhere]; exact Bool.false_ne_true))
  used_up := by
    intro path input isInput
    exact (host.read_left path input).trans (if_pos isInput)

end Host

end UploadRunner
