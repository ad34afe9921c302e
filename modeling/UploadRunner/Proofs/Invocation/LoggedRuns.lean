import UploadRunner.Proofs.Invocation.Sessions
import UploadRunner.Proofs.Invocation.Statuses
import UploadRunner.Proofs.Log.Requests

/-! What logging changes.

Whatever is asked for, an invocation does the same and writes the same to its standard output, as
long as its tools do not look at what is asked for. Its standard error output is a selection from
one list, in which its records stand among what the tools show, or nothing of it is logged. -/

namespace UploadRunner

/-- No process on a machine looks at what is asked for of the log. -/
def Machine.IsHeedless {State : Type} (machine : Machine State) : Prop :=
  ∀ first second, machine.start first = machine.start second

theorem Machine.IsHeedless.runner_eq {State : Type} {machine : Machine State}
    (heedless : machine.IsHeedless) (first second : Text) :
    machine.runner first = machine.runner second := by
  funext command state
  rw [runner, runner, attempt, attempt, heedless first second]

theorem Host.machine_isHeedless (host : Host) : host.machine.IsHeedless :=
  fun _ _ => rfl

namespace Log

/-- Whether directives let a remark pass. What tools show passes always. -/
def Remark.IsLet (request : List Directive) : Remark → Prop
  | logged record => Enables request record
  | shown _ => True

instance (request : List Directive) : DecidablePred (Remark.IsLet request)
  | .logged record => inferInstanceAs (Decidable (Enables request record))
  | .shown _ => inferInstanceAs (Decidable True)

def selection (request : List Directive) (remarks : List Remark) : List Remark :=
  remarks.filter fun remark => remark.IsLet request

theorem writtenUnder_of_requests {directives : List Directive} {request : Text}
    (requests : Requests directives request) (remarks : List Remark) :
    writtenUnder request remarks = (selection directives remarks).flatMap Remark.word := by
  have passed : Remark.passes (Filter.ofText request).admits =
      fun remark => decide (remark.IsLet directives) := by
    funext remark
    rw [Bool.eq_iff_iff, decide_eq_true_iff]
    cases remark with
    | logged record => exact admits_ofText_iff requests record
    | shown word => exact iff_of_true rfl trivial
  rw [writtenUnder, warnings_of_requests requests, written, passed]
  rfl

theorem selection_sublist {first second : List Directive} {remarks : List Remark}
    (nested : ∀ record ∈ records remarks, Enables first record → Enables second record) :
    (selection first remarks).Sublist (selection second remarks) := by
  have twice : selection first remarks =
      (selection second remarks).filter fun remark => remark.IsLet first := by
    rw [selection, selection, List.filter_filter]
    apply List.filter_congr
    intro remark member
    rw [Bool.eq_iff_iff, Bool.and_eq_true, decide_eq_true_iff, decide_eq_true_iff, iff_self_and]
    cases remark with
    | logged record => exact nested record (List.mem_filterMap.mpr ⟨_, member, rfl⟩)
    | shown word => exact fun _ => trivial
  rw [twice]
  exact List.filter_sublist

theorem selection_of_silent (request : List Directive) {remarks : List Remark}
    (silent : ∀ word, .shown word ∈ remarks → word = []) :
    (selection request remarks).flatMap Remark.word = Word.ofString (String.join
      (((records remarks).filter fun record => Enables request record).map Record.text)) := by
  rw [← written_of_silent _ silent, written, selection]
  congr 2
  funext remark
  cases remark <;> rfl

end Log

namespace Invocation

/-- An invocation that ends before anything is logged: a word of it is no text, or its
tokens are wrong or ask for help. -/
inductive EndsEarly (invocation : Invocation) : Prop
  | words (word : Word) : word ∈ invocation.program :: invocation.arguments → ¬ word.IsText →
      EndsEarly invocation
  | tokens (program : String) (tokens : List String) (exit : Arguments.EarlyExit) :
      invocation.Spells program tokens → Arguments.parse tokens = .error exit →
        EndsEarly invocation

theorem endsEarly_or_accepts (invocation : Invocation) :
    EndsEarly invocation ∨ ∃ arguments, invocation.Accepts arguments := by
  by_cases isText : ∀ word ∈ invocation.program :: invocation.arguments, word.IsText
  · rcases exists_spells isText with ⟨program, tokens, spells⟩
    cases parsed : Arguments.parse tokens with
    | error exit => exact Or.inl (.tokens program tokens exit spells parsed)
    | ok arguments => exact Or.inr ⟨arguments, program, tokens, spells, parsed⟩
  · simp only [not_forall] at isText
    rcases isText with ⟨word, member, illFormed⟩
    exact Or.inl (.words word member illFormed)

section

variable {State : Type} (machine : Machine State) (output : Output)

/-- What the standard error outputs of two performances hold that differ in what is asked for of
the log: selections from the remarks of one session. -/
structure AreSelected (arguments : Arguments) (first second : List Log.Directive)
    (firstSeen secondSeen : Appearance) (remarks : List Log.Remark) : Prop where
  remarks_eq : ∀ request, (session machine output request arguments).remarks = remarks
  first_errors : firstSeen.errors = (Log.selection first remarks).flatMap Log.Remark.word
  second_errors : secondSeen.errors = (Log.selection second remarks).flatMap Log.Remark.word
  silent : (∀ execution ∈ firstSeen.executions, execution.reply.errors = []) →
    firstSeen.errors = Word.ofString (String.join
        (((Log.records remarks).filter fun record => Log.Enables first record).map
          Log.Record.text)) ∧
      secondSeen.errors = Word.ofString (String.join
        (((Log.records remarks).filter fun record => Log.Enables second record).map
          Log.Record.text))
  nested : (∀ record ∈ Log.records remarks,
      Log.Enables first record → Log.Enables second record) →
    (Log.selection first remarks).Sublist (Log.selection second remarks)

structure IsUndisturbed (invocation : Invocation) (first second : List Log.Directive)
    (firstSeen secondSeen : Appearance) : Prop where
  output_eq : firstSeen.output = secondSeen.output
  status_eq : firstSeen.status = secondSeen.status
  executions_eq : firstSeen.executions = secondSeen.executions
  early : EndsEarly invocation → firstSeen.errors = secondSeen.errors
  logged : ¬ EndsEarly invocation → ∃ arguments remarks, invocation.Accepts arguments ∧
    AreSelected machine output arguments first second firstSeen secondSeen remarks

variable {machine}

theorem shown_remarks {request : Text} {arguments : Arguments} {word : Word}
    (member : .shown word ∈ (session machine output request arguments).remarks) :
    ∃ execution ∈ (session machine output request arguments).executions,
      execution.reply.errors = word := by
  cases chosen : configuration machine.content arguments with
  | error fault =>
      rw [session_of_fault machine output request chosen] at member
      rcases List.mem_map.mp member with ⟨record, _, isLogged⟩
      cases isLogged
  | ok configuration =>
      rw [session_of_configuration machine output request chosen] at member ⊢
      rcases List.mem_append.mp member with before | last
      · rcases List.mem_append.mp before with opening | steps
        · rcases List.mem_map.mp opening with ⟨record, _, isLogged⟩
          cases isLogged
        · rcases List.mem_flatMap.mp steps with ⟨execution, executed, remark⟩
          refine ⟨execution, executed, ?_⟩
          simp only [Execution.remarks, List.mem_cons, List.not_mem_nil, or_false, reduceCtorEq,
            false_or, Log.Remark.shown.injEq] at remark
          exact remark.symm
      · rcases List.mem_map.mp last with ⟨record, _, isLogged⟩
        cases isLogged

theorem session_of_heedless (heedless : machine.IsHeedless) (first second : Text)
    (arguments : Arguments) :
    session machine output first arguments = session machine output second arguments := by
  simp only [session, configured, heedless.runner_eq first second]

theorem perform_of_endsEarly {invocation : Invocation} (early : EndsEarly invocation)
    (first second : Text) :
    perform machine output first invocation = perform machine output second invocation := by
  cases early with
  | words word member illFormed =>
      rcases perform_of_illFormed machine output member illFormed with ⟨message, ended⟩
      rw [ended first, ended second]
  | tokens program tokens exit spells parsed =>
      cases exit with
      | help =>
          rw [perform_of_help machine output first spells parsed,
            perform_of_help machine output second spells parsed]
      | usage error =>
          rw [perform_of_usage machine output first spells parsed,
            perform_of_usage machine output second spells parsed]

theorem areSelected_of_accepts (heedless : machine.IsHeedless) {invocation : Invocation}
    {arguments : Arguments} (accepts : invocation.Accepts arguments)
    {first second : List Log.Directive} {firstRequest secondRequest : Text}
    (firstAsks : Log.Requests first firstRequest) (secondAsks : Log.Requests second secondRequest) :
    AreSelected machine output arguments first second
      (perform machine output firstRequest invocation)
      (perform machine output secondRequest invocation)
      (session machine output firstRequest arguments).remarks := by
  rw [perform_of_accepts machine output firstRequest accepts,
    perform_of_accepts machine output secondRequest accepts,
    session_of_heedless output heedless secondRequest firstRequest]
  constructor
  case remarks_eq =>
    intro request
    rw [session_of_heedless output heedless request firstRequest]
  case first_errors => exact Log.writtenUnder_of_requests firstAsks _
  case second_errors => exact Log.writtenUnder_of_requests secondAsks _
  case silent =>
    intro nothing
    have silent : ∀ word,
        .shown word ∈ (session machine output firstRequest arguments).remarks → word = [] := by
      intro word member
      rcases shown_remarks output member with ⟨execution, executed, rfl⟩
      exact nothing execution executed
    rw [← Log.selection_of_silent first silent, ← Log.selection_of_silent second silent]
    exact ⟨Log.writtenUnder_of_requests firstAsks _, Log.writtenUnder_of_requests secondAsks _⟩
  case nested => exact Log.selection_sublist

theorem perform_isUndisturbed (heedless : machine.IsHeedless) (invocation : Invocation)
    {first second : List Log.Directive} {firstRequest secondRequest : Text}
    (firstAsks : Log.Requests first firstRequest) (secondAsks : Log.Requests second secondRequest) :
    IsUndisturbed machine output invocation first second
      (perform machine output firstRequest invocation)
      (perform machine output secondRequest invocation) := by
  rcases endsEarly_or_accepts invocation with early | ⟨arguments, accepts⟩
  · rw [perform_of_endsEarly output early firstRequest secondRequest]
    exact ⟨rfl, rfl, rfl, fun _ => rfl, fun late => absurd early late⟩
  -- Both performances show one session, each under its own request.
  · have same := session_of_heedless output heedless firstRequest secondRequest arguments
    have firstSeen := perform_of_accepts machine output firstRequest accepts
    have secondSeen := perform_of_accepts machine output secondRequest accepts
    rw [← same] at secondSeen
    constructor
    case output_eq =>
      rw [firstSeen, secondSeen]
      rfl
    case status_eq =>
      rw [firstSeen, secondSeen]
      rfl
    case executions_eq =>
      rw [firstSeen, secondSeen]
      rfl
    case early =>
      intro early
      rw [perform_of_endsEarly output early firstRequest secondRequest]
    case logged =>
      intro _
      exact ⟨arguments, _, accepts,
        areSelected_of_accepts output heedless accepts firstAsks secondAsks⟩

end

def brokenHost : Host where
  tools :=
    [(Word.ofString "arm-none-eabi-objcopy", { ending := .exits 2 }),
      (Word.ofString "pros", { ending := .killed ⟨9, by decide⟩ })]

theorem brokenHost_isUndisturbed :
    let invocation : Invocation := ⟨Word.ofString "pros-runner", [Word.ofString "out.elf"]⟩
    let first := "error".toList
    let second := " Warn ,pros_runner=INFO".toList
    brokenHost.machine.IsHeedless ∧
      (perform brokenHost.machine .unlimited first invocation).errors =
        Word.ofString "[E] Upload unsuccessful.\n" ∧
      (perform brokenHost.machine .unlimited second invocation).errors =
        List.flatMap Word.ofString
          ["[*] PROS Runner v0.1.0\n", "[W] strip step exited with status 2.\n",
            "[W] convert step exited with status 2.\n",
            "[W] upload step was terminated by signal 9.\n", "[E] Upload unsuccessful.\n"] ∧
      IsUndisturbed brokenHost.machine .unlimited invocation [⟨none, some .error⟩]
        [⟨none, some .warn⟩, ⟨some "pros_runner", some .info⟩]
        (perform brokenHost.machine .unlimited first invocation)
        (perform brokenHost.machine .unlimited second invocation) := by
  intro invocation first second
  have asksFirst : Log.Requests [⟨none, some .error⟩] first :=
    .last (.bare (.plain ⟨"error", by decide, by decide +kernel⟩))
  have asksSecond : Log.Requests [⟨none, some .warn⟩, ⟨some "pros_runner", some .info⟩] second := by
    have split : second = ([' '] ++ ("Warn".toList ++ [' '])) ++
        ',' :: ("pros_runner".toList ++ '=' :: "INFO".toList) := by
      decide +kernel
    have name : "pros_runner" = String.ofList "pros_runner".toList := by
      decide +kernel
    rw [split, name]
    have white : ∀ character ∈ [' '], isWhiteSpace character :=
      List.all_eq_true.mp (by decide)
    have isModule : Log.IsModule "pros_runner".toList :=
      ⟨by decide +kernel, List.all_iff_forall_prop.mp (by decide +kernel)⟩
    refine .more (.directive white (.plain ⟨"warn", by decide, ?_⟩) white)
      (.last (.bare (.named isModule ⟨"info", by decide, ?_⟩)))
    · decide +kernel
    · decide +kernel
  refine ⟨brokenHost.machine_isHeedless, ?_, ?_, ?_⟩
  · decide +kernel
  · decide +kernel
  · exact perform_isUndisturbed .unlimited brokenHost.machine_isHeedless invocation asksFirst
      asksSecond

end Invocation

end UploadRunner
