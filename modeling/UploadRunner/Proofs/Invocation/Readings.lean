import Mathlib.Data.Set.List
import UploadRunner.Proofs.Configuration.Texts
import UploadRunner.Proofs.Invocation.Sessions
import UploadRunner.Proofs.Text.Utf8

/-! What an invocation says.

The words of an invocation spell a path and tokens, or one of them is no text. The tokens
ask for help, are wrong, or name an artifact and perhaps a configuration file. That file
gives a configuration, or it cannot be used. -/

namespace UploadRunner

/-- Whether a word is well-formed UTF-8. -/
def Word.IsText (word : Word) : Prop :=
  ∃ text, word = ofText text

namespace Configuration

inductive Unusable (read : Word → Except IoFault Word) (path : Word) : Prop
  | unread (fault : IoFault) : read path = .error fault → Unusable read path
  | undecoded (content : Word) (diagnosis : Json.Diagnosis) :
      read path = .ok content → decode content = .error diagnosis → Unusable read path
  | refused (content : Word) (configuration : Configuration) (problem : Problem) :
      read path = .ok content → decode content = .ok configuration →
        configuration.problem? = some problem → Unusable read path

structure IsIn (read : Word → Except IoFault Word) (path : Word) (configuration : Configuration) :
    Prop where
  decoded : ∃ content, read path = .ok content ∧ decode content = .ok configuration
  accepted : configuration.problem? = none

section

variable (read : Word → Except IoFault Word) (path : Word)

theorem loaded_iff (configuration : Configuration) :
    load read path = .ok configuration ↔ IsIn read path configuration := by
  constructor
  · intro loaded
    unfold load at loaded
    split at loaded
    · cases loaded
    case _ content readable =>
      split at loaded
      · cases loaded
      case _ decoded isDecoded =>
        rcases (check_eq_ok_iff _ _ _).mp loaded with ⟨rfl, accepted⟩
        exact ⟨⟨content, readable, isDecoded⟩, accepted⟩
  · rintro ⟨⟨content, readable, isDecoded⟩, accepted⟩
    simp only [load, readable, isDecoded]
    exact (check_eq_ok_iff _ _ _).mpr ⟨rfl, accepted⟩

theorem unusable_iff : (∃ fault, load read path = .error fault) ↔ Unusable read path := by
  constructor
  · rintro ⟨fault, failed⟩
    cases readable : read path with
    | error fault => exact .unread fault readable
    | ok content =>
        cases decoded : decode content with
        | error diagnosis => exact .undecoded content diagnosis readable decoded
        | ok configuration =>
            cases checked : configuration.problem? with
            | some problem => exact .refused content configuration problem readable decoded checked
            | none =>
                have loaded := (loaded_iff read path configuration).mpr
                  ⟨⟨content, readable, decoded⟩, checked⟩
                rw [loaded] at failed
                cases failed
  · intro unusable
    cases unusable with
    | unread fault readable => exact ⟨_, by simp only [load, readable]; rfl⟩
    | undecoded content diagnosis readable decoded =>
        exact ⟨_, by simp only [load, readable, decoded]; rfl⟩
    | refused content configuration problem readable decoded checked =>
        exact ⟨_, by simp only [load, readable, decoded, check, checked]; rfl⟩

end

end Configuration

namespace Invocation

/-! ## Words -/

structure Spells (invocation : Invocation) (program : String) (tokens : List String) :
    Prop where
  program_eq : invocation.program = Word.ofString program
  arguments_eq : invocation.arguments = tokens.map Word.ofString

theorem string_eq_ok_iff (word : Word) (read : String) :
    string word = .ok read ↔ word = Word.ofString read := by
  rw [Word.ofString, ← Word.text?_eq_some_iff, string]
  cases Word.text? word with
  | none => simp
  | some text =>
      simp only [Except.ok.injEq, Option.some.injEq]
      constructor
      · intro same
        rw [← same, String.toList_ofList]
      · intro same
        rw [same, String.ofList_toList]

theorem mapM_string_eq_ok_iff (words : List Word) (tokens : List String) :
    words.mapM string = .ok tokens ↔ words = tokens.map Word.ofString := by
  induction words generalizing tokens with
  | nil => cases tokens <;> simp [pure, Except.pure]
  | cons word words induction =>
      rw [List.mapM_cons]
      cases tokens with
      | nil =>
          cases string word <;> cases words.mapM string <;>
            simp [bind, Except.bind, pure, Except.pure]
      | cons token tokens =>
          rw [List.map_cons, List.cons.injEq, ← string_eq_ok_iff, ← induction]
          cases string word <;> cases words.mapM string <;>
            simp [bind, Except.bind, pure, Except.pure]

theorem strings_eq_ok_iff (invocation : Invocation) (program : String) (tokens : List String) :
    invocation.strings = .ok (program, tokens) ↔ invocation.Spells program tokens := by
  have spells_iff : invocation.Spells program tokens ↔
      string invocation.program = .ok program ∧
        invocation.arguments.mapM string = .ok tokens := by
    rw [string_eq_ok_iff, mapM_string_eq_ok_iff]
    exact ⟨fun spells => ⟨spells.program_eq, spells.arguments_eq⟩,
      fun both => ⟨both.1, both.2⟩⟩
  rw [spells_iff, strings]
  cases string invocation.program <;> cases invocation.arguments.mapM string <;>
    simp [Except.map]

theorem Spells.isText {invocation : Invocation} {program : String} {tokens : List String}
    (spells : invocation.Spells program tokens) :
    ∀ word ∈ invocation.program :: invocation.arguments, word.IsText := by
  intro word member
  rw [spells.program_eq, spells.arguments_eq, List.mem_cons] at member
  rcases member with isProgram | isArgument
  · exact ⟨_, isProgram⟩
  · rcases List.mem_map.mp isArgument with ⟨token, _, rfl⟩
    exact ⟨_, rfl⟩

theorem exists_spells {invocation : Invocation}
    (isText : ∀ word ∈ invocation.program :: invocation.arguments, word.IsText) :
    ∃ program tokens, invocation.Spells program tokens := by
  have spelled : ∀ word ∈ invocation.program :: invocation.arguments,
      word ∈ Set.range Word.ofString := by
    intro word member
    rcases isText word member with ⟨text, rfl⟩
    exact ⟨String.ofList text, by rw [Word.ofString, String.toList_ofList]⟩
  have listed : invocation.arguments ∈ Set.range (List.map Word.ofString) := by
    rw [Set.range_list_map]
    exact fun word member => spelled word (List.mem_cons_of_mem _ member)
  rcases spelled _ List.mem_cons_self with ⟨program, first⟩
  rcases listed with ⟨tokens, later⟩
  exact ⟨program, tokens, first.symm, later.symm⟩

/-! ## Orders -/

def Chooses (read : Word → Except IoFault Word) (arguments : Arguments)
    (configuration : Configuration) : Prop :=
  match arguments.configuration with
  | none => configuration = .standard
  | some path => Configuration.IsIn read (Word.ofString path) configuration

theorem configuration_eq_ok_iff (read : Word → Except IoFault Word) (arguments : Arguments)
    (chosen : Configuration) :
    configuration read arguments = .ok chosen ↔ Chooses read arguments chosen := by
  rw [configuration, Chooses]
  cases arguments.configuration with
  | none => simp [eq_comm]
  | some path =>
      simp only [← Configuration.loaded_iff]
      cases Configuration.load read (Word.ofString path) <;> simp [Except.mapError]

theorem configuration_eq_error_iff (read : Word → Except IoFault Word) (arguments : Arguments) :
    (∃ fault, configuration read arguments = .error fault) ↔
      ∃ path, arguments.configuration = some path ∧
        Configuration.Unusable read (Word.ofString path) := by
  rw [configuration]
  cases arguments.configuration with
  | none => simp
  | some path =>
      simp only [Option.some.injEq, exists_eq_left', ← Configuration.unusable_iff]
      cases Configuration.load read (Word.ofString path) <;> simp [Except.mapError]

def Accepts (invocation : Invocation) (arguments : Arguments) : Prop :=
  ∃ program tokens, invocation.Spells program tokens ∧ Arguments.parse tokens = .ok arguments

/-- An invocation whose words spell arguments that are accepted, and whose configuration can
be used. -/
structure Orders (read : Word → Except IoFault Word) (invocation : Invocation)
    (arguments : Arguments) (configuration : Configuration) : Prop where
  parsed : invocation.Accepts arguments
  chosen : Chooses read arguments configuration

def AsksForHelp (invocation : Invocation) (program : String) : Prop :=
  ∃ tokens, invocation.Spells program tokens ∧ Arguments.parse tokens = .error .help

/-- What is wrong with an invocation: a word, be it the path of the program or any
argument, the tokens, or the configuration file. -/
inductive IsWrong (read : Word → Except IoFault Word) (invocation : Invocation) : Prop
  | words (word : Word) :
      word ∈ invocation.program :: invocation.arguments → ¬ word.IsText →
        IsWrong read invocation
  | usage (program : String) (tokens : List String) (error : Arguments.UsageError) :
      invocation.Spells program tokens → Arguments.parse tokens = .error (.usage error) →
        IsWrong read invocation
  | configuration (program : String) (tokens : List String) (arguments : Arguments)
      (path : String) :
      invocation.Spells program tokens → Arguments.parse tokens = .ok arguments →
        arguments.configuration = some path →
          Configuration.Unusable read (Word.ofString path) → IsWrong read invocation

/-! ## Performances -/

section

variable {State : Type} (machine : Machine State) (output : Output) (request : Text)
  {invocation : Invocation}

theorem perform_of_help {program : String} {tokens : List String}
    (spells : invocation.Spells program tokens) (parsed : Arguments.parse tokens = .error .help) :
    perform machine output request invocation =
      help machine.abortSite output (Arguments.usageText (name program)) := by
  simp only [perform, (strings_eq_ok_iff invocation program tokens).mpr spells, parsed]

theorem perform_of_usage {program : String} {tokens : List String} {error : Arguments.UsageError}
    (spells : invocation.Spells program tokens)
    (parsed : Arguments.parse tokens = .error (.usage error)) :
    perform machine output request invocation = refused (usageMessage (name program) error) := by
  simp only [perform, (strings_eq_ok_iff invocation program tokens).mpr spells, parsed]

theorem perform_of_accepts {arguments : Arguments} (accepts : invocation.Accepts arguments) :
    perform machine output request invocation =
      (session machine output request arguments).appearance request := by
  rcases accepts with ⟨program, tokens, spells, parsed⟩
  simp only [perform, (strings_eq_ok_iff invocation program tokens).mpr spells, parsed]
  exact performArguments_eq machine output request arguments

theorem perform_of_illFormed {word : Word}
    (member : word ∈ invocation.program :: invocation.arguments) (illFormed : ¬ word.IsText) :
    ∃ message, ∀ request, perform machine output request invocation = refused message := by
  simp only [perform]
  cases read : invocation.strings with
  | error word => exact ⟨_, fun _ => rfl⟩
  | ok words =>
      have spells := (strings_eq_ok_iff invocation words.1 words.2).mp read
      exact absurd (spells.isText word member) illFormed

theorem session_of_fault {arguments : Arguments} {fault : Fault}
    (failed : configuration machine.content arguments = .error fault) :
    session machine output request arguments = unconfigured arguments fault := by
  rw [session, failed]

theorem session_of_configuration {arguments : Arguments} {chosen : Configuration}
    (found : configuration machine.content arguments = .ok chosen) :
    session machine output request arguments =
      configured machine output request arguments chosen := by
  rw [session, found]

theorem session_of_unusable {arguments : Arguments} {path : String}
    (named : arguments.configuration = some path)
    (unusable : Configuration.Unusable machine.content (Word.ofString path)) :
    ∃ fault, session machine output request arguments = unconfigured arguments fault := by
  rcases (configuration_eq_error_iff machine.content arguments).mpr ⟨path, named, unusable⟩ with
    ⟨fault, failed⟩
  exact ⟨fault, session_of_fault machine output request failed⟩

theorem perform_of_orders {arguments : Arguments} {chosen : Configuration}
    (orders : Orders machine.content invocation arguments chosen) :
    perform machine output request invocation =
      (configured machine output request arguments chosen).appearance request := by
  rw [perform_of_accepts machine output request orders.parsed,
    session_of_configuration machine output request
      ((configuration_eq_ok_iff machine.content arguments chosen).mpr orders.chosen)]

theorem wrong_or_help_or_orders (read : Word → Except IoFault Word) (invocation : Invocation) :
    IsWrong read invocation ∨ (∃ program, invocation.AsksForHelp program) ∨
      ∃ arguments configuration, Orders read invocation arguments configuration := by
  by_cases isText : ∀ word ∈ invocation.program :: invocation.arguments, word.IsText
  · rcases exists_spells isText with ⟨program, tokens, spells⟩
    cases parsed : Arguments.parse tokens with
    | error exit =>
        cases exit with
        | help => exact Or.inr (Or.inl ⟨program, tokens, spells, parsed⟩)
        | usage error => exact Or.inl (.usage program tokens error spells parsed)
    | ok arguments =>
        cases chosen : configuration read arguments with
        | ok configuration =>
            refine Or.inr (Or.inr ⟨arguments, configuration, ⟨program, tokens, spells, parsed⟩, ?_⟩)
            exact (configuration_eq_ok_iff read arguments configuration).mp chosen
        | error fault =>
            rcases (configuration_eq_error_iff read arguments).mp ⟨fault, chosen⟩ with
              ⟨path, named, unusable⟩
            exact Or.inl (.configuration program tokens arguments path spells parsed named unusable)
  · simp only [not_forall] at isText
    rcases isText with ⟨word, member, illFormed⟩
    exact Or.inl (.words word member illFormed)

end

end Invocation

end UploadRunner
