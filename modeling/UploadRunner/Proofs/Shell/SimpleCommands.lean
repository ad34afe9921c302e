import UploadRunner.Proofs.Shell.Lines

/-! Simple commands.

Where a command begins, a shell looks at a word as it is typed: a reserved word is no command,
and a name with an equals sign behind it assigns a variable. Quotes take these meanings away.
The line of a command has quotes where its words need them as arguments, so that it runs the
program unless the program is called like one of the two. -/

namespace UploadRunner

namespace Shell

/-! ## Tokens -/

structure Token where
  typed : Text
  word : Text
  deriving DecidableEq, Repr

/-- The token that ends where a reader stands, if it stands in one. None ends inside quotes or
behind a backslash. `typed` is what has been read of it, the last character first. -/
def Reading.ended (typed : Text) : Reading → Option (List Token)
  | .between => some []
  | .inWord reversed => some [⟨typed.reverse, reversed.reverse⟩]
  | .inQuotes _ => none
  | .afterBackslash _ => none

def tokensFrom (reading : Reading) (typed : Text) : Text → Option (List Token)
  | [] => reading.ended typed
  | character :: rest =>
      match reading.next character with
      | some next => tokensFrom next (character :: typed) rest
      | none =>
          (reading.ended typed).bind fun ended =>
            (tokensFrom .between [] rest).map (ended ++ ·)

def tokens (line : Text) : Option (List Token) :=
  tokensFrom .between [] line

example : tokens "a\\ b 'c'd".toList =
    some [⟨"a\\ b".toList, "a b".toList⟩, ⟨"'c'd".toList, "cd".toList⟩] := by
  decide

theorem blank_of_next {reading : Reading} {character : Char}
    (separated : reading.next character = none) :
    isBlank character = true ∧
      (reading = .between ∨ ∃ reversed, reading = .inWord reversed) := by
  cases reading with
  | between =>
      rw [Reading.next] at separated
      split at separated
      case isTrue blank => exact ⟨blank, Or.inl rfl⟩
      · cases separated
  | inWord reversed =>
      rw [Reading.next] at separated
      split at separated
      case isTrue blank => exact ⟨blank, Or.inr ⟨reversed, rfl⟩⟩
      · cases separated
  | inQuotes reversed => cases separated
  | afterBackslash reversed => cases separated

theorem tokensFrom_words (line : Text) :
    ∀ (reading : Reading) (typed : Text),
      (tokensFrom reading typed line).map (List.map Token.word) = splitFrom reading line := by
  induction line with
  | nil =>
      intro reading typed
      cases reading <;> rfl
  | cons character rest induction =>
      intro reading typed
      rw [tokensFrom]
      cases followed : reading.next character with
      | some next =>
          rw [splitFrom_next followed]
          exact induction next (character :: typed)
      | none =>
          have later := induction .between []
          rcases blank_of_next followed with ⟨blank, rfl | ⟨reversed, rfl⟩⟩
          · rw [splitFrom, if_pos blank, ← later]
            cases tokensFrom .between [] rest <;> rfl
          · rw [splitFrom, if_pos blank, ← later]
            cases tokensFrom .between [] rest <;> rfl

theorem tokensFrom_through {part : Text} (rest : Text) :
    ∀ {reading next : Reading} (typed : Text), reading.through part = some next →
      tokensFrom reading typed (part ++ rest) = tokensFrom next (part.reverse ++ typed) rest := by
  induction part with
  | nil =>
      intro reading next typed followed
      cases followed
      rfl
  | cons character part induction =>
      intro reading next typed followed
      rw [Reading.through, List.foldlM_cons] at followed
      rcases Option.bind_eq_some_iff.mp followed with ⟨behind, first, later⟩
      rw [List.cons_append, tokensFrom, first, List.reverse_cons, List.append_assoc,
        List.singleton_append]
      exact induction (character :: typed) later

def Token.quoted (word : Text) : Token :=
  ⟨quote word, word⟩

theorem tokensFrom_arguments (arguments : List Text) :
    ∀ word : Text,
      tokensFrom (.inWord word.reverse) (quote word).reverse
          (arguments.flatMap fun argument => ' ' :: quote argument) =
        some ((word :: arguments).map Token.quoted) := by
  have ended : ∀ word : Text, (Reading.inWord word.reverse).ended (quote word).reverse =
      some [Token.quoted word] := by
    intro word
    rw [Reading.ended, List.reverse_reverse, List.reverse_reverse]
    rfl
  induction arguments with
  | nil =>
      intro word
      exact ended word
  | cons argument arguments induction =>
      intro word
      have separated : (Reading.inWord word.reverse).next ' ' = none := rfl
      rw [List.flatMap_cons, List.cons_append, tokensFrom, separated]
      simp only [ended, Option.bind_some]
      rw [tokensFrom_through _ [] (through_quote argument), List.append_nil, induction argument]
      rfl

theorem tokens_line (program : Text) (arguments : List Text) :
    tokens (line program arguments) = some ((program :: arguments).map Token.quoted) := by
  rw [tokens, line, tokensFrom_through _ [] (through_quote program), List.append_nil]
  exact tokensFrom_arguments arguments program

/-! ## Where a command begins -/

def isNameStart (character : Char) : Bool :=
  character.isAlpha || character = '_'

def isNamePart (character : Char) : Bool :=
  character.isAlphanum || character = '_'

def isName : Text → Bool
  | [] => false
  | first :: later => isNameStart first && later.all isNamePart

/-- Whether a word assigns a variable as it is typed: an equals sign stands behind a name, and
nothing of either is quoted. -/
def isAssignment (typed : Text) : Bool :=
  typed.contains '=' && isName (typed.takeWhile (· ≠ '='))

/-- The words by which POSIX demands that a shell tells commands of other kinds. A shell may
reserve more, such as `function`, `select` and `time`. -/
def reservedWords : List Text :=
  ["!", "\x7b", "\x7d", "case", "do", "done", "elif", "else", "esac", "fi", "for", "if", "in",
    "then", "until", "while"].map String.toList

/-- The characters that make a line more than words: those of operators, expansions, patterns,
comments and double quotes, and line ends. -/
def activeCharacters : Text :=
  "|&;<>()$`\"*?[#~\n".toList

def Unquoted.isActive : Unquoted → Bool
  | .bare character => activeCharacters.contains character
  | .escaped character => character = '\n'

structure SimpleCommand where
  assignments : List Text
  words : List Text
  deriving DecidableEq, Repr

def Token.assigns (token : Token) : Bool :=
  isAssignment token.typed

/-- The words before the first that assigns no variable are assignments. -/
def SimpleCommand.ofTokens (tokens : List Token) : SimpleCommand where
  assignments := (tokens.takeWhile Token.assigns).map Token.word
  words := (tokens.dropWhile Token.assigns).map Token.word

def readSimpleCommand (line : Text) : Option SimpleCommand :=
  if (unquoted line).any Unquoted.isActive then none
  else
    (tokens line).bind fun tokens =>
      if tokens.head?.any fun token => reservedWords.contains token.typed then none
      else some (.ofTokens tokens)

example : readSimpleCommand "A=b C'='d E='f g' 'if' x=y".toList =
    some ⟨["A=b".toList], ["C=d".toList, "E=f g".toList, "if".toList, "x=y".toList]⟩ := by
  decide +kernel

/-! ## Lines of commands -/

theorem isPlain_of_isLiteral {character : Char} (literal : IsLiteral character) :
    isPlain character = true := by
  change (character.isUpper || character.isLower || character.isDigit || _) = true
  rw [Bool.or_eq_true, Bool.or_eq_true, Bool.or_eq_true]
  rcases literal with ⟨least, greatest⟩ | ⟨least, greatest⟩ | ⟨least, greatest⟩ | mark
  · apply Or.inl (Or.inl (Or.inr _))
    exact Bool.and_eq_true_iff.mpr ⟨decide_eq_true least, decide_eq_true greatest⟩
  · apply Or.inl (Or.inl (Or.inl _))
    exact decide_eq_true ⟨least, greatest⟩
  · apply Or.inl (Or.inr _)
    exact Bool.and_eq_true_iff.mpr ⟨decide_eq_true least, decide_eq_true greatest⟩
  · exact Or.inr (List.contains_iff_mem.mpr mark)

theorem all_isPlain_iff (word : Text) :
    word.all isPlain = true ↔ ∀ character ∈ word, IsLiteral character := by
  rw [List.all_eq_true]
  constructor
  · exact fun plain character member => isLiteral_of_isPlain (plain character member)
  · exact fun literal character member => isPlain_of_isLiteral (literal character member)

theorem activeCharacters_special :
    activeCharacters.all (fun character => !isPlain character && character != ' ') = true := by
  decide +kernel

theorem inactive_of_isInert {part : Unquoted} (inert : part.IsInert) : part.isActive = false := by
  cases part with
  | bare character =>
      rw [Unquoted.isActive, Bool.eq_false_iff]
      intro active
      have special := List.all_eq_true.mp activeCharacters_special character
        (List.contains_iff_mem.mp active)
      rcases inert with literal | blank
      · rw [isPlain_of_isLiteral literal] at special
        cases special
      · rw [blank] at special
        cases special
  | escaped character =>
      have isQuote : character = '\'' := inert
      rw [isQuote]
      rfl

theorem line_inactive (program : Text) (arguments : List Text) :
    (unquoted (line program arguments)).any Unquoted.isActive = false := by
  rw [List.any_eq_false]
  intro part member
  rw [inactive_of_isInert (line_inert program arguments part member)]
  exact Bool.false_ne_true

/-- A word is typed as it is if nothing in it has to be quoted, or it begins with a quote. -/
theorem quote_cases (word : Text) :
    ((∀ character ∈ word, IsLiteral character) ∧ quote word = word) ∨
      (∃ rest, quote word = '\'' :: rest) ∧
        ((∀ character ∈ word, IsLiteral character) → word = []) := by
  cases plain : !word.isEmpty && word.all isPlain with
  | true =>
      have literal := (all_isPlain_iff word).mp (Bool.and_eq_true_iff.mp plain).2
      exact Or.inl ⟨literal, by rw [quote, plain, if_pos rfl]⟩
  | false =>
      refine Or.inr ⟨⟨_, by rw [quote, plain, if_neg Bool.false_ne_true]; rfl⟩, ?_⟩
      intro literal
      rw [(all_isPlain_iff word).mpr literal, Bool.and_true, Bool.not_eq_false'] at plain
      exact List.isEmpty_iff.mp plain

theorem quote_of_literal {word : Text} (literal : ∀ character ∈ word, IsLiteral character)
    (nonempty : word ≠ []) : quote word = word := by
  rcases quote_cases word with ⟨_, typed⟩ | ⟨_, empty⟩
  · exact typed
  · exact absurd (empty literal) nonempty

theorem quoted_harmless (rest : Text) :
    isAssignment ('\'' :: rest) = false ∧ '\'' :: rest ∉ reservedWords := by
  constructor
  · rw [isAssignment, List.takeWhile_cons_of_pos (by decide), isName, isNameStart]
    exact Bool.and_false _
  · intro reserved
    have unquoted : ∀ other ∈ reservedWords, other.head? ≠ some '\'' := by decide +kernel
    exact unquoted _ reserved rfl

/-- Whether a shell that meets a program's name where a command begins takes it for something
else: nothing in it has to be quoted, and it assigns a variable or is reserved. -/
def IsMisread (program : Text) : Prop :=
  (∀ character ∈ program, IsLiteral character) ∧
    (isAssignment program = true ∨ program ∈ reservedWords)

theorem isMisread_iff (program : Text) :
    IsMisread program ↔
      isAssignment (quote program) = true ∨ quote program ∈ reservedWords := by
  rw [IsMisread]
  rcases quote_cases program with ⟨literal, typed⟩ | ⟨⟨rest, typed⟩, empty⟩
  · rw [typed]
    exact and_iff_right literal
  · rcases quoted_harmless rest with ⟨noAssignment, unreserved⟩
    rw [typed, noAssignment]
    constructor
    · rintro ⟨literal, misread⟩
      rw [empty literal] at misread
      exact absurd misread (by decide +kernel)
    · rintro (impossible | reserved)
      · cases impossible
      · exact absurd reserved unreserved

theorem readSimpleCommand_line (program : Text) (arguments : List Text) :
    readSimpleCommand (line program arguments) =
      if quote program ∈ reservedWords then none
      else some (.ofTokens ((program :: arguments).map Token.quoted)) := by
  have first : ((program :: arguments).map Token.quoted).head? = some (Token.quoted program) := rfl
  rw [readSimpleCommand, line_inactive, if_neg Bool.false_ne_true, tokens_line, Option.bind_some,
    first, Option.any_some]
  simp only [List.contains_iff_mem]
  rfl

theorem words_quoted (words : List Text) : (words.map Token.quoted).map Token.word = words := by
  rw [List.map_map]
  exact List.map_id words

theorem not_reserved_of_isAssignment {typed : Text} (assigns : isAssignment typed = true) :
    typed ∉ reservedWords := by
  intro reserved
  have noAssignment : ∀ other ∈ reservedWords, isAssignment other = false := by decide +kernel
  rw [noAssignment typed reserved] at assigns
  cases assigns

structure IsTyped (program : Text) (arguments : List Text) (line : Text) : Prop where
  inactive : ∀ part ∈ unquoted line, part.isActive = false
  words : (tokens line).map (List.map Token.word) = some (program :: arguments)
  runs : readSimpleCommand line = some ⟨[], program :: arguments⟩ ↔ ¬ IsMisread program
  /-- A program whose name assigns a variable is not run. If anything is, it is the first
  argument that assigns none. -/
  assigns : (∀ character ∈ program, IsLiteral character) → isAssignment program = true →
    ∃ assignments words, arguments = assignments ++ words ∧
      readSimpleCommand line = some ⟨program :: assignments, words⟩
  refused : (∀ character ∈ program, IsLiteral character) → program ∈ reservedWords →
    readSimpleCommand line = none

theorem readSimpleCommand_of_harmless {program : Text} (harmless : ¬ IsMisread program)
    (arguments : List Text) :
    readSimpleCommand (line program arguments) = some ⟨[], program :: arguments⟩ := by
  rw [isMisread_iff, not_or] at harmless
  rcases harmless with ⟨noAssignment, unreserved⟩
  have stops : ¬ (Token.quoted program).assigns = true := noAssignment
  rw [readSimpleCommand_line, if_neg unreserved, SimpleCommand.ofTokens, List.map_cons,
    List.takeWhile_cons_of_neg stops, List.dropWhile_cons_of_neg stops, List.map_nil,
    ← List.map_cons, words_quoted]

theorem readSimpleCommand_of_assignment {program : Text}
    (assigns : isAssignment (quote program) = true) (arguments : List Text) :
    ∃ assignments words, arguments = assignments ++ words ∧
      readSimpleCommand (line program arguments) = some ⟨program :: assignments, words⟩ := by
  have unreserved := not_reserved_of_isAssignment assigns
  have goesOn : (Token.quoted program).assigns = true := assigns
  rw [readSimpleCommand_line, if_neg unreserved, SimpleCommand.ofTokens, List.map_cons,
    List.takeWhile_cons_of_pos goesOn, List.dropWhile_cons_of_pos goesOn]
  refine ⟨_, _, ?_, rfl⟩
  rw [← List.map_append, List.takeWhile_append_dropWhile, words_quoted]

theorem isTyped_line (program : Text) (arguments : List Text) :
    IsTyped program arguments (line program arguments) where
  inactive := by
    intro part member
    exact inactive_of_isInert (line_inert program arguments part member)
  words := by
    rw [tokens, tokensFrom_words]
    exact split_line program arguments
  runs := by
    constructor
    · intro runs misread
      rcases (isMisread_iff program).mp misread with assigns | reserved
      · rcases readSimpleCommand_of_assignment assigns arguments with ⟨assignments, words, _, read⟩
        rw [read] at runs
        cases runs
      · rw [readSimpleCommand_line, if_pos reserved] at runs
        cases runs
    · intro harmless
      exact readSimpleCommand_of_harmless harmless arguments
  assigns := by
    intro literal assigns
    have nonempty : program ≠ [] := by
      intro empty
      rw [empty] at assigns
      cases assigns
    rw [← quote_of_literal literal nonempty] at assigns
    exact readSimpleCommand_of_assignment assigns arguments
  refused := by
    intro literal reserved
    have nonempty : program ≠ [] := by
      intro empty
      rw [empty] at reserved
      exact absurd reserved (by decide +kernel)
    rw [readSimpleCommand_line, quote_of_literal literal nonempty, if_pos reserved]

end Shell

/-! ## Commands -/

/-- The line of a command, typed into a shell, runs it unless the name of its program is made
of harmless characters alone and is reserved or assigns a variable. -/
theorem Command.line_isTyped (program : Text) (arguments : List Text) :
    Shell.IsTyped program arguments
      (Command.line ⟨Word.ofText program, arguments.map Word.ofText⟩) := by
  have shown : (arguments.map Word.ofText).map Word.lossy = arguments := by
    rw [List.map_map]
    simp only [Function.comp_def, Word.lossy_ofText, List.map_id']
  rw [Command.line, Word.lossy_ofText, shown]
  exact Shell.isTyped_line program arguments

theorem assignmentProgram_notRun :
    let program := "LC_ALL=C".toList
    let arguments := ["pros".toList]
    program ≠ [] ∧ (∀ word ∈ program :: arguments, Char.ofNat 0 ∉ word) ∧
      Shell.readSimpleCommand (Command.line ⟨Word.ofText program, arguments.map Word.ofText⟩) =
        some ⟨["LC_ALL=C".toList], ["pros".toList]⟩ ∧
      Shell.readSimpleCommand (Command.line ⟨Word.ofText program, arguments.map Word.ofText⟩) ≠
        some ⟨[], program :: arguments⟩ := by
  decide +kernel

end UploadRunner
