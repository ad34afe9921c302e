import UploadRunner.Proofs.Text.Utf8
import UploadRunner.Shell.Words
import UploadRunner.Tool.Command

/-! Reading a quoted line back.

A quoted word takes a reader from between two words to the end of that word, with
the word read. Nothing that stands outside its quotes means anything to a shell. -/

namespace UploadRunner

namespace Shell

/-! ## Outside quotes -/

inductive Unquoted
  | bare (character : Char)
  | escaped (character : Char)
  deriving DecidableEq, Repr

inductive Stance
  | outside
  | inside
  | escaping
  deriving DecidableEq, Repr

/-- What stands outside single quotes in the rest of a line. A backslash at the end of
a line stands by itself. -/
def unquotedFrom : Stance → Text → List Unquoted
  | .outside, [] => []
  | .inside, [] => []
  | .escaping, [] => [.bare '\\']
  | .outside, character :: rest =>
      if character = '\'' then unquotedFrom .inside rest
      else if character = '\\' then unquotedFrom .escaping rest
      else .bare character :: unquotedFrom .outside rest
  | .inside, character :: rest =>
      if character = '\'' then unquotedFrom .outside rest
      else unquotedFrom .inside rest
  | .escaping, character :: rest => .escaped character :: unquotedFrom .outside rest

def unquoted (line : Text) : List Unquoted :=
  unquotedFrom .outside line

example : unquoted "a;'b|c'\\'$".toList =
    [.bare 'a', .bare ';', .escaped '\'', .bare '$'] := by
  decide

/-- Whether a character stands for itself outside quotes: an ASCII letter or digit, or
one of a few other characters. -/
def IsLiteral (character : Char) : Prop :=
  ('a' ≤ character ∧ character ≤ 'z') ∨ ('A' ≤ character ∧ character ≤ 'Z') ∨
    ('0' ≤ character ∧ character ≤ '9') ∨ character ∈ "-_./=:,+@%".toList

/-- Whether what stands outside quotes is part of a word as it is, separates two words,
or is a single quote that belongs to a word. -/
def Unquoted.IsInert : Unquoted → Prop
  | .bare character => IsLiteral character ∨ character = ' '
  | .escaped character => character = '\''

theorem isLiteral_of_isPlain {character : Char} (plain : isPlain character) :
    IsLiteral character := by
  change (character.isUpper || character.isLower || character.isDigit || _) = true at plain
  rw [Bool.or_eq_true, Bool.or_eq_true, Bool.or_eq_true] at plain
  rcases plain with ((upper | lower) | digit) | mark
  · exact Or.inr (Or.inl (of_decide_eq_true upper))
  · rcases Bool.and_eq_true_iff.mp lower with ⟨least, greatest⟩
    exact Or.inl ⟨of_decide_eq_true least, of_decide_eq_true greatest⟩
  · rcases Bool.and_eq_true_iff.mp digit with ⟨least, greatest⟩
    exact Or.inr (Or.inr (Or.inl ⟨of_decide_eq_true least, of_decide_eq_true greatest⟩))
  · exact Or.inr (Or.inr (Or.inr (List.contains_iff_mem.mp mark)))

theorem isPlain_ne {character other : Char} (plain : isPlain character)
    (special : isPlain other = false) : character ≠ other := by
  intro equal
  rw [equal, special] at plain
  cases plain

theorem isBlank_of_isPlain {character : Char} (plain : isPlain character) :
    isBlank character = false := by
  have space : character ≠ ' ' := isPlain_ne plain (by decide)
  have tabulator : character ≠ '\t' := isPlain_ne plain (by decide)
  simp [isBlank, space, tabulator]

theorem continueWord_of_isPlain {character : Char} (plain : isPlain character) (seen : Text) :
    Reading.continueWord seen character = .inWord (character :: seen) := by
  rw [Reading.continueWord, if_neg (isPlain_ne plain (by decide)),
    if_neg (isPlain_ne plain (by decide))]

/-! ## Words -/

def Reading.next (reading : Reading) (character : Char) : Option Reading :=
  match reading with
  | .between => if isBlank character then none else some (.continueWord [] character)
  | .inWord reversed =>
      if isBlank character then none else some (.continueWord reversed character)
  | .inQuotes reversed =>
      some (if character = '\'' then .inWord reversed else .inQuotes (character :: reversed))
  | .afterBackslash reversed => some (.inWord (character :: reversed))

def Reading.through (reading : Reading) (part : Text) : Option Reading :=
  part.foldlM Reading.next reading

theorem splitFrom_next {reading next : Reading} {character : Char}
    (followed : reading.next character = some next) (rest : Text) :
    splitFrom reading (character :: rest) = splitFrom next rest := by
  -- Only a blank that stands outside quotes and behind no backslash separates words.
  cases reading with
  | between =>
      rw [Reading.next] at followed
      split at followed
      · cases followed
      case isFalse solid =>
        cases followed
        rw [splitFrom, if_neg solid]
  | inWord reversed =>
      rw [Reading.next] at followed
      split at followed
      · cases followed
      case isFalse solid =>
        cases followed
        rw [splitFrom, if_neg solid]
  | inQuotes reversed =>
      cases followed
      rw [splitFrom]
      split <;> rfl
  | afterBackslash reversed =>
      cases followed
      rfl

theorem splitFrom_through {part : Text} (rest : Text) :
    ∀ {reading next : Reading}, reading.through part = some next →
      splitFrom reading (part ++ rest) = splitFrom next rest := by
  induction part with
  | nil =>
      intro reading next followed
      cases followed
      rfl
  | cons character part induction =>
      intro reading next followed
      rw [Reading.through, List.foldlM_cons] at followed
      rcases Option.bind_eq_some_iff.mp followed with ⟨behind, first, later⟩
      rw [List.cons_append, splitFrom_next first]
      exact induction later

theorem through_plain (word : Text) :
    ∀ seen : Text, (∀ character ∈ word, isPlain character) →
      (Reading.inWord seen).through word = some (.inWord (word.reverse ++ seen)) := by
  induction word with
  | nil =>
      intro seen _
      rfl
  | cons character word induction =>
      intro seen plain
      have first : isPlain character := plain character List.mem_cons_self
      have later := induction (character :: seen)
        fun other member => plain other (List.mem_cons_of_mem character member)
      have followed : (Reading.inWord seen).next character =
          some (.inWord (character :: seen)) := by
        rw [Reading.next, isBlank_of_isPlain first, continueWord_of_isPlain first,
          if_neg Bool.false_ne_true]
      rw [Reading.through, List.foldlM_cons, followed, List.reverse_cons, List.append_assoc,
        List.singleton_append]
      exact later

/-- A single quote of a word ends the quotes, stands escaped behind them and opens them
again; the word that is being read goes on through all of it. -/
theorem through_quoted (word : Text) :
    ∀ seen : Text, (Reading.inQuotes seen).through (word.flatMap quoteCharacter ++ ['\'']) =
      some (.inWord (word.reverse ++ seen)) := by
  induction word with
  | nil =>
      intro seen
      rfl
  | cons character word induction =>
      intro seen
      have later := induction (character :: seen)
      rw [List.flatMap_cons, List.append_assoc, List.reverse_cons, List.append_assoc,
        List.singleton_append, ← later]
      by_cases isQuote : character = '\''
      · rw [isQuote]
        rfl
      · have followed : (Reading.inQuotes seen).next character =
            some (.inQuotes (character :: seen)) := by
          rw [Reading.next, if_neg isQuote]
        rw [quoteCharacter, if_neg isQuote, List.singleton_append, Reading.through,
          List.foldlM_cons, followed]
        rfl

theorem through_quote (word : Text) :
    Reading.between.through (quote word) = some (.inWord word.reverse) := by
  rw [quote]
  split
  case isTrue plain =>
    rw [Bool.and_eq_true, List.all_eq_true] at plain
    cases word with
    | nil => cases plain.1
    | cons character word =>
        have begun : Reading.between.through (character :: word) =
            (Reading.inWord []).through (character :: word) := rfl
        rw [begun, through_plain _ _ plain.2, List.append_nil]
  case isFalse =>
    have opened : Reading.between.through ('\'' :: (word.flatMap quoteCharacter ++ ['\''])) =
        (Reading.inQuotes []).through (word.flatMap quoteCharacter ++ ['\'']) := rfl
    rw [List.cons_append, opened, through_quoted, List.append_nil]

theorem splitFrom_quote (word rest : Text) :
    splitFrom .between (quote word ++ rest) = splitFrom (.inWord word.reverse) rest :=
  splitFrom_through rest (through_quote word)

theorem splitFrom_arguments (arguments : List Text) :
    ∀ word : Text,
      splitFrom (.inWord word.reverse) (arguments.flatMap fun argument => ' ' :: quote argument) =
        some (word :: arguments) := by
  induction arguments with
  | nil =>
      intro word
      rw [List.flatMap_nil, splitFrom, List.reverse_reverse]
  | cons argument arguments induction =>
      intro word
      have space : isBlank ' ' = true := rfl
      rw [List.flatMap_cons, List.cons_append, splitFrom, if_pos space, splitFrom_quote,
        induction argument, Option.map_some, List.reverse_reverse]

theorem split_line (program : Text) (arguments : List Text) :
    split (line program arguments) = some (program :: arguments) := by
  rw [split, line, splitFrom_quote, splitFrom_arguments]

/-! ## Inert lines -/

def IsInert (text : Text) : Prop :=
  ∀ part ∈ unquoted text, part.IsInert

theorem unquotedFrom_quoted (word rest : Text) :
    ∀ part ∈ unquotedFrom .inside (word.flatMap quoteCharacter ++ '\'' :: rest),
      part = .escaped '\'' ∨ part ∈ unquoted rest := by
  induction word with
  | nil =>
      intro part member
      exact Or.inr member
  | cons character word induction =>
      intro part member
      rw [List.flatMap_cons, List.append_assoc] at member
      by_cases isQuote : character = '\''
      · rw [isQuote] at member
        rcases List.mem_cons.mp member with escaped | member
        · exact Or.inl escaped
        · exact induction part member
      · rw [quoteCharacter, if_neg isQuote, List.singleton_append, unquotedFrom,
          if_neg isQuote] at member
        exact induction part member

theorem unquoted_plain (word rest : Text) (plain : ∀ character ∈ word, isPlain character) :
    unquoted (word ++ rest) = word.map Unquoted.bare ++ unquoted rest := by
  induction word with
  | nil => rfl
  | cons character word induction =>
      have first : isPlain character := plain character List.mem_cons_self
      have later := induction fun other member =>
        plain other (List.mem_cons_of_mem character member)
      rw [List.cons_append, unquoted, unquotedFrom, if_neg (isPlain_ne first (by decide)),
        if_neg (isPlain_ne first (by decide)), List.map_cons, List.cons_append, ← later]
      rfl

theorem quote_append_inert (word : Text) {rest : Text} (inert : IsInert rest) :
    IsInert (quote word ++ rest) := by
  intro part member
  rw [quote] at member
  split at member
  case isTrue plain =>
    rw [Bool.and_eq_true, List.all_eq_true] at plain
    rw [unquoted_plain word rest plain.2] at member
    rcases List.mem_append.mp member with own | later
    · rcases List.mem_map.mp own with ⟨character, inWord, rfl⟩
      exact Or.inl (isLiteral_of_isPlain (plain.2 character inWord))
    · exact inert part later
  case isFalse =>
    have joined : '\'' :: word.flatMap quoteCharacter ++ ['\''] ++ rest =
        '\'' :: (word.flatMap quoteCharacter ++ '\'' :: rest) := by
      simp
    rw [joined] at member
    rcases unquotedFrom_quoted word rest part member with escaped | later
    · rw [escaped]
      rfl
    · exact inert part later

theorem line_inert (program : Text) (arguments : List Text) :
    IsInert (line program arguments) := by
  rw [line]
  apply quote_append_inert
  induction arguments with
  | nil =>
      intro part member
      cases member
  | cons argument arguments induction =>
      intro part member
      rw [List.flatMap_cons, List.cons_append] at member
      rcases List.mem_cons.mp member with space | later
      · rw [space]
        exact Or.inr rfl
      · exact quote_append_inert argument induction part later

end Shell

/-! ## Commands -/

/-- The line of a command reads back as exactly its words, each as its text where it is
text, and nothing in it is active outside single quotes. -/
theorem Command.line_reads_back (command : Command) :
    Shell.split command.line =
        some (Word.lossy command.program :: command.arguments.map Word.lossy) ∧
      (∀ text : Text, Word.lossy (Word.ofText text) = text) ∧
      ∀ part ∈ Shell.unquoted command.line, part.IsInert :=
  ⟨Shell.split_line _ _, Word.lossy_ofText, Shell.line_inert _ _⟩

end UploadRunner
