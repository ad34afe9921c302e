import UploadRunner.Log.Basic
import UploadRunner.Text.CharacterRanges
import UploadRunner.Text.Separated

/-! Which records of a log are written.

A filter is a list of directives. One that names no origin sets the limit for all
records, and one with a name sets it for the origins whose names begin with it. The
longest name decides. -/

namespace UploadRunner.Log

/-- A limit for the records of some origins. Without a level nothing passes. -/
structure Directive where
  name : Option String
  limit : Option Level
  deriving DecidableEq, Repr

abbrev Filter := List Directive

def Filter.standard : Filter :=
  [⟨none, some .info⟩]

/-! ## Reading -/

def limits : List (String × Option Level) :=
  [("off", none), ("error", some .error), ("warn", some .warn), ("info", some .info),
    ("debug", some .debug), ("trace", some .trace)]

def limit? (name : Text) : Option (Option Level) :=
  (limits.find? fun (known, _) => known.toList = name.map Char.toLower).map Prod.snd

def trim (text : Text) : Text :=
  ((text.dropWhile isWhiteSpace).reverse.dropWhile isWhiteSpace).reverse

/-- Read one directive: a limit, the name of an origin, or both with an equals sign
between them. A name alone lets everything pass. What is no limit, or is more than one
name and one limit, is refused. -/
def Directive.read (text : Text) : Except Text Directive :=
  match separatedBy '=' text with
  | [alone] =>
      match limit? alone with
      | some limit => .ok ⟨none, limit⟩
      | none => .ok ⟨some (String.ofList alone), some .trace⟩
  | [name, level] =>
      let level := trim level
      if level.isEmpty then .ok ⟨some (String.ofList name), some .trace⟩
      else
        match limit? level with
        | some limit => .ok ⟨some (String.ofList name), limit⟩
        | none => .error level
  | _ => .error text

/-- The directives of a list that commas separate, and what is refused of it. Empty
parts say nothing. -/
def readDirectives (text : Text) : List (Except Text Directive) :=
  (((separatedBy ',' text).map trim).filter (! ·.isEmpty)).map Directive.read

def Filter.add (filter : Filter) (directive : Directive) : Filter :=
  if filter.any (·.name = directive.name) then
    filter.map fun known => if known.name = directive.name then directive else known
  else filter ++ [directive]

def Filter.ofText (text : Text) : Filter :=
  ((readDirectives text).filterMap Except.toOption).foldl Filter.add Filter.standard

def warning (refused : Text) : String :=
  "warning: invalid logging spec '" ++ String.ofList refused ++ "', ignoring it\n"

def warnings (text : Text) : List String :=
  (readDirectives text).filterMap fun directive =>
    match directive with
    | .ok _ => none
    | .error refused => some (warning refused)

/-! ## Filtering -/

def Directive.covers (directive : Directive) (origin : Origin) : Bool :=
  match directive.name with
  | none => true
  | some name => name.toList.isPrefixOf origin.name.toList

/-- How specific a directive is: the length of its name, and less without one. -/
def Directive.weight (directive : Directive) : Nat :=
  match directive.name with
  | none => 0
  | some name => name.length + 1

def Filter.decisive? (filter : Filter) (origin : Origin) : Option Directive :=
  (filter.filter (·.covers origin)).foldl (fun best directive =>
    match best with
    | none => some directive
    | some known => if known.weight ≤ directive.weight then some directive else some known) none

def Filter.admits (filter : Filter) (record : Record) : Bool :=
  match (filter.decisive? record.origin).bind Directive.limit with
  | none => false
  | some level => record.level.rank ≤ level.rank

example : Filter.standard.admits ⟨.info, .runner, ""⟩ ∧
    !Filter.standard.admits ⟨.debug, .runner, ""⟩ := by
  decide +kernel

example : Filter.ofText "\u2003debug\x0c".toList = [⟨none, some .debug⟩] := by decide +kernel

example : warnings "pros_runner=loud,off".toList =
    ["warning: invalid logging spec 'loud', ignoring it\n"] := by
  decide +kernel

example : (Filter.ofText "pros_runner::pipeline=debug,pros_runner=off".toList).admits
    ⟨.debug, .pipeline, ""⟩ := by
  decide +kernel

end UploadRunner.Log
