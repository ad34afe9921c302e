import UploadRunner.Host.Tool
import UploadRunner.Text.Separated
import UploadRunner.Text.Utf8

/-! The files that a run can see.

Directories hold files and other directories. A path is followed component by component, from the
root if it begins with a slash, and from the working directory otherwise. -/

namespace UploadRunner

inductive Entry
  | file (content : Word)
  | directory
  /-- The standard input under a name. What is read of it is used up, as it is of a pipe. -/
  | input
  | program (content : Word) (tool : Tool)
  deriving DecidableEq, Repr

/-- The names that lead to an entry from the root, the last one first. -/
abbrev Location := List Word

structure Files where
  entries : List (Location × Entry) := []
  workingDirectory : Location := [Word.ofString "work"]
  deriving DecidableEq, Repr

namespace Files

inductive Node
  | directory (location : Location)
  | leaf (entry : Entry)
  deriving DecidableEq, Repr

def slash : UInt8 := 0x2F

def here : Word := [0x2E]

def above : Word := [0x2E, 0x2E]

def longestName : Nat := 255

def longestPath : Nat := 4095

def enter (files : Files) (location : Location) (name : Word) : Except IoFault Node :=
  if longestName < name.length then .error .nameTooLong
  else
    match files.entries.lookup (name :: location) with
    | none => .error .notFound
    | some .directory => .ok (.directory (name :: location))
    | some entry => .ok (.leaf entry)

/-- Follow one component of a path. Nothing lies behind a file, not even itself, and the root lies
above itself. -/
def follow (files : Files) (node : Node) (component : Word) : Except IoFault Node :=
  match node with
  | .leaf _ => .error .notDirectory
  | .directory location =>
      if component = [] ∨ component = here then .ok node
      else if component = above then .ok (.directory location.tail)
      else files.enter location component

def start (files : Files) (path : Word) : Location :=
  if path.head? = some slash then [] else files.workingDirectory

def find (files : Files) (path : Word) : Except IoFault Node :=
  if path.contains 0 then .error .nulInPath
  else if path = [] then .error .notFound
  else if longestPath < path.length then .error .nameTooLong
  else (separatedBy slash path).foldlM files.follow (.directory (files.start path))

def read (files : Files) (path input : Word) : Except IoFault Word × Word :=
  match files.find path with
  | .error fault => (.error fault, input)
  | .ok (.leaf (.file content)) => (.ok content, input)
  | .ok (.leaf (.program content _)) => (.ok content, input)
  | .ok (.leaf .input) => (.ok input, [])
  | .ok _ => (.error .isDirectory, input)

/-! ## Making files -/

def advance (location : Location) (component : Word) : Location :=
  if component = [] ∨ component = here then location
  else if component = above then location.tail
  else component :: location

def along (location : Location) (entry : Entry) : List Word → List (Location × Entry)
  | [] => [(location, entry)]
  | component :: rest =>
      along (advance location component) entry rest ++ [(location, .directory)]

def adding (files : Files) (path : Word) (entry : Entry) : Files :=
  { files with
    entries := files.entries ++ along (files.start path) entry (separatedBy slash path) }

example : (read (adding {} (Word.ofString "d/a") (.file [1])) (Word.ofString "d/../d//./a")
    []).1.toOption = some [1] := by
  decide +kernel

example :
    let taken := read (adding {} (Word.ofString "/dev/stdin") .input)
      (Word.ofString "../dev/stdin") [1, 2]
    taken.1.toOption = some [1, 2] ∧ taken.2 = [] := by
  decide +kernel

example : (find (adding {} (Word.ofString "a") (.file [1])) (Word.ofString "a/.")).toOption =
    none := by
  decide +kernel

end Files

end UploadRunner
