import UploadRunner.Performance

/-! The command line.

Everything an invocation does is done by `Invocation.perform`; here its words are
gathered, the configuration file is read and the two outputs are written. No process
is started from here, so a tool is reported as one that the system refuses to
start. -/

namespace UploadRunner.CommandLine

def refusalOf : IO.Error → IoFault
  | .permissionDenied .. => .permissionDenied
  | .inappropriateType _ 20 _ => .notDirectory
  | .inappropriateType .. => .isDirectory
  | _ => .notFound

def readConfiguration (arguments : List String) : IO (Except IoFault Word) := do
  match Arguments.parse arguments with
  | .ok { configuration := some path, .. } =>
      try
        let content ← IO.FS.readBinFile path
        return .ok content.toList
      catch error =>
        return .error (refusalOf error)
  | _ => return .error .notFound

/-- A system with one file that starts nothing. -/
def machine (content : Except IoFault Word) : Machine Unit where
  read := fun _ state => (content, state)
  start := fun _ _ state => (.notStarted .permissionDenied, state)
  state := ()
  abortSite := ⟨1, "the standard output"⟩

def run (arguments : List String) : IO UInt32 := do
  let content ← readConfiguration arguments
  let program := Word.ofString Invocation.standardName
  let request := (← IO.getEnv "RUST_LOG").getD ""
  let seen :=
    Invocation.perform (machine content) {} request.toList ⟨program, arguments.map Word.ofString⟩
  (← IO.getStderr).write ⟨seen.errors.toArray⟩
  let output ← IO.getStdout
  output.write ⟨seen.output.toArray⟩
  output.flush
  return seen.status.toUInt32

end UploadRunner.CommandLine

def main (arguments : List String) : IO UInt32 :=
  UploadRunner.CommandLine.run arguments
