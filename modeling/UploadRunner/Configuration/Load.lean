import UploadRunner.Configuration.Decode
import UploadRunner.Fault

/-! Loading a configuration from a file. -/

namespace UploadRunner.Configuration

def check (configuration : Configuration) : Except Fault Configuration :=
  match configuration.problem? with
  | some problem => .error ⟨.configuration problem, []⟩
  | none => .ok configuration

/-- Read, decode and check the configuration in a file. Whatever goes wrong, the fault
names the path. -/
def load (read : Word → Except IoFault Word) (path : Word) : Except Fault Configuration :=
  match read path with
  | .error fault => .error ⟨.io fault, [.readingConfiguration path]⟩
  | .ok content =>
      match decode content with
      | .error diagnosis => .error ⟨.decoding diagnosis, [.decodingConfiguration path]⟩
      | .ok configuration =>
          configuration.check.mapError (·.within (.checkingConfiguration path))

end UploadRunner.Configuration
