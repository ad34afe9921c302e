/-! Why the system refuses to read, write or start something. -/

namespace UploadRunner

inductive IoFault
  | notFound
  | permissionDenied
  | notDirectory
  | isDirectory
  | noSpace
  | nameTooLong
  | nulInPath
  | nulInCommand
  | outputFull
  /-- An output has no room left and accepts nothing without saying why. -/
  | nothingWritten
  | flushRefused
  | reported (message : String)
  deriving DecidableEq, Repr

def IoFault.message : IoFault → String
  | .notFound => "No such file or directory (os error 2)"
  | .permissionDenied => "Permission denied (os error 13)"
  | .notDirectory => "Not a directory (os error 20)"
  | .isDirectory => "Is a directory (os error 21)"
  | .noSpace => "No space left on device (os error 28)"
  | .nameTooLong => "File name too long (os error 36)"
  | .nulInPath => "file name contained an unexpected NUL byte"
  | .nulInCommand => "nul byte found in provided data"
  | .outputFull => "output is full"
  | .nothingWritten => "failed to write whole buffer"
  | .flushRefused => "flush refused"
  | .reported message => message

end UploadRunner
