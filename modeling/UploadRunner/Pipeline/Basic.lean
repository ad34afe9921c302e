import UploadRunner.Configuration.Basic
import UploadRunner.Text.Numeral
import UploadRunner.Tool.Command

/-! The steps that bring a built artifact onto a device.

The artifact is stripped, converted and uploaded. Each step writes a file beside the
artifact that the next one reads; without symbols to strip, the artifact is
converted as it is. -/

namespace UploadRunner

inductive StepKind
  | strip
  | convert
  | upload
  deriving DecidableEq, Repr

def StepKind.name : StepKind → String
  | .strip => "strip"
  | .convert => "convert"
  | .upload => "upload"

structure Step where
  kind : StepKind
  input : Word
  command : Command
  deriving DecidableEq, Repr

def Step.progress (step : Step) : Text :=
  let input := Word.lossy step.input
  match step.kind with
  | .strip => "stripping symbols from ".toList ++ input
  | .convert => "converting ".toList ++ input ++ " to binary".toList
  | .upload => "uploading ".toList ++ input

namespace Pipeline

/-! ## Files -/

/-- The file that stripping writes: the suffix follows whatever the name ends in. -/
def strippedFile (artifact : Word) : Word :=
  artifact ++ Word.ofString ".stripped"

def binaryFile (artifact : Word) : Word :=
  artifact ++ Word.ofString ".bin"

def convertedFile (artifact : Word) (configuration : Configuration) : Word :=
  if configuration.stripSymbols.isEmpty then artifact else strippedFile artifact

/-! ## Commands -/

def stripArgument (symbol : String) : Word :=
  Word.ofString "--strip-symbol=" ++ Word.ofString symbol

def stripCommand (artifact : Word) (configuration : Configuration) : Command where
  program := Word.ofString configuration.objcopy
  arguments := configuration.stripSymbols.map stripArgument ++ [artifact, strippedFile artifact]

def convertCommand (artifact : Word) (configuration : Configuration) : Command where
  program := Word.ofString configuration.objcopy
  arguments :=
    [Word.ofString "-O", Word.ofString "binary", Word.ofString "-R",
      Word.ofString configuration.excludedSection,
      convertedFile artifact configuration, binaryFile artifact]

def slotArgument (slot : UInt8) : Word :=
  Word.ofText (Numeral.digits slot.toNat)

def uploadCommand (artifact : Word) (configuration : Configuration) : Command where
  program := Word.ofString configuration.uploader
  arguments :=
    [Word.ofString "upload", Word.ofString "--target", Word.ofString configuration.target,
      Word.ofString "--slot", slotArgument configuration.slot, binaryFile artifact]

/-! ## Steps -/

def stripSteps (artifact : Word) (configuration : Configuration) : List Step :=
  if configuration.stripSymbols.isEmpty then []
  else [⟨.strip, artifact, stripCommand artifact configuration⟩]

def steps (artifact : Word) (configuration : Configuration) : List Step :=
  stripSteps artifact configuration ++
    [⟨.convert, convertedFile artifact configuration, convertCommand artifact configuration⟩,
      ⟨.upload, binaryFile artifact, uploadCommand artifact configuration⟩]

example : (steps (Word.ofString "out.elf") .standard).map (String.ofList ·.progress) =
    ["stripping symbols from out.elf", "converting out.elf.stripped to binary",
      "uploading out.elf.bin"] := by
  decide +kernel

example : (uploadCommand (Word.ofString "out") .standard).line =
    "pros upload --target v5 --slot 1 out.bin".toList := by
  decide +kernel

end Pipeline

end UploadRunner
