import UploadRunner.Configuration.Basic
import UploadRunner.Text.Numeral

/-! Which configurations a run accepts. -/

namespace UploadRunner.Configuration

inductive Problem
  | emptyField (field : Field)
  | emptySymbol
  | slotOutOfRange (slot : UInt8)
  deriving DecidableEq, Repr

def firstSlot : UInt8 := 1

def lastSlot : UInt8 := 8

def Problem.message : Problem → String
  | .emptyField field => "`" ++ field.name ++ "` must not be empty."
  | .emptySymbol => "`" ++ Field.stripSymbols.name ++ "` must not contain empty names."
  | .slotOutOfRange slot =>
      "Slot " ++ Numeral.natural slot.toNat ++ " is out of range, expected " ++
        Numeral.natural firstSlot.toNat ++ " to " ++ Numeral.natural lastSlot.toNat ++ "."

def texts (configuration : Configuration) : List (Field × String) :=
  [(.objcopy, configuration.objcopy), (.uploader, configuration.uploader),
    (.excludedSection, configuration.excludedSection), (.target, configuration.target)]

/-- The first thing that is wrong with a configuration: a text that is empty, then
an empty symbol, then a slot that no device has. -/
def problem? (configuration : Configuration) : Option Problem :=
  match configuration.texts.find? (·.2.isEmpty) with
  | some (field, _) => some (.emptyField field)
  | none =>
      if configuration.stripSymbols.any (·.isEmpty) then some .emptySymbol
      else if firstSlot ≤ configuration.slot ∧ configuration.slot ≤ lastSlot then none
      else some (.slotOutOfRange configuration.slot)

example : standard.problem? = none := by decide

example : { standard with target := "", slot := 9 }.problem? = some (.emptyField .target) := by
  decide

end UploadRunner.Configuration
