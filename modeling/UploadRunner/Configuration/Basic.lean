/-! The configuration of a run: the tools it uses, and what it hands to them. -/

namespace UploadRunner

inductive Field
  | objcopy
  | uploader
  | stripSymbols
  | excludedSection
  | target
  | slot
  deriving DecidableEq, Repr

namespace Field

/-- Every field, in the order in which a configuration lists them. -/
def all : List Field :=
  [.objcopy, .uploader, .stripSymbols, .excludedSection, .target, .slot]

def name : Field → String
  | .objcopy => "objcopy"
  | .uploader => "uploader"
  | .stripSymbols => "strip_symbols"
  | .excludedSection => "excluded_section"
  | .target => "target"
  | .slot => "slot"

def ofName? (name : String) : Option Field :=
  all.find? (·.name = name)

@[simp] theorem mem_all (field : Field) : field ∈ all := by
  cases field <;> decide

@[simp] theorem ofName?_name (field : Field) : ofName? field.name = some field := by
  cases field <;> decide

end Field

structure Configuration where
  objcopy : String
  uploader : String
  /-- The symbols removed before the conversion. Without any, the artifact is
  converted as it is. -/
  stripSymbols : List String
  excludedSection : String
  target : String
  slot : UInt8
  deriving DecidableEq, Repr

namespace Configuration

/-- The symbols that would otherwise be linked into the hot section. -/
def hotSymbols : List String :=
  ["install_hot_table", "__libc_init_array", "_PROS_COMPILE_DIRECTORY",
    "_PROS_COMPILE_TIMESTAMP", "_PROS_COMPILE_TIMESTAMP_INT"]

def standard : Configuration where
  objcopy := "arm-none-eabi-objcopy"
  uploader := "pros"
  stripSymbols := hotSymbols
  excludedSection := ".hot_init"
  target := "v5"
  slot := 1

/-! ## Overrides -/

structure Overrides where
  objcopy : Option String := none
  uploader : Option String := none
  stripSymbols : Option (List String) := none
  excludedSection : Option String := none
  target : Option String := none
  slot : Option UInt8 := none
  deriving DecidableEq, Repr

def Overrides.gives (overrides : Overrides) : Field → Bool
  | .objcopy => overrides.objcopy.isSome
  | .uploader => overrides.uploader.isSome
  | .stripSymbols => overrides.stripSymbols.isSome
  | .excludedSection => overrides.excludedSection.isSome
  | .target => overrides.target.isSome
  | .slot => overrides.slot.isSome

def override (configuration : Configuration) (overrides : Overrides) : Configuration where
  objcopy := overrides.objcopy.getD configuration.objcopy
  uploader := overrides.uploader.getD configuration.uploader
  stripSymbols := overrides.stripSymbols.getD configuration.stripSymbols
  excludedSection := overrides.excludedSection.getD configuration.excludedSection
  target := overrides.target.getD configuration.target
  slot := overrides.slot.getD configuration.slot

@[simp] theorem override_empty (configuration : Configuration) :
    configuration.override {} = configuration := rfl

end Configuration

end UploadRunner
