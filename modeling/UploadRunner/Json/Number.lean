import UploadRunner.Decimal.Shortest

/-! The numbers of JSON texts.

A number without fraction and exponent is kept exactly as long as it fits 64 bits;
every other number is read as a binary floating-point number. -/

namespace UploadRunner.Json

inductive Number
  | natural (value : Nat)
  | negative (magnitude : Nat)
  | real (isNegative : Bool) (magnitude : Binary64)
  deriving DecidableEq, Repr

namespace Number

def description : Number → String
  | .natural value => "integer `" ++ Numeral.natural value ++ "`"
  | .negative magnitude => "integer `-" ++ Numeral.natural magnitude ++ "`"
  | .real isNegative magnitude =>
      "floating point `" ++ (if isNegative then "-" else "") ++ String.ofList magnitude.text ++ "`"

example : (Number.negative 8).description = "integer `-8`" := by decide

example : (Number.real true .zero).description = "floating point `-0.0`" := by decide

end Number

end UploadRunner.Json
