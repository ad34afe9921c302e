import UploadRunner.Text.Utf8

/-! Whole numbers in base ten. -/

namespace UploadRunner.Numeral

def digits (number : Nat) : Text :=
  Nat.toDigits 10 number

def natural (number : Nat) : String :=
  String.ofList (digits number)

def integer (number : Int) : String :=
  (if number < 0 then "-" else "") ++ natural number.natAbs

example : natural 0 = "0" := by decide +kernel

example : integer (-143) = "-143" := by decide +kernel

end UploadRunner.Numeral
