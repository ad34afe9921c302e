import UploadRunner.Decimal.Binary64
import UploadRunner.Text.Numeral

/-! The shortest decimal text of a binary floating-point number.

Every real number nearer to the given number than to its neighbours reads back as
it. Of the decimals among them the text has one with the fewest digits, of those
the nearest, and from half way the even one. -/

namespace UploadRunner

structure Decimal where
  significand : Nat
  exponent : Int
  deriving DecidableEq, Repr

namespace Binary64

/-- Quarters of the last place: the distance down to the middle between a number and
the one before it. Below a power of two the numbers lie twice as close. -/
def quartersBelow (number : Binary64) : Nat :=
  if number.mantissa = leastNormal ∧ leastExponent < number.exponent then 1 else 2

def wholeTens (exponent : Int) : Nat :=
  Nat.pow 10 exponent.toNat

/-- Whether a decimal reads back as the number. The ends of the interval belong to
it when the mantissa is even. -/
def readsBack (number : Binary64) (decimal : Decimal) : Bool :=
  let place := number.exponent - 2
  let scale := wholePower place * wholeTens (-decimal.exponent)
  let middle := decimal.significand * wholeTens decimal.exponent * wholePower (-place)
  let least := (4 * number.mantissa - number.quartersBelow) * scale
  let greatest := (4 * number.mantissa + 2) * scale
  if number.mantissa % 2 = 0 then least ≤ middle && middle ≤ greatest
  else least < middle && middle < greatest

/-- The decimal exponent of the first digit of a positive number: the number of
digits of its whole part after a shift that makes it large. -/
def leadingExponent (number : Binary64) : Int :=
  let shift : Nat := 340
  let whole := number.numerator * Nat.pow 10 shift / number.denominator
  (Numeral.digits whole).length - 1 - shift

/-- The better of the two neighbours on the grid of multiples of
`10 ^ exponent`, if one of them reads back. -/
def onGrid? (number : Binary64) (exponent : Int) : Option Decimal :=
  let numerator := number.numerator * wholeTens (-exponent)
  let denominator := number.denominator * wholeTens exponent
  let below := numerator / denominator
  let nearest := roundRatio numerator denominator
  let other := if nearest = below then below + 1 else below
  if number.readsBack ⟨nearest, exponent⟩ then some ⟨nearest, exponent⟩
  else if number.readsBack ⟨other, exponent⟩ then some ⟨other, exponent⟩
  else none

/-- The shortest decimal of a positive number. Seventeen digits always suffice. -/
def shortest (number : Binary64) : Decimal :=
  let leading := number.leadingExponent
  let exponents := (List.range 17).map fun (more : Nat) => leading - more
  (exponents.findSome? number.onGrid?).getD ⟨0, 0⟩

end Binary64

namespace Decimal

/-! ## Text -/

def digits (decimal : Decimal) : Text :=
  ((Numeral.digits decimal.significand).reverse.dropWhile (· = '0')).reverse

def leadingExponent (decimal : Decimal) : Int :=
  decimal.exponent + (Numeral.digits decimal.significand).length - 1

def positional (digits : Text) (leadingExponent : Int) : Text :=
  if leadingExponent < 0 then
    ['0', '.'] ++ List.replicate (-leadingExponent - 1).toNat '0' ++ digits
  else
    let whole := leadingExponent.toNat + 1
    let fraction := digits.drop whole
    digits.take whole ++ List.replicate (whole - digits.length) '0' ++
      '.' :: (if fraction.isEmpty then ['0'] else fraction)

def scientific (digits : Text) (leadingExponent : Int) : Text :=
  let fraction := digits.drop 1
  digits.take 1 ++ (if fraction.isEmpty then [] else '.' :: fraction) ++
    ['e', if leadingExponent < 0 then '-' else '+'] ++
    Numeral.digits leadingExponent.natAbs

def isPositional (leadingExponent : Int) : Bool :=
  -5 ≤ leadingExponent && leadingExponent ≤ 15

def text (decimal : Decimal) : Text :=
  if isPositional decimal.leadingExponent then
    positional decimal.digits decimal.leadingExponent
  else
    scientific decimal.digits decimal.leadingExponent

end Decimal

def Binary64.text (number : Binary64) : Text :=
  if number.mantissa = 0 then ['0', '.', '0'] else number.shortest.text

example : (⟨314159, -5⟩ : Decimal).text = "3.14159".toList := by decide

example : (⟨1, 23⟩ : Decimal).text = "1e+23".toList := by decide

example : (⟨1, 3⟩ : Decimal).text = "1000.0".toList := by decide

example : (⟨25, -4⟩ : Decimal).text = "0.0025".toList := by decide

end UploadRunner
