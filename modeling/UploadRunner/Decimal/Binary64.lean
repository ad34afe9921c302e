/-! Binary floating-point numbers of 53 significant bits, without a sign.

A number is a whole mantissa times a power of two. Every operation computes the
exact ratio of its result and rounds once, to the nearest representable number and
from half way to an even mantissa; a ratio too great to represent has none. -/

namespace UploadRunner

/-- The number `mantissa * 2 ^ exponent`. -/
structure Binary64 where
  mantissa : Nat
  exponent : Int
  deriving DecidableEq, Repr

namespace Binary64

def leastExponent : Int := -1074

def greatestExponent : Int := 971

def leastNormal : Nat := Nat.pow 2 52

def zero : Binary64 := ⟨0, leastExponent⟩

/-- Two to the power `exponent` when that is whole, and one otherwise. -/
def wholePower (exponent : Int) : Nat :=
  Nat.pow 2 exponent.toNat

def numerator (number : Binary64) : Nat :=
  number.mantissa * wholePower number.exponent

def denominator (number : Binary64) : Nat :=
  wholePower (-number.exponent)

/-- The whole number nearest to a ratio, and from half way the even one. -/
def roundRatio (numerator denominator : Nat) : Nat :=
  let below := numerator / denominator
  let doubled := 2 * (numerator % denominator)
  if doubled < denominator ∨ (doubled = denominator ∧ below % 2 = 0) then below else below + 1

example : [roundRatio 5 2, roundRatio 7 2, roundRatio 8 3, roundRatio 7 3] = [2, 4, 3, 2] := by
  decide

/-- The exponent for which a positive ratio has a mantissa of exactly 53 bits. -/
def normalExponent (numerator denominator : Nat) : Int :=
  let order : Int := numerator.log2 - denominator.log2
  let reached := denominator * wholePower order ≤ numerator * wholePower (-order)
  if reached then order - 52 else order - 53

def ofRatio? (numerator denominator : Nat) : Option Binary64 :=
  if numerator = 0 then some zero
  else
    let exponent := max leastExponent (normalExponent numerator denominator)
    let mantissa :=
      roundRatio (numerator * wholePower (-exponent)) (denominator * wholePower exponent)
    let rounded : Binary64 :=
      if mantissa = 2 * leastNormal then ⟨leastNormal, exponent + 1⟩ else ⟨mantissa, exponent⟩
    if rounded.exponent ≤ greatestExponent then some rounded else none

def mul? (left right : Binary64) : Option Binary64 :=
  ofRatio? (left.numerator * right.numerator) (left.denominator * right.denominator)

def div? (left right : Binary64) : Option Binary64 :=
  ofRatio? (left.numerator * right.denominator) (left.denominator * right.numerator)

def powerOfTen? (exponent : Nat) : Option Binary64 :=
  ofRatio? (Nat.pow 10 exponent) 1

/-! ## Numbers written in decimal

A decimal number is read in steps, each of which rounds: its significand is
rounded, and then multiplied or divided by a rounded power of ten. Powers of ten
are representable up to `largestPower`, and a quotient by a greater one is taken in
parts. -/

def largestPower : Nat := 308

def divideByPower (number : Binary64) (exponent : Nat) : Option Binary64 :=
  (powerOfTen? exponent).bind number.div?

def divideByLargest (number : Binary64) : Nat → Option Binary64
  | 0 => some number
  | times + 1 =>
      if number.mantissa = 0 then some number
      else (number.divideByPower largestPower).bind (·.divideByLargest times)

/-- Divide by a power of ten, by the largest first as long as more than it is left. -/
def shrink (number : Binary64) (exponent : Nat) : Option Binary64 :=
  let times := (exponent - 1) / largestPower
  (number.divideByLargest times).bind (·.divideByPower (exponent - times * largestPower))

def grow (number : Binary64) (exponent : Nat) : Option Binary64 :=
  if exponent ≤ largestPower then (powerOfTen? exponent).bind number.mul?
  else if number.mantissa = 0 then some number
  else none

def ofDecimal? (significand : Nat) (exponent : Int) : Option Binary64 :=
  (ofRatio? significand 1).bind fun number =>
    if 0 ≤ exponent then number.grow exponent.toNat else number.shrink (-exponent).toNat

example : ofDecimal? 15 (-1) = some ⟨6755399441055744, -52⟩ := by decide +kernel

example : ofDecimal? 1 309 = none := by decide +kernel

end Binary64

end UploadRunner
