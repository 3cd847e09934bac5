/-!
# Binary floating-point numbers

The numbers of the 64-bit binary format: a significand below `2 ^ 53` times a power of two, with a
sign, besides the two infinities and what is no number. All arithmetic is on natural numbers.

A positive ratio is rounded to the nearest number of the format; of two that are as near, the one
with the even significand is taken. What would need too large an exponent is infinite.
-/

namespace RuleLexer

/-- A value of the 64-bit binary format. -/
inductive Binary64
  /-- The number `significand * 2 ^ exponent`, or its opposite. -/
  | finite (negative : Bool) (significand : Nat) (exponent : Int)
  /-- An infinity. -/
  | infinite (negative : Bool)
  /-- No number. -/
  | nan
  deriving DecidableEq, Repr

namespace Binary64

/-- The number of bits of a significand. -/
def precision : Nat := 53

/-- The least significand that takes all bits. -/
def fullSignificand : Nat := Nat.pow 2 (precision - 1)

/-- The least exponent. -/
def leastExponent : Int := -1074

/-- The greatest exponent. -/
def greatestExponent : Int := 971

/-! ### Ratios -/

/-- A positive ratio divided by a power of a base. -/
def overPower (base : Nat) (num den : Nat) (exponent : Int) : Nat × Nat :=
  if 0 ≤ exponent then (num, den * base.pow exponent.toNat)
  else (num * base.pow (-exponent).toNat, den)

/-- The quotient rounded to the nearest whole number, a half to the even one. -/
def roundEven (num den : Nat) : Nat :=
  let floor := num / den
  let twice := 2 * (num % den)
  if twice < den then floor
  else if den < twice then floor + 1
  else floor + floor % 2

/-- The quotient rounded to the nearest whole number, a half upward. -/
def roundUp (num den : Nat) : Nat := (2 * num + den) / (2 * den)

/-- The exponent of the power of two at a positive ratio or next below it. -/
def log2Ratio (num den : Nat) : Int :=
  let estimate : Int := (num.log2 : Int) - den.log2
  let (n, d) := overPower 2 num den estimate
  if d ≤ n then estimate else estimate - 1

/-- **The nearest value to a ratio**, with a sign. -/
def ofRatio (negative : Bool) (num den : Nat) : Binary64 :=
  if num = 0 then .finite negative 0 leastExponent
  else
    let exponent := max (log2Ratio num den - (precision - 1)) leastExponent
    let (n, d) := overPower 2 num den exponent
    let significand := roundEven n d
    let (significand, exponent) :=
      if significand = 2 * fullSignificand then (fullSignificand, exponent + 1)
      else (significand, exponent)
    if greatestExponent < exponent then .infinite negative
    else .finite negative significand exponent

/-- The number of decimal digits of a number. -/
def digitCount (n : Nat) : Nat := (Nat.toDigits 10 n).length

/-- **The nearest value to a decimal number** `digits * 10 ^ exponent`, with a sign. Numbers far out
of the range of the format are not worked out. -/
def ofDecimal (negative : Bool) (digits : Nat) (exponent : Int) : Binary64 :=
  if digits = 0 then .finite negative 0 leastExponent
  else
    let order := (digitCount digits : Int) + exponent
    if 400 < order then .infinite negative
    else if order < -400 then .finite negative 0 leastExponent
    else
      let (num, den) := overPower 10 digits 1 (-exponent)
      ofRatio negative num den

/-! ### Properties of values -/

/-- Whether the value is a finite number. -/
def isFinite : Binary64 → Bool
  | .finite .. => true
  | _ => false

/-- Whether the value is zero, of either sign. -/
def isZero : Binary64 → Bool
  | .finite _ 0 _ => true
  | _ => false

/-- **The count nearest to a value**, a half away from zero, between zero and `most`. What is no
number counts as zero. -/
def toCount (most : Nat) : Binary64 → Nat
  | .nan => 0
  | .infinite negative => if negative then 0 else most
  | .finite true _ _ => 0
  | .finite false significand exponent =>
    let (num, den) := overPower 2 significand 1 (-exponent)
    min (roundUp num den) most

end Binary64

end RuleLexer
