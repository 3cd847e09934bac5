import RuleLexer.Binary64.Basic

/-!
# The shortest text of a number

A finite number is written with the fewest decimal digits that read back as the same number, and of
those the nearest to it, the greater of two that are as near, without an exponent.

The numbers that read back form an interval around the number; its ends belong to it if the
significand is even. On the grid of the multiples of a power of ten, if any point lies in the
interval, so does one of the two neighbours of the number on the grid. So the grids are tried from
coarse to fine, and the first with a hit has the fewest digits.
-/

namespace RuleLexer.Binary64

/-- A decimal number `digits * 10 ^ exponent`. -/
structure Decimal where
  /-- The digits, as a number. -/
  digits : Nat
  /-- The power of ten. -/
  exponent : Int
  deriving DecidableEq, Repr

/-- The numbers that are rounded to a positive number of the format, in quarters of the unit of its
significand: the number itself, the ends, and whether the ends belong to them. -/
structure Interval where
  /-- The number. -/
  middle : Nat
  /-- The lower end. -/
  low : Nat
  /-- The upper end. -/
  high : Nat
  /-- Whether the ends belong to the interval. -/
  closed : Bool
  deriving DecidableEq, Repr

/-- The interval of a number. Next below a power of two the numbers lie twice as dense. -/
def interval (significand : Nat) (exponent : Int) : Interval where
  middle := 4 * significand
  low :=
    if significand = fullSignificand ∧ leastExponent < exponent then 4 * significand - 1
    else 4 * significand - 2
  high := 4 * significand + 2
  closed := significand % 2 = 0

/-- Whether the ratio `num / den` lies in an interval. -/
def Interval.contains (i : Interval) (num den : Nat) : Bool :=
  if i.closed then i.low * den ≤ num && num ≤ i.high * den
  else i.low * den < num && num < i.high * den

/-- The nearer of the two neighbours of a number on the grid of the multiples of `10 ^ p`, if one of
them lies in the interval, which is given in units of `2 ^ exponent`. -/
def onGrid? (i : Interval) (exponent p : Int) : Option Decimal :=
  let (num, den) := overPower 2 i.middle 1 (-exponent)
  let (num, den) := overPower 10 num den p
  let floor := num / den
  -- A multiple `k` of the grid is the ratio `k * scale / unit` in units of the interval.
  let (scale, unit) := overPower 10 1 1 (-p)
  let (scale, unit) := overPower 2 scale unit exponent
  let below := i.contains (floor * scale) unit
  let above := i.contains ((floor + 1) * scale) unit
  if below && above then
    if 2 * (num % den) < den then some ⟨floor, p⟩ else some ⟨floor + 1, p⟩
  else if below then some ⟨floor, p⟩
  else if above then some ⟨floor + 1, p⟩
  else none

/-- The first hit on the grids from `10 ^ p` downward, `count` of them. -/
def firstHit? (i : Interval) (exponent : Int) : (count : Nat) → (p : Int) → Option Decimal
  | 0, _ => none
  | count + 1, p =>
    match onGrid? i exponent p with
    | some d => some d
    | none => firstHit? i exponent count (p - 1)

/-- The shortest decimal number that is rounded to `significand * 2 ^ exponent`. -/
def shortest (significand : Nat) (exponent : Int) : Decimal :=
  if significand = 0 then ⟨0, 0⟩
  else
    let i := interval significand exponent
    let (num, den) := overPower 2 i.high 1 (2 - exponent)
    let top := digitCount (num / den)
    (firstHit? i (exponent - 2) (top + 1100) top).getD ⟨0, 0⟩

/-- A decimal number written without an exponent. -/
def Decimal.positional (d : Decimal) : String :=
  let digits := Nat.toDigits 10 d.digits
  if 0 ≤ d.exponent then String.ofList (digits ++ List.replicate d.exponent.toNat '0')
  else
    let places := (-d.exponent).toNat
    let padded := List.replicate (places + 1 - digits.length) '0' ++ digits
    let whole := padded.length - places
    String.ofList (padded.take whole ++ '.' :: padded.drop whole)

/-- **The text of a value.** -/
def toText : Binary64 → String
  | .nan => "NaN"
  | .infinite negative => if negative then "-inf" else "inf"
  | .finite negative significand exponent =>
    (if negative then "-" else "") ++ (shortest significand exponent).positional

/-- The text of a value, with a decimal point in the text of every finite number. -/
def toPointedText (x : Binary64) : String :=
  let text := x.toText
  if x.isFinite && !text.toList.contains '.' then text ++ ".0" else text

end RuleLexer.Binary64
