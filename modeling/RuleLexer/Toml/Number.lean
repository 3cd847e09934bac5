import RuleLexer.Binary64.Basic

/-!
# Numbers in documents

A whole number is decimal, with a sign or without, or hexadecimal, octal or binary without a sign;
it has to fit into 64 bits with a sign. A floating-point number has a fraction, an exponent or both,
or is one of the words for what is infinite or no number. Between two digits there may be an
underscore. A decimal number other than zero has no zero at its front.
-/

namespace RuleLexer.Toml

/-- The digits of a text of digits with underscores between some of them. -/
def grouped? (isDigit : Char → Bool) : List Char → Option (List Char)
  | [] => none
  | c :: '_' :: rest => if isDigit c then (grouped? isDigit rest).map (c :: ·) else none
  | [c] => if isDigit c then some [c] else none
  | c :: rest => if isDigit c then (grouped? isDigit rest).map (c :: ·) else none

/-- The value of a digit, of up to sixteen. -/
def digitValue (c : Char) : Nat :=
  if c.isDigit then c.toNat - 0x30
  else if 'a' ≤ c ∧ c ≤ 'f' then c.toNat - 0x61 + 10
  else if 'A' ≤ c ∧ c ≤ 'F' then c.toNat - 0x41 + 10
  else 16

/-- The number with the given digits. -/
def numberOf (base : Nat) (digits : List Char) : Nat :=
  digits.foldl (fun n c => n * base + digitValue c) 0

/-- The sign at the front of a text, and the rest. -/
def takeSign : List Char → Bool × List Char
  | '-' :: cs => (true, cs)
  | '+' :: cs => (false, cs)
  | cs => (false, cs)

/-- The digits of a decimal number without a needless zero at its front. -/
def decimal? (cs : List Char) : Option (List Char) := do
  let digits ← grouped? Char.isDigit cs
  match cs with
  | '0' :: _ :: _ => none
  | _ => some digits

/-- The bound of whole numbers of 64 bits with a sign. -/
def integerBound : Nat := 9223372036854775808

/-- The whole number without a sign, in a base. -/
def unsigned? (base : Nat) (cs : List Char) : Option Int := do
  let n := numberOf base (← grouped? (fun c => digitValue c < base) cs)
  if n < integerBound then some n else none

/-- **The whole number that is all of a text.** -/
def integer? : List Char → Option Int
  | '0' :: 'x' :: cs => unsigned? 16 cs
  | '0' :: 'o' :: cs => unsigned? 8 cs
  | '0' :: 'b' :: cs => unsigned? 2 cs
  | cs => do
    let (negative, cs) := takeSign cs
    let n := numberOf 10 (← decimal? cs)
    if negative then if n ≤ integerBound then some (-(n : Int)) else none
    else if n < integerBound then some n else none

/-- The exponent that is all of a text, zero for none. -/
def exponent? : List Char → Option Int
  | [] => some 0
  | _ :: cs => do
    let (negative, cs) := takeSign cs
    let n := numberOf 10 (← grouped? Char.isDigit cs)
    return if negative then -(n : Int) else n

/-- The digits of a fraction that is all of a text, none for no fraction. -/
def fraction? : List Char → Option (List Char)
  | [] => some []
  | _ :: cs => grouped? Char.isDigit cs

/-- Whether a character begins an exponent. -/
def isExponentMark (c : Char) : Bool := c = 'e' || c = 'E'

/-- The floating-point number with a fraction or an exponent that is all of a text. What is too
large is refused, but not what is too small. -/
def pointed? (cs : List Char) : Option Binary64 := do
  let (negative, cs) := takeSign cs
  let mantissa := cs.takeWhile (!isExponentMark ·)
  let expo := cs.dropWhile (!isExponentMark ·)
  let whole := mantissa.takeWhile (· != '.')
  let frac := mantissa.dropWhile (· != '.')
  if frac.isEmpty && expo.isEmpty then none
  else
    let whole ← decimal? whole
    let frac ← fraction? frac
    let expo ← exponent? expo
    match Binary64.ofDecimal negative (numberOf 10 (whole ++ frac)) (expo - frac.length) with
    | .infinite false => none
    | x => some x

/-- **The floating-point number that is all of a text.** -/
def float? (cs : List Char) : Option Binary64 :=
  match takeSign cs with
  | (negative, ['i', 'n', 'f']) => some (.infinite negative)
  | (_, ['n', 'a', 'n']) => some .nan
  | _ => pointed? cs

end RuleLexer.Toml
