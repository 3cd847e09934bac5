import RuleLexer.Json.Basic
import RuleLexer.Setting.Basic

/-!
# Settings in JSON

A JSON value is a setting that comes from no file. A number is whole if it is written as one and fits
into 64 bits, with a sign or without; any other number is a floating-point number.
-/

namespace RuleLexer.Setting

/-- The number with the given decimal digits. -/
def decimal (digits : List Char) : Nat := digits.foldl (fun n c => n * 10 + (c.toNat - 0x30)) 0

/-- The floating-point number that a JSON number stands for. -/
def floatOfJson (text : List Char) : Binary64 :=
  let (negative, cs) := match text with
    | '-' :: cs => (true, cs)
    | cs => (false, cs)
  let isMark : Char → Bool := fun c => c = 'e' || c = 'E'
  let mantissa := cs.takeWhile (!isMark ·)
  let whole := mantissa.takeWhile (· != '.')
  let frac := (mantissa.dropWhile (· != '.')).drop 1
  let exponent : Int := match (cs.dropWhile (!isMark ·)).drop 1 with
    | '-' :: digits => -(decimal digits : Int)
    | '+' :: digits => decimal digits
    | digits => decimal digits
  Binary64.ofDecimal negative (decimal (whole ++ frac)) (exponent - frac.length)

/-- The scalar that a JSON number stands for. -/
def scalarOfJson (text : List Char) : Scalar :=
  match text with
  | '-' :: digits =>
    let n := decimal digits
    if digits.all Char.isDigit && n != 0 && n ≤ 9223372036854775808 then .integer (-(n : Int))
    else .float (floatOfJson text)
  | digits =>
    let n := decimal digits
    if digits.all Char.isDigit && n ≤ Json.maxCount then .integer n
    else .float (floatOfJson text)

mutual

/-- **The setting that a JSON value stands for**, if its strings stand for texts. -/
def ofJson? : Json → Option Setting
  | .null => some nil
  | .bool b => some (.scalar (.bool b) none)
  | .number text => some (.scalar (scalarOfJson text) none)
  | .string raw => (Json.decode raw).map fun cs => .scalar (.string (String.ofList cs)) none
  | .array items => (ofItems? items).map (.array · none)
  | .object entries => (ofEntries? entries).map (.table · none)

/-- The settings that several JSON values stand for. -/
def ofItems? : List Json → Option (List Setting)
  | [] => some []
  | j :: rest => do return (← ofJson? j) :: (← ofItems? rest)

/-- The settings that several JSON entries stand for. -/
def ofEntries? : List (List Char × Json) → Option (List (String × Setting))
  | [] => some []
  | (key, j) :: rest => do
    return (String.ofList (← Json.decode key), ← ofJson? j) :: (← ofEntries? rest)

end

end RuleLexer.Setting
