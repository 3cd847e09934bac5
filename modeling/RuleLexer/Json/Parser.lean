import RuleLexer.Json.Basic

/-!
# Reading JSON

A value is read from the front of a text, and what follows it is handed back. Strings are checked
for the form of their escapes; what they stand for is not asked here. A part of a value is shorter
than the value, so that the length of the text bounds the depth of the reading.
-/

namespace RuleLexer.Json

/-- Whether a character may stand between the parts of a value. -/
def isSpace (c : Char) : Bool := c = ' ' || c = '\n' || c = '\t' || c = '\r'

/-- Drops spaces. -/
def dropSpaces (cs : List Char) : List Char := cs.dropWhile isSpace

/-- The characters of a string up to its closing quote, and what follows it. -/
def rawString : List Char → Option (List Char × List Char)
  | [] => none
  | '"' :: rest => some ([], rest)
  | '\\' :: 'u' :: a :: b :: c :: d :: rest =>
    if (hexFour? a b c d).isSome then
      (rawString rest).map fun (raw, rest) => ('\\' :: 'u' :: a :: b :: c :: d :: raw, rest)
    else none
  | '\\' :: c :: rest =>
    if (escaped? c).isSome then (rawString rest).map fun (raw, rest) => ('\\' :: c :: raw, rest)
    else none
  | c :: rest =>
    if c.toNat < 0x20 ∨ c = '\\' then none
    else (rawString rest).map fun (raw, rest) => (c :: raw, rest)

/-- The whole part of a number: a zero alone, or digits that begin with another one. -/
def wholePart (cs : List Char) : Option (List Char × List Char) :=
  match cs.takeWhile Char.isDigit with
  | [] => none
  | '0' :: _ :: _ => none
  | digits => some (digits, cs.dropWhile Char.isDigit)

/-- The digits behind a point or an exponent, of which there must be one. -/
def someDigits (cs : List Char) : Option (List Char × List Char) :=
  match cs.takeWhile Char.isDigit with
  | [] => none
  | digits => some (digits, cs.dropWhile Char.isDigit)

/-- The fraction of a number, if there is one. -/
def fraction : List Char → Option (List Char × List Char)
  | '.' :: rest => (someDigits rest).map fun (digits, rest) => ('.' :: digits, rest)
  | cs => some ([], cs)

/-- The exponent of a number, if there is one. -/
def exponent : List Char → Option (List Char × List Char)
  | c :: rest =>
    if c = 'e' ∨ c = 'E' then
      match rest with
      | '+' :: rest => (someDigits rest).map fun (digits, rest) => (c :: '+' :: digits, rest)
      | '-' :: rest => (someDigits rest).map fun (digits, rest) => (c :: '-' :: digits, rest)
      | rest => (someDigits rest).map fun (digits, rest) => (c :: digits, rest)
    else some ([], c :: rest)
  | [] => some ([], [])

/-- A number. -/
def numberText (cs : List Char) : Option (List Char × List Char) := do
  let (sign, cs) := match cs with
    | '-' :: rest => (['-'], rest)
    | cs => ([], cs)
  let (whole, cs) ← wholePart cs
  let (frac, cs) ← fraction cs
  let (expo, cs) ← exponent cs
  return (sign ++ whole ++ frac ++ expo, cs)

mutual

/-- Reads a value from the front of a text that begins with none of the spaces. -/
def value? : (fuel : Nat) → List Char → Option (Json × List Char)
  | 0, _ => none
  | fuel + 1, cs =>
    match cs with
    | 'n' :: 'u' :: 'l' :: 'l' :: rest => some (.null, rest)
    | 't' :: 'r' :: 'u' :: 'e' :: rest => some (.bool true, rest)
    | 'f' :: 'a' :: 'l' :: 's' :: 'e' :: rest => some (.bool false, rest)
    | '"' :: rest => (rawString rest).map fun (raw, rest) => (.string raw, rest)
    | '[' :: rest =>
      match dropSpaces rest with
      | ']' :: rest => some (.array [], rest)
      | rest => (arrayRest? fuel rest).map fun (items, rest) => (.array items, rest)
    | '\x7b' :: rest =>
      match dropSpaces rest with
      | '\x7d' :: rest => some (.object [], rest)
      | rest => (objectRest? fuel rest).map fun (entries, rest) => (.object entries, rest)
    | cs => (numberText cs).map fun (text, rest) => (.number text, rest)

/-- Reads the items of an array up to its closing bracket, one at least. -/
def arrayRest? : (fuel : Nat) → List Char → Option (List Json × List Char)
  | 0, _ => none
  | fuel + 1, cs => do
    let (item, rest) ← value? fuel cs
    match dropSpaces rest with
    | ',' :: rest =>
      let (items, rest) ← arrayRest? fuel (dropSpaces rest)
      return (item :: items, rest)
    | ']' :: rest => return ([item], rest)
    | _ => none

/-- Reads the entries of an object up to its closing brace, one at least. -/
def objectRest? : (fuel : Nat) → List Char → Option (List (List Char × Json) × List Char)
  | 0, _ => none
  | fuel + 1, cs =>
    match cs with
    | '"' :: rest => do
      let (key, rest) ← rawString rest
      match dropSpaces rest with
      | ':' :: rest =>
        let (value, rest) ← value? fuel (dropSpaces rest)
        match dropSpaces rest with
        | ',' :: rest =>
          let (entries, rest) ← objectRest? fuel (dropSpaces rest)
          return ((key, value) :: entries, rest)
        | '\x7d' :: rest => return ([(key, value)], rest)
        | _ => none
      | _ => none
    | _ => none

end

/-- **Reading a JSON text**: one value, with nothing but spaces around it. -/
def parse? (text : List Char) : Option Json := do
  let (value, rest) ← value? (2 * text.length + 2) (dropSpaces text)
  if (dropSpaces rest).isEmpty then return value else none

end RuleLexer.Json
