import RuleLexer.Text.Hex

/-!
# JSON values

A JSON value keeps its numbers and strings as they are written, a string as the characters between
its quotes. So printing a value and reading it back gives the same value, whatever the values of its
numbers and strings may be; what a string stands for is a question of its own, which can fail.
-/

namespace RuleLexer

/-- A JSON value as written. -/
inductive Json
  /-- The value that stands for nothing. -/
  | null
  /-- A truth value. -/
  | bool (b : Bool)
  /-- A number, by its characters. -/
  | number (text : List Char)
  /-- A string, by the characters between its quotes. -/
  | string (raw : List Char)
  /-- An array. -/
  | array (items : List Json)
  /-- An object, by its keys as written and their values. -/
  | object (entries : List (List Char × Json))
  deriving Repr

namespace Json

/-! ### The written form of texts -/

/-- How a character is written in a string. Quotes, backslashes and control characters are
escaped. -/
def encodeChar (c : Char) : List Char :=
  if c = '"' then ['\\', '"']
  else if c = '\\' then ['\\', '\\']
  else if c = '\n' then ['\\', 'n']
  else if c = '\r' then ['\\', 'r']
  else if c = '\t' then ['\\', 't']
  else if c.toNat = 0x08 then ['\\', 'b']
  else if c.toNat = 0x0C then ['\\', 'f']
  else if c.toNat < 0x20 then '\\' :: 'u' :: Text.hexPadded 4 c.toNat
  else [c]

/-- The written form of a text. -/
def encode (cs : List Char) : List Char := cs.flatMap encodeChar

/-- The value of a hexadecimal digit. -/
def hexDigit? (c : Char) : Option Nat :=
  if c.isDigit then some (c.toNat - 0x30)
  else if 'a' ≤ c ∧ c ≤ 'f' then some (c.toNat - 0x61 + 10)
  else if 'A' ≤ c ∧ c ≤ 'F' then some (c.toNat - 0x41 + 10)
  else none

/-- The value of four hexadecimal digits. -/
def hexFour? (a b c d : Char) : Option Nat := do
  return (((← hexDigit? a) * 16 + (← hexDigit? b)) * 16 + (← hexDigit? c)) * 16 + (← hexDigit? d)

/-- The character that stands behind a backslash for another one. -/
def escaped? : Char → Option Char
  | '"' => some '"'
  | '\\' => some '\\'
  | '/' => some '/'
  | 'b' => some '\x08'
  | 'f' => some '\x0c'
  | 'n' => some '\n'
  | 'r' => some '\r'
  | 't' => some '\t'
  | _ => none

/-- **What a written string stands for.** A character outside of the first plane may be written as a
pair of surrogates; a surrogate alone stands for nothing. -/
def decode : List Char → Option (List Char)
  | [] => some []
  | '\\' :: 'u' :: a :: b :: c :: d :: '\\' :: 'u' :: a' :: b' :: c' :: d' :: rest => do
    let n ← hexFour? a b c d
    if 0xD800 ≤ n ∧ n < 0xDC00 then
      let m ← hexFour? a' b' c' d'
      if 0xDC00 ≤ m ∧ m < 0xE000 then
        return Char.ofNat (0x10000 + (n - 0xD800) * 0x400 + (m - 0xDC00)) :: (← decode rest)
      else none
    else if 0xDC00 ≤ n ∧ n < 0xE000 then none
    else return Char.ofNat n :: (← decode ('\\' :: 'u' :: a' :: b' :: c' :: d' :: rest))
  | '\\' :: 'u' :: a :: b :: c :: d :: rest => do
    let n ← hexFour? a b c d
    if 0xD800 ≤ n ∧ n < 0xE000 then none else return Char.ofNat n :: (← decode rest)
  | '\\' :: c :: rest => do return (← escaped? c) :: (← decode rest)
  | ['\\'] => none
  | c :: rest => do return c :: (← decode rest)

/-! ### Building and reading values -/

/-- The string that stands for a text. -/
def ofString (s : String) : Json := .string (encode s.toList)

/-- The number that stands for a natural number. -/
def ofNat (n : Nat) : Json := .number (toString n).toList

/-- The object with the given entries. -/
def ofEntries (entries : List (String × Json)) : Json :=
  .object (entries.map fun (key, value) => (encode key.toList, value))

/-- The text that a string stands for, if it is a string and stands for one. -/
def string? : Json → Option String
  | .string raw => (decode raw).map String.ofList
  | _ => none

/-- The largest number that a count can be. -/
def maxCount : Nat := 18446744073709551615

/-- The count that a number stands for: a whole number in range, written without a sign, a point or
an exponent. -/
def count? : Json → Option Nat
  | .number text =>
    let n := text.foldl (fun n c => n * 10 + (c.toNat - 0x30)) 0
    if text.all Char.isDigit && n ≤ maxCount then some n else none
  | _ => none

/-- The truth value, if it is one. -/
def bool? : Json → Option Bool
  | .bool b => some b
  | _ => none

/-- The items of an array. -/
def items? : Json → Option (List Json)
  | .array items => some items
  | _ => none

/-! ### Printing -/

/-- A string in its quotes. -/
def quotedRaw (raw : List Char) : List Char := '"' :: (raw ++ ['"'])

mutual

/-- **The compact text of a value**, without any blanks. -/
def compact : Json → List Char
  | .null => ['n', 'u', 'l', 'l']
  | .bool true => ['t', 'r', 'u', 'e']
  | .bool false => ['f', 'a', 'l', 's', 'e']
  | .number text => text
  | .string raw => quotedRaw raw
  | .array [] => ['[', ']']
  | .array (item :: items) => '[' :: (item.compact ++ compactItems items)
  | .object [] => ['\x7b', '\x7d']
  | .object ((key, value) :: entries) =>
    '\x7b' :: (quotedRaw key ++ ':' :: (value.compact ++ compactEntries entries))

/-- The rest of an array after its first item. -/
def compactItems : List Json → List Char
  | [] => [']']
  | item :: items => ',' :: (item.compact ++ compactItems items)

/-- The rest of an object after its first entry. -/
def compactEntries : List (List Char × Json) → List Char
  | [] => ['\x7d']
  | (key, value) :: entries =>
    ',' :: (quotedRaw key ++ ':' :: (value.compact ++ compactEntries entries))

end

/-- A line end and the blanks in front of a value at a depth of nesting. -/
def newline (depth : Nat) : List Char := '\n' :: List.replicate (2 * depth) ' '

mutual

/-- **The text of a value with a line for every part**, two blanks further in for every level. -/
def pretty (depth : Nat) : Json → List Char
  | .null => ['n', 'u', 'l', 'l']
  | .bool true => ['t', 'r', 'u', 'e']
  | .bool false => ['f', 'a', 'l', 's', 'e']
  | .number text => text
  | .string raw => quotedRaw raw
  | .array [] => ['[', ']']
  | .array (item :: items) =>
    '[' :: (newline (depth + 1) ++ item.pretty (depth + 1) ++ prettyItems depth items)
  | .object [] => ['\x7b', '\x7d']
  | .object ((key, value) :: entries) =>
    '\x7b' :: (newline (depth + 1) ++ quotedRaw key ++ ':' :: ' ' ::
      (value.pretty (depth + 1) ++ prettyEntries depth entries))

/-- The rest of an array after its first item. -/
def prettyItems (depth : Nat) : List Json → List Char
  | [] => newline depth ++ [']']
  | item :: items =>
    ',' :: (newline (depth + 1) ++ item.pretty (depth + 1) ++ prettyItems depth items)

/-- The rest of an object after its first entry. -/
def prettyEntries (depth : Nat) : List (List Char × Json) → List Char
  | [] => newline depth ++ ['\x7d']
  | (key, value) :: entries =>
    ',' :: (newline (depth + 1) ++ quotedRaw key ++ ':' :: ' ' ::
      (value.pretty (depth + 1) ++ prettyEntries depth entries))

end

end Json

end RuleLexer
