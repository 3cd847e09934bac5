import RuleLexer.CharSet

/-!
# Tables of the character database

A property of characters is a list of rows. A row has the names of one value of the property and
the characters that have it, written as hexadecimal ranges with blanks between them, as in
`370-373 375`. The rows are data; this module says how they are read.
-/

namespace RuleLexer.Unicode

/-- A row of a property table. -/
structure Row where
  /-- The names of the value, in the loose form: lower case, without blanks, dashes and low lines. -/
  names : List String
  /-- The characters that have the value, as ranges in increasing order. -/
  ranges : String

/-- The value of a hexadecimal digit. -/
def hexValue? (c : Char) : Option Nat :=
  if '0' ≤ c ∧ c ≤ '9' then some (c.toNat - 0x30)
  else if 'a' ≤ c ∧ c ≤ 'f' then some (c.toNat - 0x61 + 10)
  else if 'A' ≤ c ∧ c ≤ 'F' then some (c.toNat - 0x41 + 10)
  else none

/-- The words of a text that blanks and line ends separate, `word` being the one in progress with its
last character first. -/
def wordsFrom (word : List Char) : List Char → List (List Char)
  | [] => if word.isEmpty then [] else [word.reverse]
  | c :: cs =>
    if c = ' ' ∨ c = '\n' then
      if word.isEmpty then wordsFrom [] cs else word.reverse :: wordsFrom [] cs
    else wordsFrom (c :: word) cs

/-- The number that hexadecimal digits stand for. -/
def hexNumber (cs : List Char) : Nat :=
  cs.foldl (fun n c => n * 16 + (hexValue? c).getD 0) 0

/-- The range that a word stands for: two numbers with a dash between them, or one number. -/
def rangeOfWord (word : List Char) : Nat × Nat :=
  match word.dropWhile (· ≠ '-') with
  | _ :: high => (hexNumber (word.takeWhile (· ≠ '-')), hexNumber high)
  | [] => (hexNumber word, hexNumber word)

/-- The characters of a row. -/
def Row.chars (row : Row) : CharSet :=
  .ofRanges ((wordsFrom [] row.ranges.toList).map rangeOfWord)

/-- The characters of the first row that has a name. -/
def find? (rows : List Row) (name : String) : Option CharSet :=
  (rows.find? fun row => row.names.contains name).map Row.chars

/-- The characters of all rows together. -/
def everything (rows : List Row) : CharSet :=
  rows.foldl (fun s row => s.union row.chars) .empty

/-- The numbers of a text of hexadecimal numbers. -/
def numbers (text : String) : List Nat :=
  (wordsFrom [] text.toList).map hexNumber

/-- A stretch of pairs of code points: `first`, `first + step`, … up to `last` go with `image`,
`image + step`, …. -/
structure Stretch where
  /-- The first code point. -/
  first : Nat
  /-- The last code point. -/
  last : Nat
  /-- The distance between neighbours. -/
  step : Nat
  /-- The partner of the first code point. -/
  image : Nat

/-- Reads stretches, four numbers each. -/
def Stretch.ofNumbers : List Nat → List Stretch
  | first :: last :: step :: image :: rest => ⟨first, last, step, image⟩ :: ofNumbers rest
  | _ => []

/-- The pairs of a stretch. -/
def Stretch.pairs (s : Stretch) : List (Nat × Nat) :=
  (List.range ((s.last - s.first) / s.step + 1)).map fun i =>
    (s.first + i * s.step, s.image + i * s.step)

/-- The partner of a code point, when the stretch has it. -/
def Stretch.image? (s : Stretch) (n : Nat) : Option Nat :=
  if s.first ≤ n ∧ n ≤ s.last ∧ (n - s.first) % s.step = 0 then some (s.image + (n - s.first))
  else none

end RuleLexer.Unicode
