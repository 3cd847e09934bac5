import RuleLexer.Toml.Value

/-!
# Blanks, comments and strings

The small parts of a document. Each function reads one of them from the front of a text and hands
back what follows it.

A string on one line holds no control characters but tabs. A string over several lines may hold line
breaks; one right at its start is left out, and each of the others counts as a line feed. One or two
quotes may stand in it, also at its very end.
-/

namespace RuleLexer.Toml

/-! ### Blanks, line breaks and comments -/

/-- Whether a character is a blank. -/
def isBlank (c : Char) : Bool := c = ' ' || c = '\t'

/-- Drops blanks. -/
def dropBlanks (cs : List Char) : List Char := cs.dropWhile isBlank

/-- Whether a character may stand in a comment or in a string on one line. -/
def isPlain (c : Char) : Bool := c = '\t' || (0x20 ≤ c.toNat && c.toNat != 0x7F)

/-- What follows a line break at the front. -/
def afterBreak? : List Char → Option (List Char)
  | '\n' :: cs => some cs
  | '\r' :: '\n' :: cs => some cs
  | _ => none

/-- Drops a comment, if there is one. -/
def dropComment : List Char → List Char
  | '#' :: cs => cs.dropWhile isPlain
  | cs => cs

/-- What follows the end of a line, with blanks and a comment in front of it. -/
def afterLine? (cs : List Char) : Option (List Char) :=
  match dropComment (dropBlanks cs) with
  | [] => some []
  | cs => afterBreak? cs

/-! ### Escapes -/

/-- The value of a hexadecimal digit. -/
def hexDigit? (c : Char) : Option Nat :=
  if c.isDigit then some (c.toNat - 0x30)
  else if 'a' ≤ c ∧ c ≤ 'f' then some (c.toNat - 0x61 + 10)
  else if 'A' ≤ c ∧ c ≤ 'F' then some (c.toNat - 0x41 + 10)
  else none

/-- The character with a code point, given by its hexadecimal digits. -/
def ofCode? (digits : List Char) : Option Char := do
  let n := (← digits.mapM hexDigit?).foldl (fun n d => n * 16 + d) 0
  if n.isValidChar then some (Char.ofNat n) else none

/-- The character that stands behind a backslash for another one. -/
def escaped? : Char → Option Char
  | 'b' => some '\x08'
  | 't' => some '\t'
  | 'n' => some '\n'
  | 'f' => some '\x0c'
  | 'r' => some '\r'
  | '"' => some '"'
  | '\\' => some '\\'
  | _ => none

/-! ### Strings on one line -/

/-- The rest of a string in double quotes. -/
def quoted? : List Char → Option (List Char × List Char)
  | [] => none
  | '"' :: rest => some ([], rest)
  | '\\' :: 'u' :: a :: b :: c :: d :: rest => do
    let x ← ofCode? [a, b, c, d]
    let (cs, rest) ← quoted? rest
    return (x :: cs, rest)
  | '\\' :: 'U' :: a :: b :: c :: d :: e :: f :: g :: h :: rest => do
    let x ← ofCode? [a, b, c, d, e, f, g, h]
    let (cs, rest) ← quoted? rest
    return (x :: cs, rest)
  | '\\' :: c :: rest => do
    let x ← escaped? c
    let (cs, rest) ← quoted? rest
    return (x :: cs, rest)
  | c :: rest =>
    if isPlain c && c != '\\' then (quoted? rest).map fun (cs, rest) => (c :: cs, rest) else none

/-- The rest of a string in single quotes. -/
def literal? : List Char → Option (List Char × List Char)
  | [] => none
  | '\'' :: rest => some ([], rest)
  | c :: rest =>
    if isPlain c then (literal? rest).map fun (cs, rest) => (c :: cs, rest) else none

/-! ### Strings over several lines -/

/-- Whether a line break follows, with blanks in front of it. -/
def breakFollows (cs : List Char) : Bool := (afterBreak? (dropBlanks cs)).isSome

/-- The rest of a string in three double quotes. Behind a backslash at the end of a line, blanks and
line breaks are passed over up to the next other character. -/
def quotedLines? : (joining : Bool) → List Char → Option (List Char × List Char)
  | _, [] => none
  | _, '"' :: '"' :: '"' :: '"' :: '"' :: rest => some (['"', '"'], rest)
  | _, '"' :: '"' :: '"' :: '"' :: rest => some (['"'], rest)
  | _, '"' :: '"' :: '"' :: rest => some ([], rest)
  | joining, '\r' :: '\n' :: rest =>
    if joining then quotedLines? true rest
    else (quotedLines? false rest).map fun (cs, rest) => ('\n' :: cs, rest)
  | _, '\\' :: 'u' :: a :: b :: c :: d :: rest => do
    let x ← ofCode? [a, b, c, d]
    let (cs, rest) ← quotedLines? false rest
    return (x :: cs, rest)
  | _, '\\' :: 'U' :: a :: b :: c :: d :: e :: f :: g :: h :: rest => do
    let x ← ofCode? [a, b, c, d, e, f, g, h]
    let (cs, rest) ← quotedLines? false rest
    return (x :: cs, rest)
  | _, '\\' :: c :: rest =>
    if breakFollows (c :: rest) then quotedLines? true (c :: rest)
    else do
      let x ← escaped? c
      let (cs, rest) ← quotedLines? false rest
      return (x :: cs, rest)
  | joining, c :: rest =>
    if joining && (isBlank c || c = '\n') then quotedLines? true rest
    else if (isPlain c && c != '\\') || c = '\n' then
      (quotedLines? false rest).map fun (cs, rest) => (c :: cs, rest)
    else none

/-- The rest of a string in three single quotes. -/
def literalLines? : List Char → Option (List Char × List Char)
  | [] => none
  | '\'' :: '\'' :: '\'' :: '\'' :: '\'' :: rest => some (['\'', '\''], rest)
  | '\'' :: '\'' :: '\'' :: '\'' :: rest => some (['\''], rest)
  | '\'' :: '\'' :: '\'' :: rest => some ([], rest)
  | '\r' :: '\n' :: rest => (literalLines? rest).map fun (cs, rest) => ('\n' :: cs, rest)
  | c :: rest =>
    if isPlain c || c = '\n' then (literalLines? rest).map fun (cs, rest) => (c :: cs, rest)
    else none

/-- Drops a line break at the front. -/
def dropBreak (cs : List Char) : List Char := (afterBreak? cs).getD cs

/-! ### Strings and keys -/

/-- **A string**, of any of the four kinds. -/
def string? : List Char → Option (String × List Char)
  | '"' :: '"' :: '"' :: rest => (quotedLines? false (dropBreak rest)).map ofChars
  | '"' :: rest => (quoted? rest).map ofChars
  | '\'' :: '\'' :: '\'' :: rest => (literalLines? (dropBreak rest)).map ofChars
  | '\'' :: rest => (literal? rest).map ofChars
  | _ => none
where
  /-- Turns the characters of a string into a text. -/
  ofChars : List Char × List Char → String × List Char
    | (cs, rest) => (String.ofList cs, rest)

/-- Whether a character may stand in a key without quotes. -/
def isBare (c : Char) : Bool := c.isAlphanum || c = '-' || c = '_'

/-- One part of a key. -/
def keyPart? : List Char → Option (String × List Char)
  | '"' :: rest => (quoted? rest).map fun (cs, rest) => (String.ofList cs, rest)
  | '\'' :: rest => (literal? rest).map fun (cs, rest) => (String.ofList cs, rest)
  | cs =>
    let part := cs.takeWhile isBare
    if part.isEmpty then none else some (String.ofList part, cs.dropWhile isBare)

/-- The parts of a key, joined by points, with blanks around them. -/
def keyParts? (cs : List Char) : Option (List String × List Char) :=
  match keyPart? (dropBlanks cs) with
  | none => none
  | some (part, rest) =>
    match dropBlanks rest with
    | '.' :: rest =>
      if rest.length < cs.length then (keyParts? rest).map fun (parts, rest) => (part :: parts, rest)
      else none
    | rest => some ([part], rest)
termination_by cs.length

/-- The bound of the length of keys and of the depth of values. -/
def depthBound : Nat := 80

/-- **A key**: its parts but the last, and the last. -/
def key? (cs : List Char) : Option ((List String × String) × List Char) := do
  let (parts, rest) ← keyParts? cs
  if parts.length < depthBound then
    let last ← parts.getLast?
    return ((parts.dropLast, last), rest)
  else none

end RuleLexer.Toml
