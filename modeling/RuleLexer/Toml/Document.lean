import RuleLexer.Toml.Number
import RuleLexer.Toml.Text
import RuleLexer.Toml.Tree

/-!
# Documents

A document is a sequence of statements, a line each: an entry, or a header that says to which table
the entries after it belong. Reading a document yields its top-level entries, or fails; why it fails
is not told.
-/

namespace RuleLexer.Toml

/-! ### Values -/

/-- Whether a character may stand in a number, a date or a word. -/
def isWordChar (c : Char) : Bool :=
  c.isAlphanum || c = '+' || c = '-' || c = '_' || c = '.' || c = ':'

/-- The value that is all of a text of such characters. -/
def word? (cs : List Char) : Option Value :=
  if cs = ['t', 'r', 'u', 'e'] then some (.bool true)
  else if cs = ['f', 'a', 'l', 's', 'e'] then some (.bool false)
  else
    (DateTime.ofText? cs).map .dateTime <|> (float? cs).map .float <|> (integer? cs).map .integer

/-- A number, a date or a word. A date may be followed by a time, with one space between them. -/
def scalar? (cs : List Char) : Option (Value × List Char) :=
  let first := cs.takeWhile isWordChar
  let rest := cs.dropWhile isWordChar
  match rest with
  | ' ' :: d :: more =>
    if d.isDigit && (Date.read? first).any (·.2.isEmpty) then
      (word? (first ++ ' ' :: (d :: more).takeWhile isWordChar)).map
        (·, (d :: more).dropWhile isWordChar)
    else (word? first).map (·, rest)
  | _ => (word? first).map (·, rest)

/-- Drops blanks, comments and line breaks. A comment must end at a line break. -/
def dropFiller (cs : List Char) : Option (List Char) :=
  match dropBlanks cs with
  | '#' :: rest =>
    match afterBreak? (rest.dropWhile isPlain) with
    | some rest => if rest.length < cs.length then dropFiller rest else none
    | none => none
  | '\r' :: '\n' :: rest | '\n' :: rest =>
    if rest.length < cs.length then dropFiller rest else none
  | rest => some rest
termination_by cs.length

/-- The items of an array up to its closing bracket, each read the same way. -/
def items? (read : List Char → Option (Value × List Char)) (cs : List Char) :
    Option (List Value × List Char) :=
  match dropFiller cs with
  | none => none
  | some (']' :: rest) => some ([], rest)
  | some start =>
    match read start with
    | none => none
    | some (item, rest) =>
      match dropFiller rest with
      | some (']' :: rest) => some ([item], rest)
      | some (',' :: rest) =>
        if rest.length < cs.length then (items? read rest).map fun (is, rest) => (item :: is, rest)
        else none
      | _ => none
termination_by cs.length

/-- The entries of a table on one line up to its closing brace, one at least. -/
def fields? (read : List Char → Option (Value × List Char)) (entries : Node.Entries)
    (cs : List Char) : Option (Node.Entries × List Char) :=
  match key? cs with
  | some ((path, last), '=' :: start) =>
    match read (dropBlanks start) with
    | none => none
    | some (v, rest) =>
      match Node.insert? v last path entries with
      | none => none
      | some entries =>
        match dropBlanks rest with
        | '\x7d' :: rest => some (entries, rest)
        | ',' :: rest => if rest.length < cs.length then fields? read entries rest else none
        | _ => none
  | _ => none
termination_by cs.length

/-- **A value**, in which arrays and tables are nested less deep than `depth`. -/
def value? : (depth : Nat) → List Char → Option (Value × List Char)
  | depth, '[' :: rest =>
    match depth with
    | 0 => none
    | depth + 1 => (items? (value? depth) rest).map fun (is, rest) => (.array is, rest)
  | depth, '\x7b' :: rest =>
    match depth with
    | 0 => none
    | depth + 1 =>
      match dropBlanks rest with
      | '\x7d' :: rest => some (.table [], rest)
      | _ => (fields? (value? depth) [] rest).map fun (es, rest) =>
          (.table (Node.toEntries es), rest)
  | _, cs =>
    match cs with
    | '"' :: _ | '\'' :: _ => (string? cs).map fun (s, rest) => (.string s, rest)
    | _ => scalar? cs

/-! ### Statements -/

/-- A statement of a document. -/
inductive Statement
  /-- A value under a key. -/
  | entry (path : List String) (last : String) (v : Value)
  /-- A header for a table. -/
  | header (path : List String) (last : String)
  /-- A header for an element of a list of tables. -/
  | element (path : List String) (last : String)
  deriving Repr

/-- A statement and the end of its line. -/
def statement? (cs : List Char) : Option (Statement × List Char) :=
  match cs with
  | '[' :: '[' :: rest => do
    match ← key? rest with
    | ((path, last), ']' :: ']' :: rest) => return (.element path last, ← afterLine? rest)
    | _ => none
  | '[' :: rest => do
    match ← key? rest with
    | ((path, last), ']' :: rest) => return (.header path last, ← afterLine? rest)
    | _ => none
  | cs => do
    match ← key? cs with
    | ((path, last), '=' :: rest) =>
      let (v, rest) ← value? (depthBound - 1) (dropBlanks rest)
      return (.entry path last v, ← afterLine? rest)
    | _ => none

/-- The statements of a text. -/
def statements? (cs : List Char) : Option (List Statement) :=
  match dropBlanks cs with
  | [] => some []
  | '\r' :: '\n' :: rest | '\n' :: rest =>
    if rest.length < cs.length then statements? rest else none
  | '#' :: rest =>
    match afterLine? ('#' :: rest) with
    | some rest => if rest.length < cs.length then statements? rest else none
    | none => none
  | start =>
    match statement? start with
    | some (s, rest) =>
      if rest.length < cs.length then (statements? rest).map (s :: ·) else none
    | none => none
termination_by cs.length

/-! ### Documents -/

/-- What statements make of the top-level entries, `current` being the header that they belong to,
none at the top. -/
def build? : (current : List String) → Node.Entries → List Statement → Option Node.Entries
  | _, entries, [] => some entries
  | current, entries, .entry path last v :: rest => do
    build? current (← Node.within? (Node.insert? v last path) current entries) rest
  | _, entries, .header path last :: rest => do
    build? (path ++ [last]) (← Node.within? (Node.openTable? last) path entries) rest
  | _, entries, .element path last :: rest => do
    build? (path ++ [last]) (← Node.within? (Node.openElement? last) path entries) rest

/-- Drops a byte-order mark at the front. -/
def dropMark : List Char → List Char
  | '\ufeff' :: cs => cs
  | cs => cs

/-- **Reading a document**: its top-level entries. -/
def parse? (text : String) : Option (List (String × Value)) := do
  let statements ← statements? (dropMark text.toList)
  return Node.toEntries (← build? [] [] statements)

end RuleLexer.Toml
