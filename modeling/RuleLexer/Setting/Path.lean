/-!
# Key paths

A key path leads from the top of the settings to one of them: a key, then further keys behind
points, and places in lists in brackets. Keys consist of letters and digits of ASCII, underscores,
hyphens and spaces. A place that is negative counts from the end of the list.
-/

namespace RuleLexer

/-- A step of a key path. -/
inductive KeyStep
  /-- To the entry of a table. -/
  | key (name : String)
  /-- To an item of a list. -/
  | index (place : Int)
  deriving DecidableEq, Repr

/-- A key path: its first key, and the steps behind it. -/
structure KeyPath where
  /-- The first key. -/
  head : String
  /-- The steps behind it. -/
  steps : List KeyStep
  deriving DecidableEq, Repr

namespace KeyPath

/-- Whether a character may stand in a key. -/
def isKeyChar (c : Char) : Bool := c.isAlphanum || c = '_' || c = '-' || c = ' '

/-- Whether a character is a blank. -/
def isBlank (c : Char) : Bool := c = ' ' || c = '\t'

/-- The key at the front of a text, and what follows it. -/
def key? (cs : List Char) : Option (String × List Char) :=
  let name := cs.takeWhile isKeyChar
  if name.isEmpty then none else some (String.ofList name, cs.dropWhile isKeyChar)

/-- The bound of places. -/
def placeBound : Nat := 9223372036854775808

/-- The place that is all of a text, apart from blanks around it. -/
def place? (cs : List Char) : Option Int :=
  let cs := cs.dropWhile isBlank
  let (negative, cs) := match cs with
    | '-' :: rest => (true, rest)
    | cs => (false, cs)
  let digits := cs.takeWhile Char.isDigit
  let n := digits.foldl (fun n c => n * 10 + (c.toNat - 0x30)) 0
  if digits.isEmpty || !(cs.dropWhile Char.isDigit).all isBlank then none
  else if negative then if n ≤ placeBound then some (-(n : Int)) else none
  else if n < placeBound then some n else none

/-- The step at the front of a text, and what follows it. -/
def step? : List Char → Option (KeyStep × List Char)
  | '.' :: cs => (key? cs).map fun (name, rest) => (.key name, rest)
  | '[' :: cs =>
    match cs.dropWhile (· != ']') with
    | ']' :: rest => (place? (cs.takeWhile (· != ']'))).map fun place => (.index place, rest)
    | _ => none
  | _ => none

/-- The steps that are all of a text. -/
def steps? (cs : List Char) : Option (List KeyStep) :=
  match cs with
  | [] => some []
  | cs =>
    match step? cs with
    | some (step, rest) => if rest.length < cs.length then (steps? rest).map (step :: ·) else none
    | none => none
termination_by cs.length

/-- **The key path that a text stands for.** -/
def ofText? (text : String) : Option KeyPath := do
  let (head, rest) ← key? text.toList
  return ⟨head, ← steps? rest⟩

end KeyPath

end RuleLexer
