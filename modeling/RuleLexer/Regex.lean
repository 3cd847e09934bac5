import RuleLexer.Regex.Meaning
import RuleLexer.Regex.Parser
import RuleLexer.Regex.Search

/-!
# Regular expressions

A regular expression is compiled from its text, which fails if the text is malformed or if the
program would take too much memory. A compiled expression finds its first match in a text, by
preference among the matches that start first.
-/

namespace RuleLexer

/-- Why a regular expression does not compile. -/
inductive RegexError
  /-- The text is malformed. -/
  | malformed (cause : Regex.SyntaxError)
  /-- The program would be too large. -/
  | tooLarge
  deriving DecidableEq, Repr

/-- A compiled regular expression. -/
structure Regex where
  /-- The program that finds matches. -/
  program : Regex.Program
  /-- The number of groups that capture. -/
  groups : Nat
  deriving DecidableEq, Repr

namespace Regex

/-- The stretch of text between two places, each given by the number of characters before it. -/
structure Span where
  /-- Where the stretch begins. -/
  start : Nat
  /-- Where it ends. -/
  stop : Nat
  deriving DecidableEq, Repr

/-- The characters of a text within a span. -/
def Span.of (s : Span) (text : List Char) : List Char := (text.drop s.start).take (s.stop - s.start)

/-- A match of a regular expression in a text. -/
structure Found where
  /-- The whole match. -/
  whole : Span
  /-- What the groups captured, from the first group on. -/
  groups : List (Option Span)
  deriving DecidableEq, Repr

/-- The most memory that a program may take, in bytes. -/
def maxWeight : Nat := 10485760

/-- **Compiling** the text of a regular expression. -/
def compile (text : List Char) : Except RegexError Regex :=
  match Tree.parse text >>= Tree.toExpr? with
  | .error cause => .error (.malformed cause)
  | .ok e => if e.weight ≤ maxWeight then .ok ⟨e.program, e.groups⟩ else .error .tooLarge

/-- The span that two slots hold, if both do. -/
def spanAt? (slots : Slots) (index : Nat) : Option Span :=
  match slots[2 * index]?, slots[2 * index + 1]? with
  | some (some start), some (some stop) => some ⟨start, stop⟩
  | _, _ => none

/-- **The first match** in a text. -/
def find? (r : Regex) (text : List Char) : Option Found := do
  let slots ← r.program.search? text
  let whole ← spanAt? slots 0
  return ⟨whole, (List.range r.groups).map fun k => spanAt? slots (k + 1)⟩

end Regex

end RuleLexer
