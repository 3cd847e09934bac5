import RuleLexer.CharSet

/-!
# Expressions

An expression is a regular expression without flags and without ways of writing: sets of
characters, conditions on the place, captures, repetitions, sequences and choices. Expressions are
built by `seq`, `choice` and `times`, which keep them in a form with few special cases: a sequence
has no empty members and no two literals side by side, a choice between characters is a set, and a
beginning that all members of a choice share stands in front of the choice.

The last rule shows: `X` being able to match in several ways, `XA|XB` prefers all ways of `X` with
`A` to any with `B`, while `X(?:A|B)` prefers the first way of `X` with `B` to the second with `A`.
-/

namespace RuleLexer.Regex

/-- The places that an expression can ask to be at. -/
inductive Look
  /-- At the start of the text. -/
  | textStart
  /-- At the end of the text. -/
  | textEnd
  /-- After a line feed or at the start of the text. -/
  | lineStart
  /-- Before a line feed or at the end of the text. -/
  | lineEnd
  /-- At the start of a line, a carriage return being part of line breaks. -/
  | lineStartCrlf
  /-- At the end of a line, a carriage return being part of line breaks. -/
  | lineEndCrlf
  /-- Between a word character and another character. -/
  | boundary (ascii : Bool)
  /-- Not between a word character and another character. -/
  | notBoundary (ascii : Bool)
  /-- Before a word character and after another character. -/
  | wordStart (ascii : Bool)
  /-- After a word character and before another character. -/
  | wordEnd (ascii : Bool)
  /-- Not after a word character. -/
  | wordStartHalf (ascii : Bool)
  /-- Not before a word character. -/
  | wordEndHalf (ascii : Bool)
  deriving DecidableEq, Repr

/-- A regular expression without flags. -/
inductive Expr
  /-- The empty text. -/
  | empty
  /-- Some characters, one after the other. -/
  | literal (cs : List Char)
  /-- One character of a set. -/
  | set (s : CharSet)
  /-- The empty text at certain places. -/
  | look (l : Look)
  /-- From `least` to `most` times, as often as possible if `greedy`. -/
  | times (body : Expr) (least : Nat) (most : Option Nat) (greedy : Bool)
  /-- What a group captures. -/
  | capture (index : Nat) (body : Expr)
  /-- One after the other. -/
  | cat (first rest : Expr)
  /-- The first, or else the second. -/
  | alt (first second : Expr)
  deriving DecidableEq, Repr

namespace Expr

/-! ### Widths -/

/-- The length of the shortest text that an expression matches, as far as conditions on the place
allow; none if a part of the expression matches nothing. -/
def shortest? : Expr → Option Nat
  | .empty | .look _ => some 0
  | .literal cs => some cs.length
  | .set s => if s.isEmpty then none else some 1
  | .times body least _ _ => body.shortest?.map (· * least)
  | .capture _ body => body.shortest?
  | .cat first rest => first.shortest?.bind fun m => rest.shortest?.map (m + ·)
  | .alt first second => first.shortest?.bind fun m => second.shortest?.map (min m ·)

/-- Whether every text that the expression matches has a character. -/
def consumes (e : Expr) : Bool := e.shortest?.any (0 < ·)

/-- Whether the expression matches the empty text only. -/
def onlyEmpty : Expr → Bool
  | .empty | .look _ => true
  | .literal cs => cs.isEmpty
  | .set _ => false
  | .times body _ most _ => most.isSome && body.onlyEmpty
  | .capture _ body => body.onlyEmpty
  | .cat first rest => first.onlyEmpty && rest.onlyEmpty
  | .alt first second => first.onlyEmpty && second.onlyEmpty

/-- Whether every match begins at the start of the text. -/
def anchored : Expr → Bool
  | .look l => l = .textStart
  | .times body least _ _ => 0 < least && body.anchored
  | .capture _ body => body.anchored
  | .cat first rest => first.anchored || (first.onlyEmpty && rest.anchored)
  | .alt first second => first.anchored && second.anchored
  | _ => false

/-- The largest number of a group that captures. -/
def groups : Expr → Nat
  | .times body .. => body.groups
  | .capture index body => max index body.groups
  | .cat first rest => max first.groups rest.groups
  | .alt first second => max first.groups second.groups
  | _ => 0

/-! ### Sets and repetitions -/

/-- One character of a set; a literal when the set has only one. -/
def ofSet (s : CharSet) : Expr :=
  match s.only? with
  | some c => .literal [c]
  | none => .set s

/-- Matches nothing. -/
def fail : Expr := .set .empty

/-- A repetition. Of a part that only matches the empty text, once is as good as often. -/
def repeated (body : Expr) (least : Nat) (most : Option Nat) (greedy : Bool) : Expr :=
  let (least, most) :=
    if body.onlyEmpty then (min least 1, some (min (most.getD 1) 1)) else (least, most)
  if least = 0 ∧ most = some 0 then .empty
  else if least = 1 ∧ most = some 1 then body
  else .times body least most greedy

/-! ### Sequences -/

/-- The members of a sequence. -/
def members : Expr → List Expr
  | .empty => []
  | .cat first rest => first :: rest.members
  | e => [e]

/-- Joins literals that stand side by side. -/
def joinLiterals : List Expr → List Expr
  | [] => []
  | .literal cs :: es =>
    match joinLiterals es with
    | .literal ds :: es => .literal (cs ++ ds) :: es
    | es => .literal cs :: es
  | e :: es => e :: joinLiterals es

/-- The sequence of members that are no sequences themselves. -/
def ofMembers : List Expr → Expr
  | [] => .empty
  | [e] => e
  | e :: es => .cat e (ofMembers es)

/-- **A sequence.** Sequences among the parts are opened up. -/
def seq (es : List Expr) : Expr := ofMembers (joinLiterals (es.flatMap members))

/-! ### Choices -/

/-- The members of a choice. -/
def choices : Expr → List Expr
  | .alt first second => first :: second.choices
  | e => [e]

/-- The choice between members that are no choices themselves. -/
def ofChoices : List Expr → Expr
  | [] => fail
  | [e] => e
  | e :: es => .alt e (ofChoices es)

/-- The set of an expression that matches exactly one character. -/
def set? : Expr → Option CharSet
  | .set s => some s
  | .literal [c] => some (.single c)
  | _ => none

/-- The set of a choice between single characters. -/
def union? : List Expr → Option CharSet
  | [] => some .empty
  | e :: es => e.set?.bind fun s => (union? es).map s.union

/-- The common beginning of two lists. -/
def commonStart : List Expr → List Expr → List Expr
  | a :: as, b :: bs => if a = b then a :: commonStart as bs else []
  | _, _ => []

/-- The beginning that all members of a choice share, all of them being sequences. -/
def sharedStart : List Expr → List Expr
  | [] => []
  | e :: es =>
    if (e :: es).all isSequence then es.foldl (fun shared e => commonStart shared e.members) e.members
    else []
where
  /-- Whether an expression is a sequence of two members at least. -/
  isSequence : Expr → Bool
    | .cat .. => true
    | _ => false

/-- The number of constructors. -/
def size : Expr → Nat
  | .times body .. => body.size + 1
  | .capture _ body => body.size + 1
  | .cat first rest => first.size + rest.size + 1
  | .alt first second => first.size + second.size + 1
  | _ => 1

/-- A choice, by as many rounds of taking out a shared beginning as `fuel` allows. -/
def choiceWithin : (fuel : Nat) → List Expr → Expr
  | 0, es => ofChoices es
  | fuel + 1, es =>
    match es.flatMap choices with
    | [] => fail
    | [e] => e
    | es =>
      match union? es with
      | some s => ofSet s
      | none =>
        match sharedStart es with
        | [] => ofChoices es
        | shared =>
          seq (shared ++
            [choiceWithin fuel (es.map fun e => seq (e.members.drop shared.length))])

/-- **A choice.** Every round of taking out a shared beginning leaves smaller members, so that their
size bounds the number of rounds. -/
def choice (es : List Expr) : Expr := choiceWithin (es.foldr (fun e n => e.size + n) 1) es

end Expr

end RuleLexer.Regex
