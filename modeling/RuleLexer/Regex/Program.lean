import RuleLexer.Regex.Expr

/-!
# Programs

A program is a list of instructions that an expression is laid out in. An instruction that passes
control on names the address of the next one, and a split names two, the preferred one first. The
code of an expression occupies a block that starts at a given address and passes control to a given
exit; the code of a part is a sub-block, so that code is defined by recursion on expressions.

A repetition is laid out as copies of its body followed by a loop or by optional copies. The body of
a loop that starts with a test must have a character in every match; for the others a loop that ends
with a test stands behind a single test, so that an empty iteration is passed through once.
-/

namespace RuleLexer.Regex

/-- An instruction. -/
inductive Instr
  /-- Takes a character of a set. -/
  | char (s : CharSet) (next : Nat)
  /-- Goes on at certain places only. -/
  | look (l : Look) (next : Nat)
  /-- Goes on at two addresses, preferring the first. -/
  | split (first second : Nat)
  /-- Notes the place in a slot. -/
  | save (slot : Nat) (next : Nat)
  /-- Goes on. -/
  | jump (next : Nat)
  /-- Ends a match. -/
  | accept
  deriving DecidableEq, Repr

/-- A split whose first address is preferred if `greedy`, and its second one otherwise. -/
def Instr.prefer (greedy : Bool) (inside outside : Nat) : Instr :=
  if greedy then .split inside outside else .split outside inside

namespace Expr

/-- The code of some characters, one after the other. -/
def literalCode (base exit : Nat) : List Char → List Instr
  | [] => [.jump exit]
  | [c] => [.char (.single c) exit]
  | c :: cs => .char (.single c) (base + 1) :: literalCode (base + 1) exit cs

/-- The number of instructions that an expression is laid out in. -/
def width : Expr → Nat
  | .empty | .set _ | .look _ => 1
  | .literal cs => max 1 cs.length
  | .times body least most _ =>
    match most with
    | some most => least * body.width + (most - least) * (body.width + 1) + 1
    | none =>
      match least with
      | 0 => if body.consumes then body.width + 1 else body.width + 2
      | least + 1 => least * body.width + (body.width + 1)
  | .capture _ body => body.width + 2
  | .cat first rest => first.width + rest.width
  | .alt first second => first.width + second.width + 1

/-- **The code of an expression**, laid out from the address `base` on and passing control to the
address `exit`. -/
def code (base exit : Nat) : Expr → List Instr
  | .empty => [.jump exit]
  | .literal cs => literalCode base exit cs
  | .set s => [.char s exit]
  | .look l => [.look l exit]
  | .times body least most greedy =>
    let w := body.width
    let copies (n : Nat) : List Instr :=
      (List.range n).flatMap fun i => body.code (base + i * w) (base + (i + 1) * w)
    match most with
    | some most =>
      let start := base + least * w
      let optional := (List.range (most - least)).flatMap fun i =>
        let here := start + i * (w + 1)
        .prefer greedy (here + 1) exit :: body.code (here + 1) (here + 1 + w)
      copies least ++ (optional ++ [.jump exit])
    | none =>
      match least with
      | 0 =>
        if body.consumes then
          .prefer greedy (base + 1) exit :: body.code (base + 1) base
        else
          .prefer greedy (base + 1) exit ::
            (body.code (base + 1) (base + 1 + w) ++ [.prefer greedy (base + 1) exit])
      | least + 1 =>
        let start := base + least * w
        copies least ++ (body.code start (start + w) ++ [.prefer greedy start exit])
  | .capture index body =>
    .save (2 * index) (base + 1) ::
      (body.code (base + 1) (base + 1 + body.width) ++ [.save (2 * index + 1) exit])
  | .cat first rest => first.code base (base + first.width) ++ rest.code (base + first.width) exit
  | .alt first second =>
    .split (base + 1) (base + 1 + first.width) ::
      (first.code (base + 1) exit ++ second.code (base + 1 + first.width) exit)

/-- An estimate of the memory for the code of an expression, in bytes. A set costs by its stretches,
everything else by its instructions. -/
def weight : Expr → Nat
  | .empty | .look _ => 32
  | .literal cs => 32 * (cs.map Char.utf8Size).sum
  | .set s => if s.isAscii then 32 + 8 * s.cuts.length else 32 + 14 * s.cuts.length
  | .times body least most _ =>
    match most with
    | some most => least * body.weight + (most - least) * (body.weight + 40) + 32
    | none => (max 1 least) * body.weight + 80
  | .capture _ body => body.weight + 64
  | .cat first rest => first.weight + rest.weight
  | .alt first second => first.weight + second.weight + 36

end Expr

/-- A program, with what is known of all its matches. -/
structure Program where
  /-- The instructions, by address; a run starts at the first one. -/
  instrs : Array Instr
  /-- The number of slots. -/
  slots : Nat
  /-- Whether every match begins at the start of the text. -/
  anchored : Bool
  deriving DecidableEq, Repr

/-- The program of an expression, which notes the ends of the match in the first two slots and those
of the group `k` in the slots `2 * k` and `2 * k + 1`. -/
def Expr.program (e : Expr) : Program where
  instrs := (.save 0 1 :: (e.code 1 (1 + e.width) ++
    [.save 1 (2 + e.width), .accept])).toArray
  slots := 2 * (e.groups + 1)
  anchored := e.anchored

end RuleLexer.Regex
