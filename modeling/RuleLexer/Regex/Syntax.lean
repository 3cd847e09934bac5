import RuleLexer.CharSet

/-!
# Regular expressions as written

The tree of a regular expression, close to its text: groups, repetitions and classes are kept as
they were written, and flags are still instructions. What the tree means is settled by
`Tree.toExpr?`, which turns it into an expression without flags.

A tree can be nested too deeply to be accepted; `Tree.depth` measures nesting.
-/

namespace RuleLexer.Regex

/-- The flags that a regular expression can set. -/
inductive Flag
  /-- `i`: letters match in either case. -/
  | ignoreCase
  /-- `m`: `^` and `$` match at line breaks too. -/
  | multiLine
  /-- `s`: `.` matches line breaks too. -/
  | dotAll
  /-- `U`: repetitions are lazy, and greedy when marked. -/
  | swapGreed
  /-- `u`: classes and boundaries speak of all characters, and not of ASCII alone. -/
  | unicode
  /-- `R`: a carriage return is part of a line break. -/
  | crlf
  /-- `x`: blanks and comments in the text of the expression do not count. -/
  | verbose
  deriving DecidableEq, Repr

/-- The settings of flags by one group, in the order written. -/
abbrev FlagSettings := List (Flag × Bool)

/-- The last setting of a flag, if there is one. -/
def FlagSettings.value? (settings : FlagSettings) (flag : Flag) : Option Bool :=
  (settings.reverse.find? (·.1 = flag)).map (·.2)

/-- The named classes of ASCII characters. -/
inductive AsciiClass
  | alnum | alpha | ascii | blank | cntrl | digit | graph | lower | print | punct | space | upper
  | word | xdigit
  deriving DecidableEq, Repr

/-- The classes with a one-letter escape. -/
inductive EscapeClass
  | digit | space | word
  deriving DecidableEq, Repr

/-- What a class escape by property asks for, in the words of the expression. -/
inductive PropertyQuery
  /-- A single name. -/
  | single (name : List Char)
  /-- A property and one of its values. -/
  | value (property value : List Char)
  deriving DecidableEq, Repr

/-- A character as written. -/
structure Literal where
  /-- The character. -/
  char : Char
  /-- Whether it was written as a byte, by an escape with two hexadecimal digits. -/
  byte : Bool := false
  deriving DecidableEq, Repr

/-- The operations between the two halves of a class in brackets. -/
inductive SetOperation
  | intersection | difference | symmetricDifference
  deriving DecidableEq, Repr

/-- The inside of a class in brackets. -/
inductive ClassTree
  /-- Nothing. -/
  | empty
  /-- One character. -/
  | literal (l : Literal)
  /-- All characters from the first to the last. -/
  | range (first last : Literal)
  /-- A named class such as `[:alpha:]`. -/
  | ascii (kind : AsciiClass) (negated : Bool)
  /-- A class such as `\d`. -/
  | escape (kind : EscapeClass) (negated : Bool)
  /-- A class such as `\p{Greek}`. -/
  | property (query : PropertyQuery) (negated : Bool)
  /-- A class in brackets inside brackets. -/
  | bracketed (inner : ClassTree) (negated : Bool)
  /-- A first item followed by others. -/
  | union (first rest : ClassTree)
  /-- The two sides of a set operation. -/
  | operation (op : SetOperation) (left right : ClassTree)
  deriving DecidableEq, Repr

/-- The places that an expression can ask to be at. -/
inductive Assertion
  | lineStart | lineEnd | textStart | textEnd
  | wordBoundary | notWordBoundary
  | wordStart | wordEnd | wordStartHalf | wordEndHalf
  deriving DecidableEq, Repr

/-- A regular expression as written. -/
inductive Tree
  /-- Nothing at all. -/
  | empty
  /-- A setting of flags for the rest of the group. -/
  | flags (settings : FlagSettings)
  /-- A character. -/
  | literal (l : Literal)
  /-- The dot. -/
  | dot
  /-- A condition on the place. -/
  | assertion (kind : Assertion)
  /-- A class such as `\d`. -/
  | escape (kind : EscapeClass) (negated : Bool)
  /-- A class such as `\p{Greek}`. -/
  | property (query : PropertyQuery) (negated : Bool)
  /-- A class in brackets. -/
  | bracketed (inner : ClassTree) (negated : Bool)
  /-- From `least` to `most` times, as often as possible if `greedy`. -/
  | repetition (body : Tree) (least : Nat) (most : Option Nat) (greedy : Bool)
  /-- A group that captures under a number. -/
  | capture (index : Nat) (body : Tree)
  /-- A group that does not capture, with the flags that it sets for itself. -/
  | group (settings : FlagSettings) (body : Tree)
  /-- One after the other; a longer sequence is nested to the right. -/
  | cat (first rest : Tree)
  /-- One or the other; further choices are nested to the right. -/
  | alt (first rest : Tree)
  deriving DecidableEq, Repr

/-! ### Sequences and choices -/

/-- The sequence of some trees; of one tree, the tree. -/
def Tree.ofSequence : List Tree → Tree
  | [] => .empty
  | [t] => t
  | t :: ts => .cat t (ofSequence ts)

/-- The choice between some trees; of one tree, the tree. -/
def Tree.ofChoices : List Tree → Tree
  | [] => .empty
  | [t] => t
  | t :: ts => .alt t (ofChoices ts)

/-- The union of the items of a class; of one item, the item. -/
def ClassTree.ofItems : List ClassTree → ClassTree
  | [] => .empty
  | [t] => t
  | t :: ts => .union t (ofItems ts)

/-! ### Nesting -/

/-- How deeply a class is nested. A union counts once, however many items it has, which is what
`inUnion` is about. -/
def ClassTree.depth (inUnion : Bool) : ClassTree → Nat
  | .bracketed inner _ => inner.depth false + 1
  | .union first rest =>
    max (first.depth false) (rest.depth true) + (if inUnion then 0 else 1)
  | .operation _ left right => max (left.depth false) (right.depth false) + 1
  | _ => 0

/-- The chain of constructors that a tree stands in: a sequence or a choice with many members is a
single level. -/
inductive Chain
  | sequence | choice | neither
  deriving DecidableEq

/-- How deeply a tree is nested. Sequences, choices, groups, repetitions and classes in brackets
count, whatever their length. -/
def Tree.depth (chain : Chain) : Tree → Nat
  | .bracketed inner _ => inner.depth false + 1
  | .repetition body .. => body.depth .neither + 1
  | .capture _ body => body.depth .neither + 1
  | .group _ body => body.depth .neither + 1
  | .cat first rest =>
    max (first.depth .neither) (rest.depth .sequence) + (if chain = .sequence then 0 else 1)
  | .alt first rest =>
    max (first.depth .neither) (rest.depth .choice) + (if chain = .choice then 0 else 1)
  | _ => 0

end RuleLexer.Regex
