import RuleLexer.Regex.Expr
import RuleLexer.Regex.Syntax
import RuleLexer.Regex.SyntaxError
import RuleLexer.Unicode.Class
import RuleLexer.Unicode.Folding

/-!
# The meaning of a tree

A tree becomes an expression under a setting of the flags. A setting inside a group holds up to the
end of the group, in all its choices; so the meaning of a tree is its expression together with the
flags that hold after it.

Letters that match in either case are sets that are closed under case folding; a class is closed
before it is negated. Where the `u` flag is off, classes and boundaries speak of ASCII alone, and
what could match part of a character is refused.
-/

namespace RuleLexer.Regex

/-- The flags that hold at a place. -/
structure Flags where
  /-- `i` -/
  ignoreCase : Bool := false
  /-- `m` -/
  multiLine : Bool := false
  /-- `s` -/
  dotAll : Bool := false
  /-- `U` -/
  swapGreed : Bool := false
  /-- `u`, which holds unless it is turned off -/
  unicode : Bool := true
  /-- `R` -/
  crlf : Bool := false
  deriving DecidableEq, Repr

/-- Sets one flag. -/
def Flags.set (flags : Flags) : Flag × Bool → Flags
  | (.ignoreCase, b) => { flags with ignoreCase := b }
  | (.multiLine, b) => { flags with multiLine := b }
  | (.dotAll, b) => { flags with dotAll := b }
  | (.swapGreed, b) => { flags with swapGreed := b }
  | (.unicode, b) => { flags with unicode := b }
  | (.crlf, b) => { flags with crlf := b }
  | (.verbose, _) => flags

/-- Sets some flags, one after the other. -/
def Flags.apply (flags : Flags) (settings : FlagSettings) : Flags := settings.foldl Flags.set flags

/-! ### Classes -/

/-- The characters of a named class. -/
def AsciiClass.chars : AsciiClass → CharSet
  | .alnum => .ofRanges [(0x30, 0x39), (0x41, 0x5A), (0x61, 0x7A)]
  | .alpha => .ofRanges [(0x41, 0x5A), (0x61, 0x7A)]
  | .ascii => .ofRanges [(0x00, 0x7F)]
  | .blank => .ofRanges [(0x09, 0x09), (0x20, 0x20)]
  | .cntrl => .ofRanges [(0x00, 0x1F), (0x7F, 0x7F)]
  | .digit => .ofRanges [(0x30, 0x39)]
  | .graph => .ofRanges [(0x21, 0x7E)]
  | .lower => .ofRanges [(0x61, 0x7A)]
  | .print => .ofRanges [(0x20, 0x7E)]
  | .punct => .ofRanges [(0x21, 0x2F), (0x3A, 0x40), (0x5B, 0x60), (0x7B, 0x7E)]
  | .space => .ofRanges [(0x09, 0x0D), (0x20, 0x20)]
  | .upper => .ofRanges [(0x41, 0x5A)]
  | .word => .ofRanges [(0x30, 0x39), (0x41, 0x5A), (0x5F, 0x5F), (0x61, 0x7A)]
  | .xdigit => .ofRanges [(0x30, 0x39), (0x41, 0x46), (0x61, 0x66)]

/-- The characters of a class with a one-letter escape. -/
def EscapeClass.chars (unicode : Bool) : EscapeClass → CharSet
  | .digit => if unicode then Unicode.digits else AsciiClass.digit.chars
  | .space => if unicode then Unicode.blanks else AsciiClass.space.chars
  | .word => if unicode then Unicode.wordChars else AsciiClass.word.chars

/-- The characters that a property query asks for. -/
def PropertyQuery.chars? : PropertyQuery → Option CharSet
  | .single name => Unicode.single? (Unicode.looseName name)
  | .value property wanted =>
    Unicode.byValue? (Unicode.looseName property) (Unicode.looseName wanted)

namespace Flags

/-- Closes a set under the case folding that the flags ask for. -/
def fold (flags : Flags) (s : CharSet) : CharSet :=
  if !flags.ignoreCase then s
  else if flags.unicode then Unicode.closeUnderFolding s
  else Unicode.closeUnderAsciiFolding s

/-- Negates a set if asked to. Where the `u` flag is off, a set must stay within ASCII. -/
def negate (flags : Flags) (negated : Bool) (s : CharSet) : Except SyntaxError CharSet :=
  let s := if negated then s.compl else s
  if flags.unicode || s.isAscii then .ok s else .error .notText

/-- The character that a literal stands for. Where the `u` flag is off, a byte outside of ASCII
stands for none. -/
def char (flags : Flags) (l : Literal) : Except SyntaxError Char :=
  if !flags.unicode && l.byte && 0x80 ≤ l.char.toNat then .error .notText else .ok l.char

/-- The character that a literal stands for in brackets, where the `u` flag being off leaves only
characters of ASCII. -/
def classChar (flags : Flags) (l : Literal) : Except SyntaxError Char := do
  let c ← flags.char l
  if !flags.unicode && 0x80 ≤ c.toNat then .error .unicodeOff else return c

/-- The class of an escape. -/
def escapeClass (flags : Flags) (kind : EscapeClass) (negated : Bool) :
    Except SyntaxError CharSet :=
  flags.negate negated (kind.chars flags.unicode)

/-- The class of a property. -/
def propertyClass (flags : Flags) (query : PropertyQuery) (negated : Bool) :
    Except SyntaxError CharSet :=
  if !flags.unicode then .error .unicodeOff
  else match query.chars? with
    | some s => flags.negate negated (flags.fold s)
    | none => .error .unknownProperty

end Flags

/-- The characters of the inside of a class in brackets. -/
def ClassTree.chars (flags : Flags) : ClassTree → Except SyntaxError CharSet
  | .empty => .ok .empty
  | .literal l => do return .single (← flags.classChar l)
  | .range first last => do
    return .range (← flags.classChar first).toNat (← flags.classChar last).toNat
  | .ascii kind negated => flags.negate negated (flags.fold kind.chars)
  | .escape kind negated => flags.escapeClass kind negated
  | .property query negated => flags.propertyClass query negated
  | .bracketed inner negated => do flags.negate negated (flags.fold (← inner.chars flags))
  | .union first rest => do return (← first.chars flags).union (← rest.chars flags)
  | .operation op left right => do
    let left := flags.fold (← left.chars flags)
    let right := flags.fold (← right.chars flags)
    match op with
    | .intersection => return left.inter right
    | .difference => return left.diff right
    | .symmetricDifference => return left.symmDiff right

/-! ### Trees -/

namespace Flags

/-- The expression of a character. -/
def literal (flags : Flags) (l : Literal) : Except SyntaxError Expr := do
  let c ← flags.char l
  if !flags.ignoreCase || (!flags.unicode && 0x80 ≤ c.toNat) then return .literal [c]
  else return .ofSet (flags.fold (.single c))

/-- The expression of the dot. -/
def dot (flags : Flags) : Except SyntaxError Expr :=
  if !flags.unicode then .error .notText
  else if flags.dotAll then .ok (.ofSet .all)
  else if flags.crlf then .ok (.ofSet (CharSet.ofList ['\n', '\r']).compl)
  else .ok (.ofSet (CharSet.single '\n').compl)

/-- The condition that an assertion stands for. -/
def look (flags : Flags) : Assertion → Look
  | .lineStart =>
    if flags.multiLine then if flags.crlf then .lineStartCrlf else .lineStart else .textStart
  | .lineEnd =>
    if flags.multiLine then if flags.crlf then .lineEndCrlf else .lineEnd else .textEnd
  | .textStart => .textStart
  | .textEnd => .textEnd
  | .wordBoundary => .boundary (!flags.unicode)
  | .notWordBoundary => .notBoundary (!flags.unicode)
  | .wordStart => .wordStart (!flags.unicode)
  | .wordEnd => .wordEnd (!flags.unicode)
  | .wordStartHalf => .wordStartHalf (!flags.unicode)
  | .wordEndHalf => .wordEndHalf (!flags.unicode)

end Flags

/-- The members of a sequence, or the choices of a choice, or else the one expression, with the
flags that hold at the end. -/
structure Meaning where
  /-- The expressions, in order. -/
  parts : List Expr
  /-- The flags that hold after the tree. -/
  flags : Flags

/-- **The meaning of a tree** under the flags that hold before it. The chain says in what the tree
stands: the rest of a sequence or choice adds its parts to those of the whole. -/
def Tree.meaning (chain : Chain) (flags : Flags) : Tree → Except SyntaxError Meaning
  | .empty => .ok ⟨[.empty], flags⟩
  | .flags settings => .ok ⟨[.empty], flags.apply settings⟩
  | .literal l => do return ⟨[← flags.literal l], flags⟩
  | .dot => do return ⟨[← flags.dot], flags⟩
  | .assertion kind => .ok ⟨[.look (flags.look kind)], flags⟩
  | .escape kind negated => do return ⟨[.ofSet (← flags.escapeClass kind negated)], flags⟩
  | .property query negated => do return ⟨[.ofSet (← flags.propertyClass query negated)], flags⟩
  | .bracketed inner negated => do
    return ⟨[.ofSet (← flags.negate negated (flags.fold (← inner.chars flags)))], flags⟩
  | .repetition body least most greedy => do
    let body ← body.meaning .neither flags
    return ⟨[.repeated (.seq body.parts) least most (greedy != body.flags.swapGreed)], body.flags⟩
  | .capture index body => do
    return ⟨[.capture index (.seq (← body.meaning .neither flags).parts)], flags⟩
  | .group settings body => do
    return ⟨[.seq (← body.meaning .neither (flags.apply settings)).parts], flags⟩
  | .cat first rest => do
    let first ← first.meaning .neither flags
    let rest ← rest.meaning .sequence first.flags
    let parts := first.parts ++ rest.parts
    return ⟨if chain = .sequence then parts else [.seq parts], rest.flags⟩
  | .alt first rest => do
    let first ← first.meaning .neither flags
    let rest ← rest.meaning .choice first.flags
    let parts := first.parts ++ rest.parts
    return ⟨if chain = .choice then parts else [.choice parts], rest.flags⟩

/-- The expression of a whole tree. -/
def Tree.toExpr? (tree : Tree) : Except SyntaxError Expr := do
  return .seq (← tree.meaning .neither {}).parts

end RuleLexer.Regex
