import RuleLexer.Regex.Syntax
import RuleLexer.Regex.SyntaxError
import RuleLexer.Unicode.Class

/-!
# Reading regular expressions

A regular expression is read from left to right. The groups that are still open are kept as a list
of frames, so that a closing parenthesis finds what stood around its group; a class in brackets is
read the same way with frames of its own. Every step takes at least one character, which is why the
number of characters bounds the number of steps.

Blanks and comments are left out where the `x` flag is set. The flag is the one thing that reading
has to know about flags; all others wait in the tree.
-/

namespace RuleLexer.Regex

open Unicode (isBlank isAlphabetic isAlphanumeric hexValue?)

/-! ### Blanks and comments -/

/-- Drops blanks, and comments from `#` to the end of the line. -/
def dropBlanks (inComment : Bool) : List Char → List Char
  | [] => []
  | c :: cs =>
    if inComment then dropBlanks (c ≠ '\n') cs
    else if isBlank c then dropBlanks false cs
    else if c = '#' then dropBlanks true cs
    else c :: cs

/-- Drops blanks and comments where the `x` flag is set. -/
def skip (verbose : Bool) (cs : List Char) : List Char :=
  if verbose then dropBlanks false cs else cs

/-- The next character that counts. With the `x` flag set, one `#` is passed over as if it were a
blank, and the first character after it counts. -/
def peek? (verbose : Bool) (cs : List Char) : Option Char :=
  if verbose then
    match cs.dropWhile isBlank with
    | '#' :: rest =>
      match rest.dropWhile isBlank with
      | c :: _ => some c
      | [] => cs.head?
    | c :: _ => some c
    | [] => cs.head?
  else cs.head?

/-! ### Escapes -/

/-- What stands for a character or for a class of characters, or for a place. -/
inductive Atom
  | literal (l : Literal)
  | assertion (kind : Assertion)
  | escape (kind : EscapeClass) (negated : Bool)
  | property (query : PropertyQuery) (negated : Bool)
  deriving DecidableEq, Repr

/-- The tree of an atom. -/
def Atom.toTree : Atom → Tree
  | .literal l => .literal l
  | .assertion kind => .assertion kind
  | .escape kind negated => .escape kind negated
  | .property query negated => .property query negated

/-- The item of a class in brackets that an atom is. -/
def Atom.toClassItem? : Atom → Except SyntaxError ClassTree
  | .literal l => .ok (.literal l)
  | .escape kind negated => .ok (.escape kind negated)
  | .property query negated => .ok (.property query negated)
  | .assertion _ => .error .badClassItem

/-- The character that an atom is. -/
def Atom.toLiteral? : Atom → Except SyntaxError Literal
  | .literal l => .ok l
  | _ => .error .badClassItem

/-- The character with a code point, if there is one. -/
def charOf? (n : Nat) : Option Char :=
  if n < 0xD800 ∨ (0xDFFF < n ∧ n < 0x110000) then some (Char.ofNat n) else none

/-- Reads exactly `count` hexadecimal digits after the number `n`. -/
def hexDigits (verbose : Bool) : (count : Nat) → (n : Nat) → List Char →
    Except SyntaxError (Nat × List Char)
  | 0, n, cs => .ok (n, cs)
  | count + 1, n, c :: cs =>
    match hexValue? c with
    | some d => hexDigits verbose count (n * 16 + d) (skip verbose cs)
    | none => .error .badEscape
  | _ + 1, _, [] => .error .badEscape

/-- The characters up to a closing brace, and what comes after it. -/
def untilBrace (verbose : Bool) : (fuel : Nat) → List Char → Option (List Char × List Char)
  | 0, _ => none
  | _ + 1, [] => none
  | fuel + 1, c :: cs =>
    if c = '}' then some ([], cs)
    else (untilBrace verbose fuel (skip verbose cs)).map fun (text, rest) => (c :: text, rest)

/-- The number that hexadecimal digits stand for. -/
def hexNumber? (n : Nat) : List Char → Option Nat
  | [] => some n
  | c :: cs => (hexValue? c).bind fun d => hexNumber? (n * 16 + d) cs

/-- A character by its code point: `count` digits, or any number of them in braces. -/
def hexEscape (verbose : Bool) (count : Nat) (cs : List Char) :
    Except SyntaxError (Literal × List Char) :=
  match skip verbose cs with
  | [] => .error .badEscape
  | '{' :: rest =>
    match untilBrace verbose (rest.length + 1) (skip verbose rest) with
    | some (text, rest) =>
      if text.isEmpty then .error .badEscape
      else match (hexNumber? 0 text).bind charOf? with
        | some c => .ok (⟨c, false⟩, skip verbose rest)
        | none => .error .badEscape
    | none => .error .badEscape
  | rest => do
    let (n, rest) ← hexDigits verbose count 0 rest
    match charOf? n with
    | some c => .ok (⟨c, count = 2⟩, rest)
    | none => .error .badEscape

/-- Splits a text at the first place where `mark` stands. -/
def splitAt? (mark : List Char) : List Char → Option (List Char × List Char)
  | [] => none
  | c :: cs =>
    if mark.isPrefixOf (c :: cs) then some ([], (c :: cs).drop mark.length)
    else (splitAt? mark cs).map fun (before, after) => (c :: before, after)

/-- The query of a braced property escape, and whether it is turned around. -/
def propertyQuery (text : List Char) : PropertyQuery × Bool :=
  match splitAt? ['!', '='] text with
  | some (p, v) => (.value p v, true)
  | none =>
    match splitAt? [':'] text <|> splitAt? ['='] text with
    | some (p, v) => (.value p v, false)
    | none => (.single text, false)

/-- A class by property: one letter, or a query in braces. -/
def propertyEscape (verbose negated : Bool) (cs : List Char) :
    Except SyntaxError (Atom × List Char) :=
  match skip verbose cs with
  | [] => .error .badEscape
  | '{' :: rest =>
    match untilBrace verbose (rest.length + 1) (skip verbose rest) with
    | some (text, rest) =>
      let (query, turned) := propertyQuery text
      .ok (.property query (negated != turned), rest)
    | none => .error .badEscape
  | c :: rest =>
    if c = '\\' then .error .badEscape
    else .ok (.property (.single [c]) negated, skip verbose rest)

/-- Whether a character can stand in the name of a word boundary. -/
def isBoundaryChar (c : Char) : Bool := c.isAlpha || c = '-'

/-- The longest start of a text that could be the name of a word boundary, and the rest. -/
def boundaryName (verbose : Bool) : (fuel : Nat) → List Char → List Char × List Char
  | 0, cs => ([], cs)
  | _ + 1, [] => ([], [])
  | fuel + 1, c :: cs =>
    if isBoundaryChar c then
      let (name, rest) := boundaryName verbose fuel (skip verbose cs)
      (c :: name, rest)
    else ([], c :: cs)

/-- The word boundary whose escape ends before `cs`. A brace that no letter and no dash follows
belongs to a repetition. -/
def wordBoundary (verbose : Bool) (cs : List Char) : Except SyntaxError (Assertion × List Char) :=
  match cs with
  | '{' :: inside =>
    match skip verbose inside with
    | [] => .error .badBoundary
    | c :: rest =>
      if isBoundaryChar c then
        match boundaryName verbose (rest.length + 1) (c :: rest) with
        | (name, '}' :: rest) =>
          match String.ofList name with
          | "start" => .ok (.wordStart, rest)
          | "end" => .ok (.wordEnd, rest)
          | "start-half" => .ok (.wordStartHalf, rest)
          | "end-half" => .ok (.wordEndHalf, rest)
          | _ => .error .badBoundary
        | _ => .error .badBoundary
      else .ok (.wordBoundary, cs)
  | _ => .ok (.wordBoundary, cs)

/-- Whether an escaped character stands for itself: the characters of ASCII that are no letters, no
digits and no angle brackets. -/
def standsForItself (c : Char) : Bool :=
  c.toNat < 0x80 && !c.isAlphanum && c ≠ '<' && c ≠ '>'

/-- **Reading an escape**, from the character after the backslash on. -/
def escape (verbose : Bool) : List Char → Except SyntaxError (Atom × List Char)
  | [] => .error .badEscape
  | c :: cs =>
    let literal (c : Char) : Except SyntaxError (Atom × List Char) := .ok (.literal ⟨c, false⟩, cs)
    let hex (count : Nat) : Except SyntaxError (Atom × List Char) :=
      (hexEscape verbose count cs).map fun (l, rest) => (.literal l, rest)
    match c with
    | 'x' => hex 2
    | 'u' => hex 4
    | 'U' => hex 8
    | 'p' => propertyEscape verbose false cs
    | 'P' => propertyEscape verbose true cs
    | 'd' => .ok (.escape .digit false, cs)
    | 's' => .ok (.escape .space false, cs)
    | 'w' => .ok (.escape .word false, cs)
    | 'D' => .ok (.escape .digit true, cs)
    | 'S' => .ok (.escape .space true, cs)
    | 'W' => .ok (.escape .word true, cs)
    | 'a' => literal '\x07'
    | 'f' => literal '\x0c'
    | 't' => literal '\t'
    | 'n' => literal '\n'
    | 'r' => literal '\r'
    | 'v' => literal '\x0b'
    | 'A' => .ok (.assertion .textStart, cs)
    | 'z' => .ok (.assertion .textEnd, cs)
    | 'b' => (wordBoundary verbose cs).map fun (kind, rest) => (.assertion kind, rest)
    | 'B' => .ok (.assertion .notWordBoundary, cs)
    | '<' => .ok (.assertion .wordStart, cs)
    | '>' => .ok (.assertion .wordEnd, cs)
    | c => if standsForItself c then literal c else .error .badEscape

/-! ### Classes in brackets -/

/-- What stands around an inner part of a class in brackets. -/
inductive ClassFrame
  /-- The items in front of an inner class, the last one first, and whether that class is negated. -/
  | opened (before : List ClassTree) (negated : Bool)
  /-- The left side of a set operation. -/
  | operand (op : SetOperation) (left : ClassTree)

/-- The start of a class after its opening bracket: whether it is negated, and its leading dashes,
or else its leading closing bracket, as items with the last one first. -/
def openClass (verbose : Bool) (cs : List Char) :
    Except SyntaxError (Bool × List ClassTree × List Char) :=
  let (negated, rest) :=
    match skip verbose cs with
    | '^' :: rest => (true, skip verbose rest)
    | rest => (false, rest)
  let (dashes, rest) := leadingDashes rest.length [] rest
  match dashes, rest with
  | _, [] => .error .unclosedClass
  | [], ']' :: rest =>
    match skip verbose rest with
    | [] => .error .unclosedClass
    | rest => .ok (negated, [.literal ⟨']', false⟩], rest)
  | dashes, rest => .ok (negated, dashes, rest)
where
  /-- Takes the leading dashes. -/
  leadingDashes : (fuel : Nat) → List ClassTree → List Char → List ClassTree × List Char
    | fuel + 1, items, '-' :: cs =>
      leadingDashes fuel (.literal ⟨'-', false⟩ :: items) (skip verbose cs)
    | _, items, cs => (items, cs)

/-- The named class with a name. -/
def AsciiClass.ofName? : String → Option AsciiClass
  | "alnum" => some .alnum
  | "alpha" => some .alpha
  | "ascii" => some .ascii
  | "blank" => some .blank
  | "cntrl" => some .cntrl
  | "digit" => some .digit
  | "graph" => some .graph
  | "lower" => some .lower
  | "print" => some .print
  | "punct" => some .punct
  | "space" => some .space
  | "upper" => some .upper
  | "word" => some .word
  | "xdigit" => some .xdigit
  | _ => none

/-- A named class such as `[:alpha:]`, from the character after its opening bracket on. A text that
is none is read as an inner class instead. -/
def namedClass? : List Char → Option (ClassTree × List Char)
  | ':' :: cs =>
    let (negated, cs) :=
      match cs with
      | '^' :: rest => (true, rest)
      | rest => (false, rest)
    match cs.dropWhile (· ≠ ':') with
    | ':' :: ']' :: rest =>
      (AsciiClass.ofName? (String.ofList (cs.takeWhile (· ≠ ':')))).map fun kind =>
        (.ascii kind negated, rest)
    | _ => none
  | _ => none

/-- An atom in brackets: an escape, or the character itself. -/
def classAtom (verbose : Bool) : List Char → Except SyntaxError (Atom × List Char)
  | [] => .error .unclosedClass
  | '\\' :: cs => escape verbose cs
  | c :: cs => .ok (.literal ⟨c, false⟩, cs)

/-- An item in brackets: an atom, or a range between two of them. A dash in front of the closing
bracket or of another dash makes no range. -/
def classItem (verbose : Bool) (cs : List Char) : Except SyntaxError (ClassTree × List Char) := do
  let (first, rest) ← classAtom verbose cs
  match skip verbose rest with
  | [] => .error .unclosedClass
  | '-' :: after =>
    let next := peek? verbose after
    if next = some ']' ∨ next = some '-' then return (← first.toClassItem?, '-' :: after)
    let (last, rest) ← classAtom verbose (skip verbose after)
    let first ← first.toLiteral?
    let last ← last.toLiteral?
    if first.char ≤ last.char then return (.range first last, rest) else .error .badRange
  | rest => return (← first.toClassItem?, rest)

/-- Closes the set operations that are open within the innermost brackets. -/
def closeOperations : List ClassFrame → ClassTree → ClassTree × List ClassFrame
  | .operand op left :: frames, right => closeOperations frames (.operation op left right)
  | frames, inner => (inner, frames)

/-- Reads the rest of a class in brackets, `items` being the items of its innermost part, the last
one first. -/
def classRest (verbose : Bool) : (fuel : Nat) → List ClassFrame → List ClassTree → List Char →
    Except SyntaxError (Tree × List Char)
  | 0, _, _, _ => .error .unclosedClass
  | fuel + 1, frames, items, cs =>
    let operation (op : SetOperation) (rest : List Char) : Except SyntaxError (Tree × List Char) :=
      let (left, frames) := closeOperations frames (.ofItems items.reverse)
      classRest verbose fuel (.operand op left :: frames) [] rest
    match skip verbose cs with
    | [] => .error .unclosedClass
    | '[' :: rest =>
      match namedClass? rest with
      | some (item, rest) => classRest verbose fuel frames (item :: items) rest
      | none => do
        let (negated, inner, rest) ← openClass verbose rest
        classRest verbose fuel (.opened items negated :: frames) inner rest
    | ']' :: rest =>
      match closeOperations frames (.ofItems items.reverse) with
      | (inner, [.opened _ negated]) => .ok (.bracketed inner negated, rest)
      | (inner, .opened before negated :: frames) =>
        classRest verbose fuel frames (.bracketed inner negated :: before) rest
      | (_, _) => .error .unclosedClass
    | '&' :: '&' :: rest => operation .intersection rest
    | '-' :: '-' :: rest => operation .difference rest
    | '~' :: '~' :: rest => operation .symmetricDifference rest
    | rest => do
      let (item, rest) ← classItem verbose rest
      classRest verbose fuel frames (item :: items) rest

/-- **Reading a class in brackets**, from the character after its opening bracket on. -/
def bracketed (verbose : Bool) (cs : List Char) : Except SyntaxError (Tree × List Char) := do
  let (negated, items, rest) ← openClass verbose cs
  classRest verbose (rest.length + 1) [.opened [] negated] items rest

/-! ### Repetitions -/

/-- The largest count that a repetition can have. -/
def maxCount : Nat := 4294967295

/-- The decimal digits at the start of a text, with blanks and comments between them left out. -/
def countDigits (verbose : Bool) : (fuel : Nat) → List Char → List Char × List Char
  | 0, cs => ([], cs)
  | _ + 1, [] => ([], [])
  | fuel + 1, c :: cs =>
    if c.isDigit then
      let (digits, rest) := countDigits verbose fuel (skip verbose cs)
      (c :: digits, rest)
    else ([], c :: cs)

/-- A count of a repetition, with the blanks around it. -/
def count (verbose : Bool) (cs : List Char) : Except SyntaxError (Nat × List Char) :=
  let cs := cs.dropWhile isBlank
  let (digits, rest) := countDigits verbose (cs.length + 1) cs
  let n := digits.foldl (fun n c => n * 10 + (c.toNat - 0x30)) 0
  if digits.isEmpty ∨ maxCount < n then .error .badCount
  else .ok (n, afterBlanks (rest.length + 1) rest)
where
  /-- Drops blanks, and comments after blanks. -/
  afterBlanks : Nat → List Char → List Char
    | fuel + 1, c :: cs => if isBlank c then afterBlanks fuel (skip verbose cs) else c :: cs
    | _, cs => cs

/-- The counts of a repetition, from the character after its opening brace up to its closing one. -/
def counts (verbose : Bool) (cs : List Char) :
    Except SyntaxError (Nat × Option Nat × List Char) := do
  let (least, rest) ← count verbose (skip verbose cs)
  let (most, rest) ←
    match rest with
    | ',' :: rest =>
      match skip verbose rest with
      | '}' :: rest => pure (none, '}' :: rest)
      | rest => do
        let (most, rest) ← count verbose rest
        pure (some most, rest)
    | rest => pure (some least, rest)
  match rest with
  | '}' :: rest =>
    if most.all (least ≤ ·) then return (least, most, skip verbose rest)
    else .error .badCount
  | _ => .error .badCount

/-- Whether a repetition is greedy, from the text after it: a question mark makes it lazy. -/
def greediness : List Char → Bool × List Char
  | '?' :: rest => (false, rest)
  | rest => (true, rest)

/-! ### Flags -/

/-- The flag with a letter. -/
def Flag.ofChar? : Char → Option Flag
  | 'i' => some .ignoreCase
  | 'm' => some .multiLine
  | 's' => some .dotAll
  | 'U' => some .swapGreed
  | 'u' => some .unicode
  | 'R' => some .crlf
  | 'x' => some .verbose
  | _ => none

/-- Reads flags up to a colon or a closing parenthesis. A dash turns the flags after it off; it
stands at most once and not at the end, and no flag stands twice. -/
def flagSettings (settings : FlagSettings) (off : Bool) (afterDash : Bool) :
    List Char → Except SyntaxError (FlagSettings × List Char)
  | [] => .error .badFlags
  | c :: cs =>
    if c = ':' ∨ c = ')' then
      if afterDash then .error .badFlags else .ok (settings.reverse, c :: cs)
    else if c = '-' then
      if off then .error .badFlags else flagSettings settings true true cs
    else match Flag.ofChar? c with
      | some flag =>
        if settings.any (·.1 = flag) then .error .badFlags
        else flagSettings ((flag, !off) :: settings) off false cs
      | none => .error .badFlags

/-! ### The whole expression -/

/-- How an open group began. -/
inductive Opening
  /-- As a group that captures under a number. -/
  | capture (index : Nat)
  /-- As a group with flags of its own. -/
  | plain (settings : FlagSettings)

/-- The tree of a group. -/
def Opening.close : Opening → Tree → Tree
  | .capture index, body => .capture index body
  | .plain settings, body => .group settings body

/-- What stands around an open group. -/
structure Frame where
  /-- How the group began. -/
  opening : Opening
  /-- The earlier choices around it, the last one first. -/
  choices : List Tree
  /-- The earlier members of the sequence around it, the last one first. -/
  items : List Tree
  /-- Whether the `x` flag is set around it. -/
  verbose : Bool

/-- How far reading has come. -/
structure Progress where
  /-- What is still to be read. -/
  rest : List Char
  /-- Whether the `x` flag is set here. -/
  verbose : Bool
  /-- The number of the last group that captures. -/
  groups : Nat
  /-- The names of groups so far. -/
  names : List (List Char)
  /-- The open groups, the innermost first. -/
  frames : List Frame
  /-- The finished choices of the innermost group, the last one first. -/
  choices : List Tree
  /-- The members of the sequence in progress, the last one first. -/
  items : List Tree

namespace Progress

/-- The tree of the innermost group as far as it was read. -/
def body (p : Progress) : Tree :=
  .ofChoices ((Tree.ofSequence p.items.reverse :: p.choices).reverse)

/-- Goes on after an item. -/
def push (p : Progress) (item : Tree) (rest : List Char) : Progress :=
  { p with items := item :: p.items, rest := rest }

/-- Opens a group. -/
def openGroup (p : Progress) (opening : Opening) (verbose : Bool) (rest : List Char) : Progress :=
  { p with
    rest := rest, verbose := verbose, choices := [], items := []
    frames := ⟨opening, p.choices, p.items, p.verbose⟩ :: p.frames }

/-- Opens a group that captures under the next number. -/
def openCapture (p : Progress) (rest : List Char) : Progress :=
  { p.openGroup (.capture (p.groups + 1)) p.verbose rest with groups := p.groups + 1 }

/-- Closes the innermost group. -/
def close (p : Progress) (rest : List Char) : Except SyntaxError Progress :=
  match p.frames with
  | [] => .error .unopenedGroup
  | frame :: frames =>
    .ok { p with
      rest := rest, verbose := frame.verbose, frames := frames, choices := frame.choices
      items := frame.opening.close p.body :: frame.items }

/-- Repeats the last item. -/
def repeatLast (p : Progress) (least : Nat) (most : Option Nat) (rest : List Char) :
    Except SyntaxError Progress :=
  match p.items with
  | [] | .empty :: _ | .flags _ :: _ => .error .nothingToRepeat
  | item :: items =>
    let (greedy, rest) := greediness rest
    .ok { p with items := .repetition item least most greedy :: items, rest := rest }

/-- Opens a group whose name starts with `cs`. -/
def openNamed (p : Progress) (cs : List Char) : Except SyntaxError Progress :=
  let name := cs.takeWhile (· ≠ '>')
  match name, cs.dropWhile (· ≠ '>') with
  | first :: more, _ :: rest =>
    if (first = '_' || isAlphabetic first) &&
        more.all fun c => isAlphanumeric c || ['_', '.', '[', ']'].contains c then
      if p.names.contains name then .error .repeatedGroupName
      else .ok { p.openCapture rest with names := name :: p.names }
    else .error .badGroupName
  | _, _ => .error .badGroupName

/-- Opens a group, from the character after its parenthesis on, or sets flags. -/
def parenthesis (p : Progress) (cs : List Char) : Except SyntaxError Progress :=
  match skip p.verbose cs with
  | '?' :: '=' :: _ | '?' :: '!' :: _ | '?' :: '<' :: '=' :: _ | '?' :: '<' :: '!' :: _ =>
    .error .lookaround
  | '?' :: 'P' :: '<' :: rest => p.openNamed rest
  | '?' :: '<' :: rest => p.openNamed rest
  | '?' :: rest => do
    let (settings, rest) ← flagSettings [] false false rest
    let verbose := (settings.value? .verbose).getD p.verbose
    match rest with
    | ')' :: rest =>
      if settings.isEmpty then .error .badFlags
      else return { p.push (.flags settings) rest with verbose := verbose }
    | _ => return p.openGroup (.plain settings) verbose (rest.drop 1)
  | rest => .ok (p.openCapture rest)

/-- One step of reading, at the character `c` with `cs` after it. -/
def step (p : Progress) (c : Char) (cs : List Char) : Except SyntaxError Progress :=
  match c with
  | '(' => p.parenthesis cs
  | ')' => p.close cs
  | '|' =>
    .ok { p with rest := cs, items := [], choices := .ofSequence p.items.reverse :: p.choices }
  | '[' => (bracketed p.verbose cs).map fun (item, rest) => p.push item rest
  | '?' => p.repeatLast 0 (some 1) cs
  | '*' => p.repeatLast 0 none cs
  | '+' => p.repeatLast 1 none cs
  | '{' =>
    match p.items with
    | [] | .empty :: _ | .flags _ :: _ => .error .nothingToRepeat
    | _ => do
      let (least, most, rest) ← counts p.verbose cs
      p.repeatLast least most rest
  | '\\' => (escape p.verbose cs).map fun (atom, rest) => p.push atom.toTree rest
  | '.' => .ok (p.push .dot cs)
  | '^' => .ok (p.push (.assertion .lineStart) cs)
  | '$' => .ok (p.push (.assertion .lineEnd) cs)
  | c => .ok (p.push (.literal ⟨c, false⟩) cs)

/-- Reads on to the end. -/
def finish : (fuel : Nat) → Progress → Except SyntaxError Tree
  | 0, _ => .error .unclosedGroup
  | fuel + 1, p =>
    match skip p.verbose p.rest with
    | [] => if p.frames.isEmpty then .ok p.body else .error .unclosedGroup
    | c :: cs => do finish fuel (← p.step c cs)

end Progress

/-- The deepest nesting that is accepted. -/
def maxDepth : Nat := 250

/-- **Reading a regular expression.** -/
def Tree.parse (text : List Char) : Except SyntaxError Tree := do
  let tree ← Progress.finish (text.length + 1) ⟨text, false, 0, [], [], [], []⟩
  if tree.depth .neither ≤ maxDepth then return tree else .error .tooDeep

end RuleLexer.Regex
