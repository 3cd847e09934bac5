import RuleLexer.Binary64.Basic
import RuleLexer.Text.Hex

/-!
# Texts in YAML

A text is written plainly where it reads back as the same text. In single quotes stands what would
read back as something else: as a number, a truth value or nothing, or as a mark of the notation. In
double quotes, with escapes, stands what has characters that do not print. A text of several lines is
written line by line below its mark.
-/

namespace RuleLexer.Yaml

/-! ### What reads back as another value -/

/-- Whether a text reads back as nothing. -/
def readsAsNull (s : String) : Bool := ["", "~", "null", "Null", "NULL"].contains s

/-- Whether a text reads back as a truth value. -/
def readsAsBool (s : String) : Bool :=
  ["true", "True", "TRUE", "false", "False", "FALSE"].contains s

/-- Whether a character is a sign. -/
def isSign (c : Char) : Bool := c = '+' || c = '-'

/-- The value of a digit, of up to sixteen. -/
def digitValue (c : Char) : Nat :=
  if c.isDigit then c.toNat - 0x30
  else if 'a' ≤ c ∧ c ≤ 'f' then c.toNat - 0x61 + 10
  else if 'A' ≤ c ∧ c ≤ 'F' then c.toNat - 0x41 + 10
  else 16

/-- The number with the given digits. -/
def numberOf (base : Nat) (digits : List Char) : Nat :=
  digits.foldl (fun n c => n * base + digitValue c) 0

/-- Whether digits of a base make a number below a bound. -/
def isNumberBelow (bound base : Nat) (digits : List Char) : Bool :=
  !digits.isEmpty && digits.all (digitValue · < base) && numberOf base digits < bound

/-- The base that a mark in front of the digits tells, and the digits. -/
def takeBase : List Char → Nat × List Char
  | '0' :: 'x' :: cs => (16, cs)
  | '0' :: 'o' :: cs => (8, cs)
  | '0' :: 'b' :: cs => (2, cs)
  | cs => (10, cs)

/-- Whether digits, behind a mark for their base or without one, make a number below a bound. -/
def isMarkedNumberBelow (bound : Nat) (cs : List Char) : Bool :=
  let (base, digits) := takeBase cs
  isNumberBelow bound base digits

/-- The bound of whole numbers without a sign. -/
def integerBound : Nat := Nat.pow 2 128

/-- Whether a text reads back as a whole number of 128 bits. -/
def readsAsInteger : List Char → Bool
  | '-' :: cs => isMarkedNumberBelow (integerBound / 2 + 1) cs
  | '+' :: cs => isMarkedNumberBelow integerBound cs
  | cs => isMarkedNumberBelow integerBound cs

/-- Whether a text consists of decimal digits, at least two, of which the first is a zero. A sign may
stand in front. -/
def hasLeadingZero (cs : List Char) : Bool :=
  let digits := match cs with
    | c :: rest => if isSign c then rest else c :: rest
    | [] => []
  match digits with
  | '0' :: rest => !rest.isEmpty && rest.all Char.isDigit
  | _ => false

/-- The words for what is infinite, behind a sign or without one. -/
def infiniteWords : List String :=
  [".inf", ".Inf", ".INF", "+.inf", "+.Inf", "+.INF", "-.inf", "-.Inf", "-.INF"]

/-- The words for what is no number. -/
def nanWords : List String := [".nan", ".NaN", ".NAN"]

/-- The exponent behind its mark, zero for none. -/
def exponent? : List Char → Option Int
  | [] => some 0
  | _ :: '-' :: digits =>
    if digits.isEmpty || !digits.all Char.isDigit then none else some (-(numberOf 10 digits : Int))
  | _ :: '+' :: digits | _ :: digits =>
    if digits.isEmpty || !digits.all Char.isDigit then none else some (numberOf 10 digits)

/-- Whether a text without a sign reads back as a finite number with a point, an exponent or both. -/
def readsAsFinite (cs : List Char) : Bool :=
  let isMark : Char → Bool := fun c => c = 'e' || c = 'E'
  let mantissa := cs.takeWhile (!isMark ·)
  let whole := mantissa.takeWhile (· != '.')
  let frac := (mantissa.dropWhile (· != '.')).drop 1
  match exponent? (cs.dropWhile (!isMark ·)) with
  | none => false
  | some expo =>
    let digits := whole ++ frac
    !digits.isEmpty && digits.all Char.isDigit &&
      (Binary64.ofDecimal false (numberOf 10 digits) (expo - frac.length)).isFinite

/-- Whether a text reads back as a floating-point number. -/
def readsAsFloat (s : String) : Bool :=
  infiniteWords.contains s || nanWords.contains s ||
    match s.toList with
    | c :: cs => readsAsFinite (if isSign c then cs else c :: cs)
    | [] => false

/-- Whether a text would read back as something else, or is close to a number. -/
def readsOtherwise (s : String) : Bool :=
  readsAsNull s || readsAsBool s || readsAsInteger s.toList || hasLeadingZero s.toList ||
    readsAsFloat s

/-! ### Characters -/

/-- Whether a character prints. -/
def isPrintable (c : Char) : Bool :=
  let n := c.toNat
  (0x20 ≤ n && n ≤ 0x7E) || (0xA0 ≤ n && n ≤ 0xD7FF) || (0xE000 ≤ n && n ≤ 0xFFFD && n != 0xFEFF) ||
    0x10000 ≤ n

/-- Whether a character breaks a line. -/
def isBreak (c : Char) : Bool := c = '\n' || c = '\u2028' || c = '\u2029'

/-- The characters that mean something at the front of a text. -/
def marks : List Char :=
  ['#', ',', '[', ']', '\x7b', '\x7d', '&', '*', '!', '|', '>', '\'', '"', '%', '@', '\x60']

/-- Whether a text ends or goes on with a blank. -/
def endsOrBlank : List Char → Bool
  | [] => true
  | c :: _ => c = ' '

/-- Whether a mark of the notation stands behind a character of a text. -/
def hasInnerMark : (before : Char) → List Char → Bool
  | _, [] => false
  | before, c :: rest =>
    (c = ':' && endsOrBlank rest) || (c = '#' && before = ' ') || hasInnerMark c rest

/-- Whether a text begins or ends with a blank, or has a mark of the notation. -/
def hasMark (cs : List Char) : Bool :=
  cs.getLast? = some ' ' ||
    match cs with
    | [] => false
    | '-' :: '-' :: '-' :: _ => true
    | '.' :: '.' :: '.' :: _ => true
    | c :: rest =>
      c = ' ' || marks.contains c ||
        ((c = '?' || c = ':' || c = '-') && endsOrBlank rest) || hasInnerMark c rest

/-- Whether a line break follows a blank. -/
def hasBlankBeforeBreak : List Char → Bool
  | c :: d :: rest => (c = ' ' && isBreak d) || hasBlankBeforeBreak (d :: rest)
  | _ => false

/-- Whether a blank follows a line break. -/
def hasBlankBehindBreak : List Char → Bool
  | c :: d :: rest => (isBreak c && d = ' ') || hasBlankBehindBreak (d :: rest)
  | _ => false

/-! ### Styles -/

/-- A style of writing a text. -/
inductive Style
  /-- As it is. -/
  | plain
  /-- In single quotes. -/
  | single
  /-- In double quotes, with escapes. -/
  | double
  /-- Line by line. -/
  | block
  deriving DecidableEq, Repr

/-- **The style of a text.** -/
def styleOf (s : String) : Style :=
  let cs := s.toList
  if cs.contains '\n' then
    if cs.all (fun c => isPrintable c || c = '\n') && cs.getLast? != some ' ' &&
      !hasBlankBeforeBreak cs then .block
    else .double
  else if readsOtherwise s then .single
  else if !cs.all isPrintable || hasBlankBeforeBreak cs || hasBlankBehindBreak cs then .double
  else if cs.any isBreak || hasMark cs then .single
  else .plain

/-- The blanks in front of the lines of a text. -/
def indentation : List Char := [' ', ' ', ' ', ' ']

/-- A text with blanks in front of each line that is not empty, the first if `start` says so. -/
def indented : (start : Bool) → List Char → List Char
  | _, [] => []
  | start, c :: cs =>
    if isBreak c then c :: indented true cs
    else (if start then indentation else []) ++ c :: indented false cs

/-- How a character is written in single quotes. -/
def singleChar (c : Char) : List Char := if c = '\'' then ['\'', '\''] else [c]

/-- The letter of an escape. -/
def escapeLetter? (c : Char) : Option Char :=
  match c.toNat with
  | 0x00 => some '0'
  | 0x07 => some 'a'
  | 0x08 => some 'b'
  | 0x09 => some 't'
  | 0x0A => some 'n'
  | 0x0B => some 'v'
  | 0x0C => some 'f'
  | 0x0D => some 'r'
  | 0x1B => some 'e'
  | 0x22 => some '"'
  | 0x5C => some '\\'
  | 0x85 => some 'N'
  | 0x2028 => some 'L'
  | 0x2029 => some 'P'
  | _ => none

/-- The hexadecimal digits of a number, in upper case. -/
def upperHex (width n : Nat) : List Char := (Text.hexPadded width n).map Char.toUpper

/-- How a character is written in double quotes. -/
def doubleChar (c : Char) : List Char :=
  match escapeLetter? c with
  | some letter => ['\\', letter]
  | none =>
    if isPrintable c then [c]
    else if c.toNat ≤ 0xFF then '\\' :: 'x' :: upperHex 2 c.toNat
    else if c.toNat ≤ 0xFFFF then '\\' :: 'u' :: upperHex 4 c.toNat
    else '\\' :: 'U' :: upperHex 8 c.toNat

/-- The signs behind the mark of a text of several lines: one if it begins with a blank or a break,
and one for how it ends. -/
def blockSigns (cs : List Char) : List Char :=
  (match cs with
    | c :: _ => if c = ' ' || isBreak c then ['2'] else []
    | [] => []) ++
  match cs.reverse with
  | [] => ['-']
  | [c] => if isBreak c then ['+'] else ['-']
  | c :: d :: _ => if !isBreak c then ['-'] else if isBreak d then ['+'] else []

/-- The line end behind a text of several lines, unless it ends with one. -/
def blockEnd (cs : List Char) : List Char :=
  if (cs.getLast?).any isBreak then [] else ['\n']

/-- **A text as the rest of a line**, with the line end. -/
def encode (s : String) : List Char :=
  let cs := s.toList
  match styleOf s with
  | .plain => cs ++ ['\n']
  | .single =>
    '\'' :: (indented false (cs.flatMap singleChar) ++
      (if (cs.getLast?).any isBreak then indentation else []) ++ ['\'', '\n'])
  | .double => '"' :: (cs.flatMap doubleChar ++ ['"', '\n'])
  | .block => '|' :: (blockSigns cs ++ '\n' :: (indented true cs ++ blockEnd cs))

end RuleLexer.Yaml
