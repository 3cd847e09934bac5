import RuleLexer.Table

/-!
# Premade rules

Rules for the tokens that many small languages share: numbers, quoted strings, names, operators,
literal collections, comments, blanks, and a variable declaration in four rules that depend on each
other. A set of premade rules is asked for by its name.

Quoted strings come in two alternatives, for either quote, with the text between the quotes as the
first group of each.
-/

namespace RuleLexer

/-- The sets of premade rules. -/
inductive Premade
  | string | float | int | bool | list | tuple | dict | identifier | operator
  | operatorArithmetic | comment | whitespace | varDeclaration
  deriving DecidableEq, Repr

namespace Premade

/-! ### Expressions -/

/-- A quoted string: quotes around characters that are no quotes, or stand behind a backslash. -/
def stringSources : List String :=
  ["\"((?:\\\\.|[^\"\\\\])*)\"", "'((?:\\\\.|[^'\\\\])*)'"]

/-- A decimal number with a point or a comma; digits before it may be missing. -/
def floatSource : String := "[0-9]*[.,][0-9]+"

/-- A run of digits. -/
def intSource : String := "[0-9]+"

/-- A truth value. -/
def boolSource : String := "True|False"

/-- A letter, or a low line and a letter, followed by letters, digits and low lines. -/
def identifierSource : String := "(?:[a-zA-Z]|_[a-zA-Z])[a-zA-Z0-9_]*"

/-- A run of operator characters. -/
def operatorSource : String := "[+\\-*%=&|~^<>?:!/]+"

/-- One of the four operators of arithmetic. -/
def operatorArithmeticSource : String := "[*+\\-/]"

/-- A comment up to the end of the line, or one that is closed on the same line. -/
def commentSource : String := "/\\*.*?\\*/|//.*"

/-- A run of spaces and tabs. -/
def whitespaceSource : String := "[ \\t]+"

/-- An expression of digits, blanks, parentheses and operators up to the end of the line. -/
def arithmeticSource : String := "[\\d ()+\\-*/]+$"

/-- A quoted string, without a group. -/
def quotedSource : String := "\"(?:\\\\.|[^\"\\\\])*\"|'(?:\\\\.|[^'\\\\])*'"

/-- A number in a collection, with an optional sign. -/
def numberSource : String := "[+-]?[0-9]+\\.[0-9]+|[+-]?[0-9]+"

/-- A literal in a collection: a number, a truth value or a quoted string. -/
def literalSource : String := numberSource ++ ("|True|False|" ++ quotedSource)

/-- Literals separated by commas, possibly none, between two brackets. -/
def sequenceSource (opening closing : String) : String :=
  opening ++ " *(?:(?:" ++ literalSource ++ ")(?: *, *(?:" ++ literalSource ++ "))*)? *" ++ closing

/-- A list of literals. -/
def listSource : String := sequenceSource "\\[" "\\]"

/-- A tuple of literals. -/
def tupleSource : String := sequenceSource "\\(" "\\)"

/-- An entry of a dictionary: a quoted key and a literal. -/
def entrySource : String := "(?:" ++ quotedSource ++ ") *: *(?:" ++ literalSource ++ ")"

/-- A dictionary of quoted keys and literals. -/
def dictSource : String :=
  "\\\x7b *(?:" ++ entrySource ++ "(?: *, *" ++ entrySource ++ ")*)? *\\\x7d"

/-- What can stand behind the sign of a declaration. -/
def expressionSources : List String :=
  arithmeticSource :: stringSources ++
    [floatSource, intSource, listSource, tupleSource, dictSource, boolSource]

/-! ### The expressions compile

The characters of the longer pieces are spelled out once, so that checking an expression that is put
together from them takes reading it and nothing else. -/

theorem toList_quotedSource : quotedSource.toList =
    ['"', '(', '?', ':', '\\', '\\', '.', '|', '[', '^', '"', '\\', '\\', ']', ')', '*', '"', '|',
      '\x27', '(', '?', ':', '\\', '\\', '.', '|', '[', '^', '\x27', '\\', '\\', ']', ')', '*',
      '\x27'] := by
  decide +kernel

theorem toList_numberSource : numberSource.toList =
    ['[', '+', '-', ']', '?', '[', '0', '-', '9', ']', '+', '\\', '.', '[', '0', '-', '9', ']', '+',
      '|', '[', '+', '-', ']', '?', '[', '0', '-', '9', ']', '+'] := by
  decide +kernel

theorem compiles_arithmetic : Pattern.Compiles arithmeticSource.toList := by decide +kernel

theorem compiles_float : Pattern.Compiles floatSource.toList := by decide +kernel

theorem compiles_int : Pattern.Compiles intSource.toList := by decide +kernel

theorem compiles_bool : Pattern.Compiles boolSource.toList := by decide +kernel

theorem compiles_identifier : Pattern.Compiles identifierSource.toList := by decide +kernel

theorem compiles_sequence {opening closing : String}
    (h : (opening, closing) ∈ [("\\[", "\\]"), ("\\(", "\\)")]) :
    Pattern.Compiles (sequenceSource opening closing).toList := by
  simp only [List.mem_cons, List.not_mem_nil, or_false, Prod.mk.injEq] at h
  rcases h with ⟨rfl, rfl⟩ | ⟨rfl, rfl⟩
  all_goals
    simp only [sequenceSource, literalSource, String.toList_append, toList_quotedSource,
      toList_numberSource]
    decide +kernel

theorem compiles_dict : Pattern.Compiles dictSource.toList := by
  simp only [dictSource, entrySource, literalSource, String.toList_append, toList_quotedSource,
    toList_numberSource]
  decide +kernel

theorem compiles_string : ∀ s ∈ stringSources, Pattern.Compiles s.toList := by decide +kernel

/-- Every alternative for the value of a declaration compiles. -/
theorem compiles_expression : ∀ s ∈ expressionSources, Pattern.Compiles s.toList := by
  intro s hs
  simp only [expressionSources, List.mem_cons, List.mem_append, List.not_mem_nil, or_false] at hs
  rcases hs with (rfl | hs) | rfl | rfl | rfl | rfl | rfl | rfl
  · exact compiles_arithmetic
  · exact compiles_string s hs
  · exact compiles_float
  · exact compiles_int
  · exact compiles_sequence (by simp)
  · exact compiles_sequence (by simp)
  · exact compiles_dict
  · exact compiles_bool

/-- The pattern of one expression that compiles. -/
def single (source : String) (h : Pattern.Compiles source.toList) : Pattern :=
  .ofValid [source] (Pattern.isOk_ofSources (by simp) (by simpa using h))

/-! ### Rules -/

/-- Quoted strings; the value is the text between the quotes. -/
def stringRule : Rule where
  name := "STRING"
  pattern := .ofValid stringSources
    (Pattern.isOk_ofSources (by simp [stringSources]) compiles_string)
  capture := some 1

/-- Decimal numbers. -/
def floatRule : Rule where
  name := "FLOAT"
  pattern := single floatSource compiles_float

/-- Whole numbers. -/
def intRule : Rule where
  name := "INT"
  pattern := single intSource compiles_int

/-- Truth values. -/
def boolRule : Rule where
  name := "BOOL"
  pattern := single boolSource compiles_bool

/-- Lists of literals. -/
def listRule : Rule where
  name := "LIST"
  pattern := single listSource (compiles_sequence (by simp))

/-- Tuples of literals. -/
def tupleRule : Rule where
  name := "TUPLE"
  pattern := single tupleSource (compiles_sequence (by simp))

/-- Dictionaries of literals. -/
def dictRule : Rule where
  name := "DICTIONARY"
  pattern := single dictSource compiles_dict

/-- Names. -/
def identifierRule : Rule where
  name := "IDENTIFIER"
  pattern := single identifierSource compiles_identifier

/-- Runs of operator characters. -/
def operatorRule : Rule where
  name := "OPERATOR"
  pattern := single operatorSource (by decide +kernel)

/-- Single operators of arithmetic. -/
def operatorArithmeticRule : Rule where
  name := "OPERATOR_ARITHMETIC"
  pattern := single operatorArithmeticSource (by decide +kernel)

/-- Comments, which are passed over. -/
def commentRule : Rule where
  name := "COMMENT"
  pattern := single commentSource (by decide +kernel)
  skips := true

/-- Blanks, which are passed over. -/
def whitespaceRule : Rule where
  name := "WHITESPACE"
  pattern := single whitespaceSource (by decide +kernel)
  skips := true

/-- The word that begins a declaration. -/
def declarationRule : Rule where
  name := "VAR_DECLARATION"
  pattern := single "var\\b" (by decide +kernel)

/-- The name in a declaration. -/
def declaredNameRule : Rule where
  name := "VAR_NAME"
  pattern := single identifierSource compiles_identifier
  dependsOn := some "VAR_DECLARATION"
  descriptor := some ⟨"ExpectedIdentifier",
    "line [[LINE]]: expected an IDENTIFIER after 'var' but got '[[TEXT]]'"⟩

/-- The sign in a declaration. -/
def declarationSignRule : Rule where
  name := "EQ_OPERATOR"
  pattern := single "=" (by decide +kernel)
  dependsOn := some "VAR_NAME"
  descriptor := some ⟨"ExpectedAssignment", "line [[LINE]]: expected '=' but got '[[TEXT]]'"⟩

/-- The value in a declaration. -/
def declaredValueRule : Rule where
  name := "EXPRESSION"
  pattern := .ofValid expressionSources
    (Pattern.isOk_ofSources (by simp [expressionSources]) compiles_expression)
  dependsOn := some "EQ_OPERATOR"
  descriptor := some ⟨"ExpectedExpression", "line [[LINE]]: expected one of " ++
    "[STRING, FLOAT, INT, LIST, TUPLE, DICT, BOOL] but got '[[TEXT]]'"⟩

/-- **The rules of a set**, in the order of their priority. -/
def rules : Premade → List Rule
  | .string => [stringRule]
  | .float => [floatRule]
  | .int => [intRule]
  | .bool => [boolRule]
  | .list => [listRule]
  | .tuple => [tupleRule]
  | .dict => [dictRule]
  | .identifier => [identifierRule]
  | .operator => [operatorRule]
  | .operatorArithmetic => [operatorArithmeticRule]
  | .comment => [commentRule]
  | .whitespace => [whitespaceRule]
  | .varDeclaration => [declarationRule, declaredNameRule, declarationSignRule, declaredValueRule]

/-! ### Names -/

/-- The sets, in the order in which they are listed. -/
def all : List Premade :=
  [.string, .float, .int, .bool, .list, .tuple, .dict, .identifier, .operator,
    .operatorArithmetic, .comment, .whitespace, .varDeclaration]

/-- The name of a set. -/
def name : Premade → String
  | .string => "string"
  | .float => "float"
  | .int => "int"
  | .bool => "bool"
  | .list => "list"
  | .tuple => "tuple"
  | .dict => "dict"
  | .identifier => "identifier"
  | .operator => "operator"
  | .operatorArithmetic => "operator_arithmetic"
  | .comment => "comment"
  | .whitespace => "whitespace"
  | .varDeclaration => "var_declaration"

/-- The set of a name, if there is one. -/
def ofName? (name : String) : Option Premade := all.find? (·.name = name)

/-- The names of all sets. -/
def names : List String := all.map name

end Premade

end RuleLexer
