/-!
# Why a regular expression is refused
-/

namespace RuleLexer.Regex

/-- The causes for which a regular expression is refused. -/
inductive SyntaxError
  /-- A group is never closed. -/
  | unclosedGroup
  /-- A closing parenthesis has no opening one. -/
  | unopenedGroup
  /-- A group looks ahead or behind. -/
  | lookaround
  /-- The name of a group is empty, unfinished or has a character that names cannot have. -/
  | badGroupName
  /-- Two groups have the same name. -/
  | repeatedGroupName
  /-- Flags are unknown, repeated, missing or unfinished. -/
  | badFlags
  /-- There is nothing that a repetition could repeat. -/
  | nothingToRepeat
  /-- The counts of a repetition are missing, too large, in the wrong order or unfinished. -/
  | badCount
  /-- An escape is unknown or unfinished. -/
  | badEscape
  /-- A word boundary has an unknown name. -/
  | badBoundary
  /-- A class in brackets is never closed. -/
  | unclosedClass
  /-- A class in brackets has an item that is no character and no class. -/
  | badClassItem
  /-- The ends of a range of characters are in the wrong order. -/
  | badRange
  /-- The expression is nested too deeply. -/
  | tooDeep
  /-- No class of characters has the name. -/
  | unknownProperty
  /-- A part of the expression speaks of all characters where the `u` flag is off. -/
  | unicodeOff
  /-- A part of the expression could match bytes that are no text. -/
  | notText
  deriving DecidableEq, Repr

end RuleLexer.Regex
