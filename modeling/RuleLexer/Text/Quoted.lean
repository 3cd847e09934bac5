import RuleLexer.Text.Hex
import RuleLexer.Unicode.Class

/-!
# Quoted text

A text in double quotes, in which quotes and backslashes stand behind a backslash, and every
character that would not show as itself is written as an escape: line breaks and tabs by a letter,
all others by their code point. A quoted text shows where it ends, so that two quoted texts are equal
only if the texts are.
-/

namespace RuleLexer.Text

/-- The categories of characters that do not show: controls, format characters, private and
unassigned ones, and all separators but the space. -/
def invisibleCategories : List String := ["cc", "cf", "co", "cn", "zl", "zp", "zs"]

/-- The characters that are written by their code point. Besides those that do not show, they are
the ones that join with the character before them. -/
def escapedChars : CharSet :=
  invisibleCategories.foldl (fun s name => s.union ((Unicode.category? name).getD .empty))
    ((Unicode.find? Unicode.properties "graphemeextend").getD .empty)

/-- Whether a character is written by its code point. -/
def isEscaped (c : Char) : Bool :=
  if c.toNat < 0x80 then c.toNat < 0x20 || c.toNat = 0x7F else escapedChars.contains c

/-- How a character is written between double quotes. -/
def quotedChar (c : Char) : List Char :=
  if c = '\x00' then ['\\', '0']
  else if c = '\t' then ['\\', 't']
  else if c = '\r' then ['\\', 'r']
  else if c = '\n' then ['\\', 'n']
  else if c = '"' then ['\\', '"']
  else if c = '\\' then ['\\', '\\']
  else if isEscaped c then ['\\', 'u', '\x7b'] ++ hexDigits c.toNat ++ ['\x7d']
  else [c]

/-- **A text in double quotes.** -/
def quoted (s : String) : String :=
  String.ofList ('"' :: (s.toList.flatMap quotedChar ++ ['"']))

/-- The items of a list, separated by commas, in brackets. -/
def bracketedList (items : List String) : String :=
  "[" ++ ", ".intercalate items ++ "]"

end RuleLexer.Text
