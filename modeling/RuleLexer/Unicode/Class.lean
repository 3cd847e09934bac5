import RuleLexer.Unicode.Age
import RuleLexer.Unicode.Break
import RuleLexer.Unicode.Category
import RuleLexer.Unicode.Digit
import RuleLexer.Unicode.Property
import RuleLexer.Unicode.Script
import RuleLexer.Unicode.ScriptExtension

/-!
# Classes of characters by name

A class is asked for by a single name (`Greek`, `Lu`, `Alphabetic`) or by a property and a value
(`script=Greek`). Names are compared loosely: case, blanks, dashes, low lines and a leading `is` do
not count. A single name is looked for among the binary properties, the general categories and the
scripts, in this order.

The classes that patterns use all the time (word characters, digits, blanks) have names of their
own here, and answer for ASCII characters without looking at a table.
-/

namespace RuleLexer.Unicode

/-! ### Names -/

/-- Drops a leading `is`, in either case of both letters. -/
def dropIs : List Char → Option (List Char)
  | i :: s :: rest => if (i = 'i' ∨ i = 'I') ∧ (s = 's' ∨ s = 'S') then some rest else none
  | _ => none

/-- **The loose form of a name.** The name `isc` stays as it is: it abbreviates a property and does
not mean the category `c`. -/
def looseName (name : List Char) : String :=
  let kept (cs : List Char) : List Char :=
    (cs.filter fun c => c ≠ ' ' && c ≠ '_' && c ≠ '-' && c.toNat < 0x80).map Char.toLower
  match dropIs name with
  | some rest => if kept rest = ['c'] then "isc" else String.ofList (kept rest)
  | none => String.ofList (kept name)

/-! ### Categories -/

/-- The categories that are unions of others, each with its names and its members. -/
def categoryGroups : List (List String × List String) := [
  (["lc", "casedletter"], ["ll", "lt", "lu"]),
  (["l", "letter"], ["ll", "lm", "lo", "lt", "lu"]),
  (["m", "mark", "combiningmark"], ["mc", "me", "mn"]),
  (["n", "number"], ["nd", "nl", "no"]),
  (["p", "punctuation", "punct"], ["pc", "pd", "pe", "pf", "pi", "po", "ps"]),
  (["s", "symbol"], ["sc", "sk", "sm", "so"]),
  (["z", "separator"], ["zl", "zp", "zs"])]

/-- The characters of a category that is no union of others. -/
def simpleCategory? (name : String) : Option CharSet :=
  if name = "nd" ∨ name = "decimalnumber" ∨ name = "digit" then some digits
  else find? categories name

/-- The characters that have a category. -/
def assigned : CharSet := digits.union (everything categories)

/-- The characters of a general category, by its loose name. -/
def category? (name : String) : Option CharSet :=
  if name = "any" then some .all
  else if name = "assigned" then some assigned
  else if name = "ascii" then some (.range 0 0x7F)
  else if name = "cn" ∨ name = "unassigned" then some assigned.compl
  else if name = "c" ∨ name = "other" then
    some <| ["cc", "cf", "co"].foldl (fun s n => s.union ((simpleCategory? n).getD .empty))
      assigned.compl
  else match categoryGroups.find? (·.1.contains name) with
    | some (_, members) =>
      some <| members.foldl (fun s n => s.union ((simpleCategory? n).getD .empty)) .empty
    | none => simpleCategory? name

/-! ### Look-up -/

/-- The characters used with a script, by the script's loose name. -/
def scriptExtension? (name : String) : Option CharSet :=
  (find? scripts name).map fun s =>
    (s.union ((find? scriptAdditions name).getD .empty)).diff
      ((find? scriptRemovals name).getD .empty)

/-- The characters assigned in a version or before it, by the version's loose name. -/
def age? (name : String) : Option CharSet :=
  match ages.findIdx? (·.names.contains name) with
  | some i => some (everything (ages.take (i + 1)))
  | none => none

/-- A binary property or category or script, by its loose name. The names `cf`, `sc` and `lc` mean
categories, although they abbreviate properties too. -/
def single? (name : String) : Option CharSet :=
  let property := if name = "cf" ∨ name = "sc" ∨ name = "lc" then none else find? properties name
  property <|> category? name <|> find? scripts name

/-- The characters for which a property has a value, both given by loose names. -/
def byValue? (property value : String) : Option CharSet :=
  match property with
  | "gc" | "generalcategory" => category? value
  | "sc" | "script" => find? scripts value
  | "scx" | "scriptextensions" => scriptExtension? value
  | "age" => age? value
  | "gcb" | "graphemeclusterbreak" => find? graphemeBreaks value
  | "wb" | "wordbreak" => find? wordBreaks value
  | "sb" | "sentencebreak" => find? sentenceBreaks value
  | _ => none

/-! ### Everyday classes -/

/-- The white space characters. -/
def blanks : CharSet := (find? properties "whitespace").getD .empty

/-- The alphabetic characters. -/
def alphabetic : CharSet := (find? properties "alphabetic").getD .empty

/-- **Word characters**: letters, marks, decimal digits, connecting punctuation and joiners. -/
def wordChars : CharSet :=
  let part (rows : List Row) (name : String) : CharSet := (find? rows name).getD .empty
  [part categories "mn", part categories "mc", part categories "me", digits,
    part categories "pc", part properties "joincontrol"].foldl CharSet.union alphabetic

/-- Whether a character is white space. -/
def isBlank (c : Char) : Bool :=
  if c.toNat < 0x80 then c = ' ' || (0x09 ≤ c.toNat && c.toNat ≤ 0x0D) else blanks.contains c

/-- Whether a character of ASCII is a letter, a digit or the low line. -/
def isAsciiWord (c : Char) : Bool := c.isAlphanum || c = '_'

/-- Whether a character is a word character. -/
def isWord (c : Char) : Bool :=
  if c.toNat < 0x80 then isAsciiWord c else wordChars.contains c

/-- Whether a character is a letter in the wide sense. -/
def isAlphabetic (c : Char) : Bool :=
  if c.toNat < 0x80 then c.isAlpha else alphabetic.contains c

/-- The numbers of all scripts: digits, letters and others. -/
def numerals : CharSet := (category? "n").getD .empty

/-- Whether a character is alphabetic or a number. -/
def isAlphanumeric (c : Char) : Bool :=
  if c.toNat < 0x80 then c.isAlphanum else alphabetic.contains c || numerals.contains c

end RuleLexer.Unicode
