import RuleLexer.Binary64.Basic
import RuleLexer.Toml.DateTime

/-!
# Values of a document
-/

namespace RuleLexer.Toml

/-- A value of a document. -/
inductive Value
  /-- A text. -/
  | string (s : String)
  /-- A whole number of 64 bits. -/
  | integer (i : Int)
  /-- A floating-point number. -/
  | float (x : Binary64)
  /-- A truth value. -/
  | bool (b : Bool)
  /-- A date or a time. -/
  | dateTime (d : DateTime)
  /-- A list of values. -/
  | array (items : List Value)
  /-- A table of values, by their keys, which are distinct. -/
  | table (entries : List (String × Value))
  deriving Repr

end RuleLexer.Toml
