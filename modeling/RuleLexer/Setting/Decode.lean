import RuleLexer.Binary64.Shortest
import RuleLexer.Setting.Basic
import RuleLexer.Text.Quoted

/-!
# Reading settings

Scalars are read leniently: a text is wanted, and a number or a truth value stands there, and so on.
What cannot be read as what is wanted fails with the key path of the setting. A record is read from
a table, which may have further entries, or from a list with the fields in their order, which may
have further items.
-/

namespace RuleLexer

/-! ### Failures -/

/-- What a scalar can be wanted as. -/
inductive WantedScalar
  /-- A truth value. -/
  | bool
  /-- A whole number. -/
  | integer
  /-- A whole number without a sign. -/
  | count
  /-- A text. -/
  | string
  deriving DecidableEq, Repr

/-- How a wanted scalar is called in messages. -/
def WantedScalar.text : WantedScalar → String
  | .bool => "a boolean"
  | .integer => "an integer"
  | .count => "an unsigned 64 bit or less integer"
  | .string => "a string"

/-- A kind of record: its name, and how many fields it has. -/
structure RecordKind where
  /-- The name. -/
  name : String
  /-- The number of fields. -/
  size : Nat
  deriving DecidableEq, Repr

/-- What a setting can be wanted as, apart from scalars. -/
inductive WantedShape
  /-- A list. -/
  | list
  /-- A record. -/
  | record (kind : RecordKind)
  deriving DecidableEq, Repr

/-- How a wanted shape is called in messages. -/
def WantedShape.text : WantedShape → String
  | .list => "a sequence"
  | .record kind => "struct " ++ kind.name

/-- Why settings cannot be read. -/
inductive SettingError
  /-- What stands at a key path cannot be read as a scalar. -/
  | scalar (found : Setting) (wanted : WantedScalar) (path : String)
  /-- What stands somewhere is neither a list nor a table as it is wanted. -/
  | shape (found : Setting) (wanted : WantedShape)
  /-- A list has too few items for the fields of a record. -/
  | tooShort (length : Nat) (kind : RecordKind)
  /-- A record lacks a field. -/
  | missing (field : String)
  deriving Repr

namespace SettingError

/-- How a setting is called where a scalar is wanted. -/
def scalarText : Setting → String
  | .scalar .nil _ => "unit value"
  | .scalar (.bool b) _ => "boolean `" ++ toString b ++ "`"
  | .scalar (.integer i) _ => "integer 64 bit `" ++ toString i ++ "`"
  | .scalar (.float x) _ => "floating point `" ++ x.toText ++ "`"
  | .scalar (.string s) _ => "string " ++ Text.quoted s
  | .array _ _ => "sequence"
  | .table _ _ => "map"

/-- How a setting is called where a list or a record is wanted. -/
def shapeText : Setting → String
  | .scalar (.integer i) _ => "integer `" ++ toString i ++ "`"
  | .scalar (.float x) _ => "floating point `" ++ x.toPointedText ++ "`"
  | s => scalarText s

/-- How many fields a record has, in words. -/
def elementText (n : Nat) : String :=
  if n = 1 then "1 element" else toString n ++ " elements"

/-- **What a failure says.** -/
def message : SettingError → String
  | .scalar found wanted path =>
    "invalid type: " ++ scalarText found ++ ", expected " ++ wanted.text ++
      " for key `" ++ path ++ "`" ++
      match found.origin with
      | some file => " in " ++ file
      | none => ""
  | .shape found wanted => "invalid type: " ++ shapeText found ++ ", expected " ++ wanted.text
  | .tooShort length kind =>
    "invalid length " ++ toString length ++ ", expected struct " ++ kind.name ++ " with " ++
      elementText kind.size
  | .missing field => "missing field `" ++ field ++ "`"

/-- The failure seen from the table around it. No point stands in front of a bracket, nor at the
end. -/
def underKey (key : String) : SettingError → SettingError
  | .scalar found wanted path =>
    .scalar found wanted (key ++ (if path = "" ∨ path.startsWith "[" then "" else ".") ++ path)
  | e => e

/-- The failure seen from the list around it. -/
def underPlace (place : Nat) : SettingError → SettingError
  | .scalar found wanted path => .scalar found wanted ("[" ++ toString place ++ "]" ++ path)
  | e => e

end SettingError

namespace Setting

/-- Reading a setting yields a value or fails. -/
abbrev Read (α : Type) := Setting → Except SettingError α

/-! ### Scalars -/

/-- The failure to read a setting as a scalar. -/
def refuse {α : Type} (found : Setting) (wanted : WantedScalar) : Except SettingError α :=
  .error (.scalar found wanted "")

/-- The words for a truth value, in lower case. -/
def truthOf? (word : String) : Option Bool :=
  if word = "true" ∨ word = "on" ∨ word = "yes" then some true
  else if word = "false" ∨ word = "off" ∨ word = "no" then some false
  else none

/-- The greatest count. -/
def maxCount : Nat := 18446744073709551615

/-- The count that is written in a text: decimal digits, possibly behind a plus sign. -/
def countOf? (text : String) : Option Nat :=
  let digits := match text.toList with
    | '+' :: cs => cs
    | cs => cs
  let n := digits.foldl (fun n c => n * 10 + (c.toNat - 0x30)) 0
  if digits.isEmpty || !digits.all Char.isDigit || maxCount < n then none else some n

/-- Reads a text. -/
def string : Read String
  | .scalar (.string s) _ => .ok s
  | .scalar (.bool b) _ => .ok (toString b)
  | .scalar (.integer i) _ => .ok (toString i)
  | .scalar (.float x) _ => .ok x.toText
  | found => refuse found .string

/-- Reads a count. -/
def count : Read Nat
  | .scalar (.integer i) origin =>
    if 0 ≤ i then .ok i.toNat else refuse (.scalar (.integer i) origin) .count
  | .scalar (.bool b) _ => .ok b.toNat
  | .scalar (.float x) _ => .ok (x.toCount maxCount)
  | .scalar (.string s) origin =>
    match ((truthOf? (Unicode.lowercase s)).map Bool.toNat) <|> countOf? s with
    | some n => .ok n
    | none => refuse (.scalar (.string s) origin) .integer
  | found => refuse found .integer

/-- Reads a truth value. A text that is refused is shown in lower case. -/
def truth : Read Bool
  | .scalar (.bool b) _ => .ok b
  | .scalar (.integer i) _ => .ok (i != 0)
  | .scalar (.float x) _ => .ok !x.isZero
  | .scalar (.string s) origin =>
    let word := Unicode.lowercase s
    if word = "1" then .ok true
    else if word = "0" then .ok false
    else
      match truthOf? word with
      | some b => .ok b
      | none => refuse (.scalar (.string word) origin) .bool
  | found => refuse found .bool

/-! ### Lists and what may be nothing -/

/-- Reads settings one after the other, the first of them at a place of the list around them. -/
def itemsFrom {α : Type} (read : Read α) : (place : Nat) → List Setting →
    Except SettingError (List α)
  | _, [] => .ok []
  | place, s :: rest => do
    let a ← (read s).mapError (·.underPlace place)
    return a :: (← itemsFrom read (place + 1) rest)

/-- Reads a list. -/
def list {α : Type} (read : Read α) : Read (List α)
  | .array items _ => itemsFrom read 0 items
  | found => .error (.shape found .list)

/-- Reads what may be nothing. -/
def nullable {α : Type} (read : Read α) : Read (Option α)
  | .scalar .nil _ => .ok none
  | s => (read s).map some

/-! ### Records -/

/-- Where a field of a record stands. -/
inductive Slot
  /-- Under a key. -/
  | key (name : String)
  /-- At a place in a list. -/
  | place (n : Nat)
  deriving DecidableEq, Repr

/-- A field of a record: the kind of the record, where the field stands, and what stands there. -/
structure Field where
  /-- The kind of the record. -/
  kind : RecordKind
  /-- Where the field stands. -/
  slot : Slot
  /-- What stands there, if anything. -/
  value : Option Setting

/-- The fields of a record, by their names. -/
def fields (kind : RecordKind) (names : List String) : Read (List Field)
  | .table entries _ => .ok (names.map fun name => ⟨kind, .key name, entries.lookup name⟩)
  | .array items _ => .ok (names.mapIdx fun n _ => ⟨kind, .place n, items[n]?⟩)
  | found => .error (.shape found (.record kind))

namespace Field

/-- A failure inside of a field, seen from the record. -/
def outside (f : Field) (e : SettingError) : SettingError :=
  match f.slot with
  | .key name => e.underKey name
  | .place n => e.underPlace n

/-- Reads a field with a value to take if it is missing. -/
def withDefault {α : Type} (default : α) (read : Read α) (f : Field) : Except SettingError α :=
  match f.value with
  | some s => (read s).mapError f.outside
  | none => .ok default

/-- Reads a field that must be there. -/
def required {α : Type} (read : Read α) (f : Field) : Except SettingError α :=
  match f.value, f.slot with
  | some s, _ => (read s).mapError f.outside
  | none, .key name => .error (.missing name)
  | none, .place n => .error (.tooShort n f.kind)

/-- Reads a field that may be nothing, and in a table also missing. -/
def optional {α : Type} (read : Read α) (f : Field) : Except SettingError (Option α) :=
  match f.value, f.slot with
  | some s, _ => (nullable read s).mapError f.outside
  | none, .key _ => .ok none
  | none, .place n => .error (.tooShort n f.kind)

end Field

end Setting

end RuleLexer
