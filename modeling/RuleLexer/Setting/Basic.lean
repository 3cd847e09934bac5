import RuleLexer.Assoc
import RuleLexer.Binary64.Basic
import RuleLexer.Setting.Path
import RuleLexer.Unicode.Lowercase

/-!
# Settings

Settings form a tree of tables, lists and scalars, each with the name of the file that it comes from,
if it comes from one. A value is put under a key, which is taken in lower case: a table is merged
with what is there, entry by entry, and anything else takes its place. Putting a value at a key path
makes the tables and lists on the way. What is inside of a list is taken as it is.

Main statement: `get?_update` — a change of an entry, seen through the look-up.
-/

namespace RuleLexer

/-- A value without parts. -/
inductive Scalar
  /-- The value that stands for nothing. -/
  | nil
  /-- A truth value. -/
  | bool (b : Bool)
  /-- A whole number. -/
  | integer (i : Int)
  /-- A floating-point number. -/
  | float (x : Binary64)
  /-- A text. -/
  | string (s : String)
  deriving DecidableEq, Repr

/-- A setting, with the file that it comes from. -/
inductive Setting
  /-- A value without parts. -/
  | scalar (value : Scalar) (origin : Option String)
  /-- A list. -/
  | array (items : List Setting) (origin : Option String)
  /-- A table. -/
  | table (entries : List (String × Setting)) (origin : Option String)
  deriving Repr

namespace Setting

/-- The setting that stands for nothing. -/
def nil : Setting := .scalar .nil none

/-- The table without entries. -/
def empty : Setting := .table [] none

/-- The file that a setting comes from. -/
def origin : Setting → Option String
  | .scalar _ origin | .array _ origin | .table _ origin => origin

/-- The setting under a key, if it is in a table. -/
def get? (s : Setting) (key : String) : Option Setting :=
  match s with
  | .table entries _ => entries.lookup key
  | _ => none

/-! ### Changing one part -/

/-- The setting with an entry changed. What is not a table makes way for one. -/
def update (s : Setting) (key : String) (f : Option Setting → Setting) : Setting :=
  match s with
  | .table entries origin => .table (Assoc.alter f key entries) origin
  | _ => .table [(key, f none)] none

/-- **A change of an entry is seen at its key and nowhere else.** -/
theorem get?_update (s : Setting) (key k : String) (f : Option Setting → Setting) :
    (s.update key f).get? k = if k = key then some (f (s.get? key)) else s.get? k := by
  cases s with
  | table entries origin => exact Assoc.lookup_alter f key k entries
  | scalar | array => by_cases h : k = key <;> simp [update, get?, h]

/-- The number of a place in a list, which counts from the end if it is negative. -/
def placeIn (place : Int) (length : Nat) : Nat :=
  if 0 ≤ place then place.toNat else length - place.natAbs

/-- The setting with an item changed. What is not a list makes way for one, and a list that is too
short is filled up with nothing. -/
def updateItem (s : Setting) (place : Int) (f : Setting → Setting) : Setting :=
  let (items, origin) := match s with
    | .array items origin => (items, origin)
    | _ => ([], none)
  let n := placeIn place items.length
  let items := items ++ List.replicate (n + 1 - items.length) nil
  .array (items.modify n f) origin

/-! ### Putting values -/

mutual

/-- **The setting with a value put under a key.** -/
def put (s : Setting) (key : String) : Setting → Setting
  | .table incoming _ =>
    s.update (Unicode.lowercase key) fun old => putAll (old.getD empty) incoming
  | value => s.update (Unicode.lowercase key) fun _ => value

/-- The setting with several values put under their keys, one after the other. -/
def putAll (s : Setting) : List (String × Setting) → Setting
  | [] => s
  | (key, value) :: rest => (s.put key value).putAll rest

end

/-- The setting with a value put where steps lead. -/
def putBehind (value : Setting) (s : Setting) : List KeyStep → Setting
  | [] => value
  | [.key name] => s.put name value
  | .key name :: steps =>
    s.update (Unicode.lowercase name) fun old => putBehind value (old.getD nil) steps
  | .index place :: steps => s.updateItem place fun old => putBehind value old steps

/-- **The setting with a value put at a key path.** -/
def putAt (s : Setting) (path : KeyPath) (value : Setting) : Setting :=
  putBehind value s (.key path.head :: path.steps)

/-- **A layer of settings put over others.** Each of its top-level keys is taken as a key path, if
it is one. -/
def overlay (s : Setting) (layer : List (String × Setting)) : Setting :=
  layer.foldl (fun s (key, value) =>
    match KeyPath.ofText? key with
    | some path => s.putAt path value
    | none => s.put key value) s

end Setting

end RuleLexer
