import RuleLexer.Assoc
import RuleLexer.Toml.Value

/-!
# The tree of a document

A document is built statement by statement. A statement may add to a table that is there already,
but only in ways that do not define it twice: a table that has a header of its own is not extended by
dotted keys or a second header, one that dotted keys made gets no header, and values are never
extended. So a table in progress remembers how it came to be.
-/

namespace RuleLexer.Toml

/-- How a table came to be. -/
inductive Standing
  /-- It has a header of its own, or is an element of a list of tables. -/
  | headed
  /-- It stands on the way of a longer header. -/
  | implied
  /-- Dotted keys made it. -/
  | dotted
  deriving DecidableEq, Repr

/-- A part of a document in progress. -/
inductive Node
  /-- A complete value. -/
  | value (v : Value)
  /-- A table. -/
  | table (standing : Standing) (entries : List (String × Node))
  /-- A list of tables, the last one apart from those before it. -/
  | tables (before : List (List (String × Node))) (last : List (String × Node))

namespace Node

/-- The entries of a table in progress. -/
abbrev Entries := List (String × Node)

/-! ### Values under dotted keys -/

/-- **A value under a key of a table**, the key having parts in front of its last one. -/
def insert? (v : Value) (last : String) : (path : List String) → Entries → Option Entries
  | [], entries =>
    Assoc.alter? (fun old => if old.isSome then none else some (.value v)) last entries
  | part :: path, entries =>
    Assoc.alter? (fun
      | none => (insert? v last path []).map (.table .dotted)
      | some (.table .dotted sub) => (insert? v last path sub).map (.table .dotted)
      | some (.table .implied sub) =>
        if path.isEmpty then none else (insert? v last path sub).map (.table .implied)
      | some (.tables before sub) =>
        if path.isEmpty then none else (insert? v last path sub).map (.tables before)
      | _ => none) part entries

/-! ### Headers -/

/-- A change to the table that a header names. On the way tables are made where there are none, and
of a list of tables it is the last one that is meant. -/
def within? (change : Entries → Option Entries) : (path : List String) → Entries → Option Entries
  | [], entries => change entries
  | part :: path, entries =>
    Assoc.alter? (fun
      | none => (within? change path []).map (.table .implied)
      | some (.table standing sub) => (within? change path sub).map (.table standing)
      | some (.tables before sub) => (within? change path sub).map (.tables before)
      | some (.value _) => none) part entries

/-- A header for one table. -/
def openTable? (last : String) : Entries → Option Entries :=
  Assoc.alter? (fun
    | none => some (.table .headed [])
    | some (.table .implied sub) => some (.table .headed sub)
    | _ => none) last

/-- A header for one more element of a list of tables. -/
def openElement? (last : String) : Entries → Option Entries :=
  Assoc.alter? (fun
    | none => some (.tables [] [])
    | some (.tables before sub) => some (.tables (before ++ [sub]) [])
    | _ => none) last

/-! ### The finished document -/

mutual

/-- The value that a part of a document is in the end. -/
def toValue : Node → Value
  | .value v => v
  | .table _ entries => .table (toEntries entries)
  | .tables before last => .array (toTables before ++ [.table (toEntries last)])

/-- The values of several entries. -/
def toEntries : List (String × Node) → List (String × Value)
  | [] => []
  | (key, node) :: rest => (key, node.toValue) :: toEntries rest

/-- The values of several tables. -/
def toTables : List (List (String × Node)) → List Value
  | [] => []
  | entries :: rest => .table (toEntries entries) :: toTables rest

end

end Node

end RuleLexer.Toml
