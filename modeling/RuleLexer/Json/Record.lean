import RuleLexer.Json.Parser

/-!
# Records in JSON

A record is written as an object with a value for each field, or as an array with the values of the
fields in their order. An object may have further keys, which are left out of account, but no field
twice; an array must have exactly as many items as there are fields.
-/

namespace RuleLexer.Json

/-- The values under a key, given the entries with their keys decoded. -/
def valuesAt (entries : List (List Char × Json)) (field : String) : List Json :=
  (entries.filter (·.1 = field.toList)).map (·.2)

/-- The entries of an object with their keys decoded. -/
def decodedEntries? : List (List Char × Json) → Option (List (List Char × Json))
  | [] => some []
  | (key, value) :: rest => do return (← decode key, value) :: (← decodedEntries? rest)

/-- **The values of the fields** of a record, none for a field that is missing. -/
def fields? (names : List String) : Json → Option (List (Option Json))
  | .object entries => do
    let entries ← decodedEntries? entries
    names.mapM fun field =>
      match valuesAt entries field with
      | [] => some none
      | [value] => some (some value)
      | _ => none
  | .array items => if items.length = names.length then some (items.map some) else none
  | _ => none

/-- A field that must be there. -/
def required {α : Type} (read : Json → Option α) (field : Option Json) : Option α :=
  field.bind read

/-- A field with a value to take if it is missing. -/
def withDefault {α : Type} (default : α) (read : Json → Option α) : Option Json → Option α
  | none => some default
  | some j => read j

/-- A field that may be missing or null. -/
def optional {α : Type} (read : Json → Option α) : Option Json → Option (Option α)
  | none | some .null => some none
  | some j => (read j).map some

/-- A list, every item of which is read the same way. -/
def list? {α : Type} (read : Json → Option α) (j : Json) : Option (List α) := do
  (← j.items?).mapM read

end RuleLexer.Json
