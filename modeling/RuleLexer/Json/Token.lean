import RuleLexer.Json.Record
import RuleLexer.Token

/-!
# Tokens in JSON

A token is a record of its kind, its value and its line, in this order. The field of the kind is
named `type`.
-/

namespace RuleLexer.Token

/-- The names of the fields of a token. -/
def fieldNames : List String := ["type", "value", "line"]

/-- **A token in JSON.** -/
def toJson (t : Token) : Json :=
  .ofEntries [("type", .ofString t.kind), ("value", .ofString t.value), ("line", .ofNat t.line)]

/-- **The token that a JSON value stands for.** -/
def ofJson? (j : Json) : Option Token := do
  match ← j.fields? fieldNames with
  | [kind, value, line] =>
    return {
      kind := ← Json.required Json.string? kind
      value := ← Json.required Json.string? value
      line := ← Json.required Json.count? line }
  | _ => none

/-- The compact JSON text of a token. -/
def jsonText (t : Token) : String := String.ofList t.toJson.compact

end RuleLexer.Token
