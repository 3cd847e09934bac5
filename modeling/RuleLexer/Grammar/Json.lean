import RuleLexer.Grammar.Entry
import RuleLexer.Json.Record
import RuleLexer.Scan

/-!
# Parts of a grammar in JSON

Descriptors, the choices for a scan and the entries of a grammar are records. What may be left out
of them is the kind of a descriptor and every part of an entry.
-/

namespace RuleLexer

namespace Descriptor

/-- The names of the fields of a descriptor. -/
def fieldNames : List String := ["kind", "message"]

/-- **The descriptor that a JSON value stands for.** -/
def ofJson? (j : Json) : Option Descriptor := do
  match ← j.fields? fieldNames with
  | [kind, message] =>
    return {
      kind := ← Json.withDefault defaultKind Json.string? kind
      message := ← Json.required Json.string? message }
  | _ => none

end Descriptor

namespace ScanOptions

/-- The names of the fields of the choices for a scan. -/
def fieldNames : List String := ["max_error_text"]

/-- **The choices for a scan that a JSON value stands for.** -/
def ofJson? (j : Json) : Option ScanOptions := do
  match ← j.fields? fieldNames with
  | [most] => return { maxErrorText := ← Json.required Json.count? most }
  | _ => none

end ScanOptions

namespace Entry

/-- The names of the fields of an entry. -/
def fieldNames : List String :=
  ["name", "pattern", "patterns", "capturing_group", "depends_on", "skip", "premade", "error"]

/-- **The entry that a JSON value stands for.** -/
def ofJson? (j : Json) : Option Entry := do
  match ← j.fields? fieldNames with
  | [name, pattern, patterns, capture, dependsOn, skips, premade, descriptor] =>
    return {
      name := ← Json.optional Json.string? name
      pattern := ← Json.optional Json.string? pattern
      patterns := ← Json.withDefault [] (Json.list? Json.string?) patterns
      capture := ← Json.optional Json.count? capture
      dependsOn := ← Json.optional Json.string? dependsOn
      skips := ← Json.withDefault false Json.bool? skips
      premade := ← Json.optional Json.string? premade
      descriptor := ← Json.optional Descriptor.ofJson? descriptor }
  | _ => none

end Entry

end RuleLexer
