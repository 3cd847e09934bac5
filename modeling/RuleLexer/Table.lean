import RuleLexer.Assoc
import RuleLexer.Rule

/-!
# Tables

A table is a list of rules in the order of their priority, with an index of their places by name.
Rules are added at the end; a rule is refused if its name is taken, or if it depends on a rule that
is not in the table yet. So the names in a table that was built by adding are distinct, the index
gives the place of each, and every rule depends on an earlier one.
-/

namespace RuleLexer

/-- Rules in the order of their priority, with a descriptor for failures that no rule describes. -/
structure Table where
  /-- The rules, the one with the highest priority first. -/
  rules : List Rule := []
  /-- The place of each rule, counted from zero, by its name. -/
  index : List (String × Nat) := (rules.map (·.name)).zipIdx
  /-- How failures are reported that no rule describes. -/
  fallback : Option Descriptor := none

namespace Table

/-- The table without rules. -/
def empty : Table := {}

/-- The names of the rules, in the order of priority. -/
def names (t : Table) : List String := t.rules.map (·.name)

/-- The place of the rule of a name, if there is one. -/
def place? (t : Table) (name : String) : Option Nat := t.index.lookup name

/-- The rule of a name, if there is one. It stands at the place that the index gives. -/
def find? (t : Table) (name : String) : Option Rule := (t.place? name).bind (t.rules[·]?)

/-- The rule of a name. -/
def get (t : Table) (name : String) : Except TableError Rule :=
  match t.find? name with
  | some rule => .ok rule
  | none => .error (.unknownRule name)

/-- Whether there is a rule of a name. -/
def contains (t : Table) (name : String) : Bool := (t.place? name).isSome

/-- The table with another fallback descriptor. -/
def withFallback (t : Table) (d : Descriptor) : Table := { t with fallback := some d }

/-- **Adding a rule** at the lowest priority. -/
def add (t : Table) (rule : Rule) : Except TableError Table :=
  if t.contains rule.name then .error (.duplicateName rule.name)
  else
    match rule.dependsOn.filter (!t.contains ·) with
    | some dependency => .error (.unknownRule dependency)
    | none =>
      .ok { t with
        rules := t.rules ++ [rule]
        index := Assoc.alter (fun _ => t.rules.length) rule.name t.index }

/-- **Adding several rules**, one after the other, up to the first that is refused. The rules before
it stay in the table. -/
def extend (t : Table) : List Rule → Table × Option TableError
  | [] => (t, none)
  | rule :: rules =>
    match t.add rule with
    | .ok t => t.extend rules
    | .error e => (t, some e)

/-- The table with all of several rules added, or the first refusal. -/
def extend? (t : Table) (rules : List Rule) : Except TableError Table :=
  match t.extend rules with
  | (t, none) => .ok t
  | (_, some e) => .error e

end Table

end RuleLexer
