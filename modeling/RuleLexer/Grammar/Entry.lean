import RuleLexer.Premade
import RuleLexer.Table

/-!
# Entries of a grammar

An entry describes one rule by its parts, or names a ready-made set of rules. An entry that names a
set must say nothing else; any other entry needs a name and an expression at least.
-/

namespace RuleLexer

/-- An entry of a grammar. -/
structure Entry where
  /-- The name of the rule. -/
  name : Option String := none
  /-- The first expression of the rule. -/
  pattern : Option String := none
  /-- Further expressions. -/
  patterns : List String := []
  /-- The group whose capture is the value of the tokens. -/
  capture : Option Nat := none
  /-- The rule that the rule depends on. -/
  dependsOn : Option String := none
  /-- Whether the matches of the rule are passed over. -/
  skips : Bool := false
  /-- The ready-made set that the entry stands for. -/
  premade : Option String := none
  /-- How failures that the rule is the reason of are reported. -/
  descriptor : Option Descriptor := none
  deriving DecidableEq, Repr

/-- What can be wrong with the entries of a grammar. -/
inductive EntryError
  /-- A rule is refused. -/
  | table (cause : TableError)
  /-- There is no ready-made set of the name. -/
  | unknownPremade (name : String)
  /-- The rule has no expression. -/
  | patternMissing (rule : String)
  /-- The entry has neither a name nor a ready-made set. -/
  | nameMissing
  /-- The entry names a ready-made set and says something else. -/
  | premadeCombined (name : String)
  deriving DecidableEq, Repr

/-- What an error in an entry says. -/
def EntryError.message : EntryError → String
  | .table cause => cause.message
  | .unknownPremade name => "unknown premade '" ++ name ++ "'"
  | .patternMissing rule => "rule '" ++ rule ++ "' needs a `pattern` or `patterns`"
  | .nameMissing => "a rule entry needs a `name` or a `premade`"
  | .premadeCombined name => "premade '" ++ name ++ "' can't be combined with other rule keys"

namespace Entry

/-- The entry that stands for a ready-made set. -/
def ofPremade (name : String) : Entry := { premade := some name }

/-- Whether the entry says nothing besides the name of a ready-made set. -/
def isBare (e : Entry) : Bool := decide (e = { premade := e.premade })

/-- The expressions of the rule, in the order in which they are tried. -/
def sources (e : Entry) : List String := e.pattern.toList ++ e.patterns

/-- The rules of a ready-made set, by its name. -/
def premadeRules (name : String) : Except EntryError (List Rule) :=
  match Premade.ofName? name with
  | some set => .ok set.rules
  | none => .error (.unknownPremade name)

/-- The rule that an entry describes by its parts. -/
def rule (e : Entry) : Except EntryError Rule :=
  match e.name with
  | none => .error .nameMissing
  | some name =>
    if e.sources.isEmpty then .error (.patternMissing name)
    else
      match Rule.ofSources name e.sources with
      | .error cause => .error (.table cause)
      | .ok r =>
        .ok { r with
          capture := e.capture
          dependsOn := e.dependsOn
          descriptor := e.descriptor
          skips := e.skips }

/-- **The rules that an entry stands for.** -/
def rules (e : Entry) : Except EntryError (List Rule) :=
  match e.premade with
  | some name => if e.isBare then premadeRules name else .error (.premadeCombined name)
  | none => e.rule.map ([·])

end Entry

end RuleLexer
