import RuleLexer.Grammar.Entry
import RuleLexer.Scan

/-!
# Grammars

A grammar is a list of entries with the choices for a scan and a descriptor for failures that no
rule describes. Its table holds the rules of the entries in their order; the first entry that is
wrong, or whose rules the table refuses, decides how the building fails.
-/

namespace RuleLexer

/-- A grammar. -/
structure Grammar where
  /-- The choices for a scan. -/
  options : ScanOptions := {}
  /-- How failures are reported that no rule describes. -/
  fallback : Option Descriptor := none
  /-- The entries, in the order of priority. -/
  entries : List Entry := []
  deriving DecidableEq, Repr

namespace Table

/-- The table with the rules of an entry added. -/
def addEntry (t : Table) (e : Entry) : Except EntryError Table := do
  (t.extend? (← e.rules)).mapError .table

/-- The table with the rules of several entries added, in their order. -/
def addEntries (t : Table) : List Entry → Except EntryError Table
  | [] => .ok t
  | e :: es => do (← t.addEntry e).addEntries es

end Table

namespace Grammar

/-- **The table of a grammar.** -/
def table (g : Grammar) : Except EntryError Table :=
  ({ fallback := g.fallback } : Table).addEntries g.entries

/-- The grammar with ready-made sets added behind its entries. -/
def withPremades (g : Grammar) (names : List String) : Grammar :=
  { g with entries := g.entries ++ names.map .ofPremade }

end Grammar

end RuleLexer
