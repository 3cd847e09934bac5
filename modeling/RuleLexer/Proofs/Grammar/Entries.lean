import RuleLexer.Grammar.Basic
import RuleLexer.Proofs.Outcome

/-!
# Entries one after the other

The rules of entries go into a table entry by entry. So entries behind others are entries added to
the table of those others (`Table.addEntries_append`), and a grammar with ready-made sets behind its
entries has the table of the grammar, with the rules of those sets added
(`Grammar.table_withPremades`).
-/

namespace RuleLexer

namespace Table

variable {t t' : Table}

/-- **Entries behind others** are added to the table that those leave. -/
theorem addEntries_append (es fs : List Entry) :
    t.addEntries (es ++ fs) = t.addEntries es >>= (·.addEntries fs) := by
  induction es generalizing t with
  | nil => rfl
  | cons e es ih =>
    rw [List.cons_append, addEntries, addEntries]
    cases t.addEntry e with
    | error cause => rfl
    | ok t₁ => exact ih

theorem addEntry_eq_ok_iff {e : Entry} :
    t.addEntry e = .ok t' ↔ ∃ rules, e.rules = .ok rules ∧ t.extend? rules = .ok t' := by
  rw [addEntry, bind_eq_ok_iff]
  simp only [mapError_eq_ok_iff]

end Table

namespace Entry

/-- An entry that stands for a ready-made set says nothing else. -/
@[simp] theorem rules_ofPremade (name : String) : (ofPremade name).rules = premadeRules name := by
  have hbare : (ofPremade name).isBare = true := decide_eq_true rfl
  change (if (ofPremade name).isBare then premadeRules name else _) = _
  rw [if_pos hbare]

theorem premadeRules_eq_ok_iff {name : String} {rules : List Rule} :
    premadeRules name = .ok rules ↔ ∃ set, Premade.ofName? name = some set ∧ set.rules = rules := by
  rw [premadeRules]
  cases Premade.ofName? name with
  | none =>
    constructor
    · rintro ⟨⟩
    · rintro ⟨set, ⟨⟩, -⟩
  | some set =>
    constructor
    · intro h
      exact ⟨set, rfl, Except.ok.inj h⟩
    · rintro ⟨set', hset, rfl⟩
      obtain rfl := Option.some.inj hset
      rfl

end Entry

/-- The entry of a ready-made set adds the rules of the set. -/
theorem Table.addEntry_ofPremade_eq_ok_iff {t t' : Table} {name : String} :
    t.addEntry (.ofPremade name) = .ok t' ↔
      ∃ set, Premade.ofName? name = some set ∧ t.extend? set.rules = .ok t' := by
  rw [addEntry_eq_ok_iff]
  simp only [Entry.rules_ofPremade, Entry.premadeRules_eq_ok_iff]
  constructor
  · rintro ⟨-, ⟨set, hset, rfl⟩, hextend⟩
    exact ⟨set, hset, hextend⟩
  · rintro ⟨set, hset, hextend⟩
    exact ⟨set.rules, ⟨set, hset, rfl⟩, hextend⟩

namespace Grammar

@[simp] theorem options_withPremades (g : Grammar) (names : List String) :
    (g.withPremades names).options = g.options := rfl

/-- **Ready-made sets behind the entries of a grammar** are added to its table. -/
theorem table_withPremades (g : Grammar) (names : List String) :
    (g.withPremades names).table = g.table >>= (·.addEntries (names.map .ofPremade)) :=
  Table.addEntries_append g.entries (names.map .ofPremade)

end Grammar

end RuleLexer
