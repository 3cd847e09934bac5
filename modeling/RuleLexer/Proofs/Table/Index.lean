import Mathlib.Data.List.Nodup
import Mathlib.Logic.Relation
import RuleLexer.Proofs.Outcome
import RuleLexer.Table

/-!
# The index of a table

A table holds its rules twice over: in the order of priority, and in an index of their places by
name. It is built from the empty table by changes (`Table.Change`), some of which are refused and
then leave the table as it was, or stop half-way and leave it with the rules before the refusal.

The invariant is `Table.Indexed`: no two rules share a name, the index lists the names in the order
of the rules, each with its place, and a rule depends on a rule in front of it only. A rule that is
added stands behind all others, and only if its name is new and its dependency is known
(`Table.add_eq_ok_iff`); so adding keeps the invariant (`Indexed.add`), and with it every change does
(`Indexed.change`).

From the invariant follows that the index never points past the rules, that looking up a name finds
the one rule of that name, and that dependencies lead to ever earlier places, so that none leads back
to where it began. The main statement, `Table.built_distinct_indexed_acyclic`, says all this of every
table that changes build.
-/

namespace RuleLexer

namespace Table

variable {t t' : Table}

/-! ### Changes -/

/-- A change of a table. -/
inductive Change
  /-- A rule is added. -/
  | add (rule : Rule)
  /-- Rules are added one after the other, up to the first that is refused. -/
  | extend (rules : List Rule)
  /-- The fallback descriptor is set. -/
  | withFallback (d : Descriptor)

/-- The table after a change. A rule that is refused leaves it as it was. -/
def change (t : Table) : Change → Table
  | .add rule =>
    match t.add rule with
    | .ok t' => t'
    | .error _ => t
  | .extend rules => (t.extend rules).1
  | .withFallback d => t.withFallback d

/-- **The table that changes build**, one after the other, from the empty table. -/
def built (changes : List Change) : Table := changes.foldl change .empty

/-! ### What adding a rule does -/

/-- **A rule is added** exactly when its name is new and the rule that it depends on is known. It goes
to the end, and its place into the index. -/
theorem add_eq_ok_iff {rule : Rule} :
    t.add rule = .ok t' ↔ t.contains rule.name = false ∧
      (∀ d, rule.dependsOn = some d → t.contains d = true) ∧
      t' = { t with
        rules := t.rules ++ [rule]
        index := Assoc.alter (fun _ => t.rules.length) rule.name t.index } := by
  unfold add
  by_cases htaken : t.contains rule.name = true
  · rw [if_pos htaken]
    constructor
    · rintro ⟨⟩
    · rintro ⟨hfree, -, -⟩
      exact absurd (htaken.symm.trans hfree) (by simp)
  · rw [if_neg htaken]
    have hfree : t.contains rule.name = false := Bool.eq_false_iff.2 htaken
    -- a dependency that is kept by the filter is one that is not known
    cases hunknown : rule.dependsOn.filter (!t.contains ·) with
    | some d =>
      obtain ⟨hdep, hd⟩ := Option.filter_eq_some_iff.1 hunknown
      constructor
      · rintro ⟨⟩
      · rintro ⟨-, hknown, -⟩
        rw [hknown d hdep] at hd
        exact absurd hd (by simp)
    | none =>
      have hknown : ∀ d, rule.dependsOn = some d → t.contains d = true := by
        intro d hdep
        have hd := Option.filter_eq_none_iff.1 hunknown d hdep
        simpa using hd
      constructor
      · intro h
        exact ⟨hfree, hknown, (Except.ok.inj h).symm⟩
      · rintro ⟨-, -, rfl⟩
        rfl

/-! ### Places of names -/

/-- In a list without repetitions, an entry is found at its place. -/
theorem lookup_zipIdx {names : List String} (distinct : names.Nodup) {start : Nat} {name : String}
    {i : Nat} :
    (names.zipIdx start).lookup name = some i ↔ ∃ k, i = start + k ∧ names[k]? = some name := by
  induction names generalizing start with
  | nil => simp
  | cons a names ih =>
    obtain ⟨hnew, hdistinct⟩ := List.nodup_cons.1 distinct
    rw [List.zipIdx_cons, List.lookup_cons]
    by_cases heq : name = a
    · -- the first entry is the one, and no later entry is
      subst heq
      simp only [beq_self_eq_true, Option.some.injEq]
      constructor
      · rintro rfl
        exact ⟨0, rfl, rfl⟩
      · rintro ⟨k, rfl, hk⟩
        cases k with
        | zero => rfl
        | succ k =>
          rw [List.getElem?_cons_succ] at hk
          exact absurd (List.mem_of_getElem? hk) hnew
    · rw [beq_eq_false_iff_ne.2 heq]
      simp only [ih hdistinct]
      constructor
      · rintro ⟨k, rfl, hk⟩
        exact ⟨k + 1, by omega, hk⟩
      · rintro ⟨k, rfl, hk⟩
        cases k with
        | zero => exact absurd (Option.some.inj hk).symm heq
        | succ k => exact ⟨k, by omega, hk⟩

/-! ### The invariant -/

/-- **The invariant of a table** that was built by changes. -/
structure Indexed (t : Table) : Prop where
  /-- No two rules share a name. -/
  distinct : t.names.Nodup
  /-- The index lists the names in the order of the rules, each with its place. -/
  index_eq : t.index = t.names.zipIdx
  /-- A rule depends on a rule in front of it only. -/
  earlier : ∀ (i : Nat) (r : Rule) (d : String), t.rules[i]? = some r → r.dependsOn = some d →
    ∃ j, j < i ∧ t.names[j]? = some d

theorem names_getElem? (t : Table) (i : Nat) : t.names[i]? = t.rules[i]?.map (·.name) :=
  List.getElem?_map

theorem mem_names {name : String} : name ∈ t.names ↔ ∃ r ∈ t.rules, r.name = name :=
  List.mem_map

namespace Indexed

theorem empty : Indexed .empty where
  distinct := List.nodup_nil
  index_eq := rfl
  earlier := fun _ _ _ h => absurd h (by simp [Table.empty])

theorem place?_eq_some_iff (h : t.Indexed) {name : String} {i : Nat} :
    t.place? name = some i ↔ t.names[i]? = some name := by
  rw [place?, h.index_eq, lookup_zipIdx h.distinct]
  constructor
  · rintro ⟨k, rfl, hk⟩
    rwa [Nat.zero_add]
  · intro hi
    exact ⟨i, (Nat.zero_add i).symm, hi⟩

/-- **The index never points past the rules.** -/
theorem exists_rule_at (h : t.Indexed) {name : String} {i : Nat} (hi : t.place? name = some i) :
    ∃ r, t.rules[i]? = some r ∧ r.name = name := by
  rw [h.place?_eq_some_iff, names_getElem?] at hi
  exact Option.map_eq_some_iff.1 hi

theorem contains_iff (h : t.Indexed) {name : String} :
    t.contains name = true ↔ name ∈ t.names := by
  rw [contains, Option.isSome_iff_exists, List.mem_iff_getElem?]
  simp only [h.place?_eq_some_iff]

/-- **Looking up a name** finds the one rule of that name. -/
theorem find?_eq_some_iff (h : t.Indexed) {name : String} {r : Rule} :
    t.find? name = some r ↔ r ∈ t.rules ∧ r.name = name := by
  rw [find?, Option.bind_eq_some_iff]
  constructor
  · rintro ⟨i, hi, hr⟩
    obtain ⟨r', hr', hname⟩ := h.exists_rule_at hi
    obtain rfl := Option.some.inj (hr'.symm.trans hr)
    exact ⟨List.mem_of_getElem? hr, hname⟩
  · rintro ⟨hmem, rfl⟩
    obtain ⟨i, hr⟩ := List.mem_iff_getElem?.1 hmem
    refine ⟨i, h.place?_eq_some_iff.2 ?_, hr⟩
    rw [names_getElem?, hr]
    rfl

theorem get_eq_ok_iff (h : t.Indexed) {name : String} {r : Rule} :
    t.get name = .ok r ↔ r ∈ t.rules ∧ r.name = name := by
  rw [← h.find?_eq_some_iff, get]
  cases t.find? name with
  | none => exact ⟨fun he => absurd he (by simp), fun he => absurd he (by simp)⟩
  | some r' => exact ⟨fun he => congrArg some (Except.ok.inj he),
      fun he => congrArg Except.ok (Option.some.inj he)⟩

/-! ### Changes keep the invariant -/

/-- **Adding a rule keeps the invariant.** -/
theorem add {rule : Rule} (h : t.Indexed) (hadd : t.add rule = .ok t') : t'.Indexed := by
  obtain ⟨hfree, hknown, rfl⟩ := add_eq_ok_iff.1 hadd
  have hnew : rule.name ∉ t.names := fun hmem => by
    rw [h.contains_iff.2 hmem] at hfree
    exact absurd hfree (by simp)
  have hnames : (t.rules ++ [rule]).map (·.name) = t.names ++ [rule.name] := List.map_append
  have hlength : t.names.length = t.rules.length := List.length_map _
  refine ⟨?_, ?_, ?_⟩
  · change ((t.rules ++ [rule]).map (·.name)).Nodup
    rw [hnames]
    exact List.nodup_append.2 ⟨h.distinct, List.nodup_singleton _, fun a ha b hb hab => hnew (by
      rwa [← List.mem_singleton.1 hb, ← hab])⟩
  · -- the name is not in the index yet, so that its place goes to the end
    have hnone : t.index.lookup rule.name = none :=
      Option.isNone_iff_eq_none.1 (Option.isSome_eq_false_iff.1 hfree)
    change Assoc.alter (fun _ => t.rules.length) rule.name t.index =
      ((t.rules ++ [rule]).map (·.name)).zipIdx
    rw [Assoc.alter_of_lookup_eq_none _ hnone, hnames, h.index_eq, List.zipIdx_append, hlength,
      Nat.zero_add]
    rfl
  · intro i r d hi hdep
    change (t.rules ++ [rule])[i]? = some r at hi
    change ∃ j, j < i ∧ ((t.rules ++ [rule]).map (·.name))[j]? = some d
    rw [hnames]
    -- the dependency stands in front of the rule, and among the rules that were there
    have hbefore : ∃ j, j < i ∧ t.names[j]? = some d := by
      rcases Nat.lt_or_ge i t.rules.length with hlt | hge
      · rw [List.getElem?_append_left hlt] at hi
        exact h.earlier i r d hi hdep
      · rw [List.getElem?_append_right hge] at hi
        obtain rfl := List.mem_singleton.1 (List.mem_of_getElem? hi)
        obtain ⟨j, hj⟩ := List.mem_iff_getElem?.1 (h.contains_iff.1 (hknown d hdep))
        obtain ⟨hjlt, -⟩ := List.getElem?_eq_some_iff.1 hj
        exact ⟨j, by omega, hj⟩
    obtain ⟨j, hj, hd⟩ := hbefore
    obtain ⟨hjlt, -⟩ := List.getElem?_eq_some_iff.1 hd
    exact ⟨j, hj, by rw [List.getElem?_append_left hjlt, hd]⟩

/-- **Adding several rules keeps the invariant**, whether all are added or not. -/
theorem extend (h : t.Indexed) (rules : List Rule) : (t.extend rules).1.Indexed := by
  induction rules generalizing t with
  | nil => exact h
  | cons rule rules ih =>
    rw [Table.extend]
    cases hadd : t.add rule with
    | ok t' => exact ih (h.add hadd)
    | error e => exact h

/-- **Every change keeps the invariant.** -/
theorem change (h : t.Indexed) (c : Change) : (t.change c).Indexed := by
  cases c with
  | add rule =>
    rw [Table.change]
    cases hadd : t.add rule with
    | ok t' => exact h.add hadd
    | error e => exact h
  | extend rules => exact h.extend rules
  | withFallback d => exact ⟨h.distinct, h.index_eq, h.earlier⟩

theorem changes (h : t.Indexed) (cs : List Change) : (cs.foldl Table.change t).Indexed := by
  induction cs generalizing t with
  | nil => exact h
  | cons c cs ih => exact ih (h.change c)

end Indexed

/-- Every table that changes build has the invariant. -/
theorem indexed_built (changes : List Change) : (built changes).Indexed :=
  Indexed.empty.changes changes

/-! ### Dependencies lead to earlier places -/

/-- The rule of the first name depends on that of the second. -/
def Depends (t : Table) (name dependency : String) : Prop :=
  ∃ r ∈ t.rules, r.name = name ∧ r.dependsOn = some dependency

namespace Indexed

theorem place_lt_of_depends (h : t.Indexed) {name dependency : String}
    (hdep : t.Depends name dependency) :
    ∃ i j, t.place? name = some i ∧ t.place? dependency = some j ∧ j < i := by
  obtain ⟨r, hmem, rfl, hd⟩ := hdep
  obtain ⟨i, hi⟩ := List.mem_iff_getElem?.1 hmem
  obtain ⟨j, hj, hname⟩ := h.earlier i r dependency hi hd
  have hplace : t.names[i]? = some r.name := by rw [names_getElem?, hi]; rfl
  exact ⟨i, j, h.place?_eq_some_iff.2 hplace, h.place?_eq_some_iff.2 hname, hj⟩

/-- **A chain of dependencies leads to an earlier place.** -/
theorem place_lt_of_chain (h : t.Indexed) {name dependency : String}
    (hchain : Relation.TransGen t.Depends name dependency) :
    ∃ i j, t.place? name = some i ∧ t.place? dependency = some j ∧ j < i := by
  induction hchain with
  | single hdep => exact h.place_lt_of_depends hdep
  | tail _ hdep ih =>
    obtain ⟨i, j, hi, hj, hlt⟩ := ih
    obtain ⟨j', k, hj', hk, hlt'⟩ := h.place_lt_of_depends hdep
    obtain rfl := Option.some.inj (hj.symm.trans hj')
    exact ⟨i, k, hi, hk, Nat.lt_trans hlt' hlt⟩

theorem not_chain_self (h : t.Indexed) (name : String) :
    ¬ Relation.TransGen t.Depends name name := by
  intro hchain
  obtain ⟨i, j, hi, hj, hlt⟩ := h.place_lt_of_chain hchain
  obtain rfl := Option.some.inj (hi.symm.trans hj)
  exact Nat.lt_irrefl i hlt

end Indexed

/-- **What holds of every table that changes build**, accepted or refused: the names are distinct; the
index gives each name its place among the rules, and no other name any; each rule depends on a rule
at an earlier place, so that no rule depends on itself, be it through others; and a name is contained
exactly when it is one of the names, which is when looking it up succeeds, with the one rule of that
name. -/
theorem built_distinct_indexed_acyclic (changes : List Change) :
    (built changes).names.Nodup ∧
    (∀ name i, (built changes).place? name = some i ↔ (built changes).names[i]? = some name) ∧
    (∀ name i, (built changes).place? name = some i →
      ∃ r, (built changes).rules[i]? = some r ∧ r.name = name) ∧
    (∀ (i : Nat) (r : Rule) (d : String), (built changes).rules[i]? = some r → r.dependsOn = some d →
      ∃ j, j < i ∧ (built changes).names[j]? = some d) ∧
    (∀ name, ¬ Relation.TransGen (built changes).Depends name name) ∧
    (∀ name, ((built changes).contains name = true ↔ name ∈ (built changes).names) ∧
      (name ∈ (built changes).names ↔ ∃ r, (built changes).get name = .ok r)) ∧
    ∀ name r, (built changes).get name = .ok r ↔
      r ∈ (built changes).rules ∧ r.name = name := by
  have h := indexed_built changes
  refine ⟨h.distinct, fun name i => h.place?_eq_some_iff, fun name i => h.exists_rule_at, h.earlier,
    h.not_chain_self, fun name => ⟨h.contains_iff, ?_⟩, fun name r => h.get_eq_ok_iff⟩
  rw [mem_names]
  simp only [h.get_eq_ok_iff]

end Table

end RuleLexer
