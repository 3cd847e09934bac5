import RuleLexer.Proofs.Table.Index

/-!
# Rules that a table takes

Several rules are added one after the other, and the first one that is refused ends it. Whether all
of them are taken does not hang on the index, but on names alone:

* `Table.Fits` — rules fit behind some names: each has a name that is new, and depends on nothing
  but what stands in front of it.

A table takes rules exactly when they fit behind its names (`Indexed.exists_extend?_iff`), and then
holds them behind its own (`Table.rules_of_extend`). The rules of a table that was built by changes
fit behind nothing (`Indexed.fits`); and so do those that are left when some are taken out, if no
rule stays without the one that it depends on (`Fits.filter`).
-/

namespace RuleLexer

namespace Table

variable {t t' : Table} {rule r : Rule} {rules : List Rule} {d : String}

/-! ### What extending does -/

/-- Several rules are added exactly when none is refused on the way. -/
theorem extend?_eq_ok_iff : t.extend? rules = .ok t' ↔ t.extend rules = (t', none) := by
  unfold extend?
  cases hextend : t.extend rules with
  | mk t₁ refusal =>
    cases refusal with
    | none =>
      constructor
      · rintro ⟨⟩
        rfl
      · rintro ⟨⟩
        rfl
    | some e =>
      constructor
      · rintro ⟨⟩
      · rintro ⟨⟩

/-- **Rules that are added go to the end**, in the order in which they are given. -/
theorem rules_of_extend (h : t.extend rules = (t', none)) : t'.rules = t.rules ++ rules := by
  -- on the added rules; every one of them makes another table, which the next is added to
  induction rules generalizing t with
  | nil =>
    obtain ⟨rfl, -⟩ := Prod.mk.inj h
    exact (List.append_nil _).symm
  | cons rule rules ih =>
    rw [Table.extend] at h
    cases hadd : t.add rule with
    | error e =>
      rw [hadd] at h
      exact absurd (Prod.mk.inj h).2 (by simp)
    | ok t₁ =>
      rw [hadd] at h
      obtain ⟨-, -, hadded⟩ := add_eq_ok_iff.1 hadd
      calc t'.rules
          = t₁.rules ++ rules := ih h
        _ = t.rules ++ [rule] ++ rules := by rw [hadded]
        _ = t.rules ++ rule :: rules := by rw [List.append_assoc, List.singleton_append]

theorem names_of_add (h : t.add rule = .ok t') : t'.names = t.names ++ [rule.name] := by
  obtain ⟨-, -, rfl⟩ := add_eq_ok_iff.1 h
  exact List.map_append

/-! ### Rules that fit -/

/-- **Rules fit behind some names**: the name of each is none of those in front of it, and what it
depends on is one of them. -/
def Fits : List String → List Rule → Prop
  | _, [] => True
  | known, r :: rules =>
    r.name ∉ known ∧ (∀ d, r.dependsOn = some d → d ∈ known) ∧ Fits (known ++ [r.name]) rules

/-- Rules still fit when some are taken out, if the rule that a rule depends on stays with it. The
rules of `done` are those in front. -/
theorem Fits.filter {p : Rule → Bool} (done : List Rule) (h : Fits (done.map (·.name)) rules)
    (closed : ∀ r ∈ rules, p r = true → ∀ q ∈ done ++ rules, r.dependsOn = some q.name →
      p q = true) :
    Fits ((done.filter p).map (·.name)) (rules.filter p) := by
  -- on the rules; each goes over to those in front
  induction rules generalizing done with
  | nil => exact trivial
  | cons r rules ih =>
    obtain ⟨hnew, hknown, hrest⟩ := h
    have hdone : done ++ [r] ++ rules = done ++ r :: rules := by
      rw [List.append_assoc, List.singleton_append]
    have hrest' : Fits ((done ++ [r]).map (·.name)) rules := by
      rwa [List.map_append]
    have htail := ih (done ++ [r]) hrest' fun q hq hp => by
      rw [hdone]
      exact closed q (List.mem_cons_of_mem r hq) hp
    by_cases hp : p r = true
    · rw [List.filter_cons_of_pos hp]
      refine ⟨fun hmem => hnew ?_, fun d hdep => ?_, ?_⟩
      · exact (List.filter_sublist.map _).subset hmem
      · -- the rule that it depends on stands in front, and stays
        obtain ⟨q, hq, rfl⟩ := List.mem_map.1 (hknown d hdep)
        have hstays := closed r List.mem_cons_self hp q (List.mem_append_left _ hq) hdep
        exact List.mem_map_of_mem (List.mem_filter.2 ⟨hq, hstays⟩)
      · rwa [List.filter_append, List.filter_cons_of_pos hp, List.filter_nil,
          List.map_append] at htail
    · rw [List.filter_cons_of_neg hp]
      rwa [List.filter_append, List.filter_cons_of_neg hp, List.filter_nil,
        List.append_nil] at htail

namespace Indexed

/-- A rule is added exactly when its name is new, and what it depends on is among the names. -/
theorem exists_add_iff (h : t.Indexed) :
    (∃ t', t.add r = .ok t') ↔
      r.name ∉ t.names ∧ ∀ d, r.dependsOn = some d → d ∈ t.names := by
  simp only [add_eq_ok_iff, ← h.contains_iff, Bool.not_eq_true]
  constructor
  · rintro ⟨t', hfree, hknown, -⟩
    exact ⟨hfree, hknown⟩
  · rintro ⟨hfree, hknown⟩
    exact ⟨_, hfree, hknown, rfl⟩

/-- **A table takes rules exactly when they fit behind its names.** -/
theorem exists_extend?_iff (h : t.Indexed) :
    (∃ t', t.extend? rules = .ok t') ↔ Fits t.names rules := by
  simp only [extend?_eq_ok_iff]
  induction rules generalizing t with
  | nil => exact ⟨fun _ => trivial, fun _ => ⟨t, rfl⟩⟩
  | cons r rules ih =>
    rw [Table.extend, Fits]
    cases hadd : t.add r with
    | ok t₁ =>
      obtain ⟨hnew, hknown⟩ := h.exists_add_iff.1 ⟨t₁, hadd⟩
      rw [← names_of_add hadd, ← ih (h.add hadd)]
      exact ⟨fun hrest => ⟨hnew, hknown, hrest⟩, fun h => h.2.2⟩
    | error e =>
      constructor
      · rintro ⟨t', ht'⟩
        exact absurd (Prod.mk.inj ht').2 (by simp)
      · rintro ⟨hnew, hknown, -⟩
        obtain ⟨t₁, hadd'⟩ := h.exists_add_iff.2 ⟨hnew, hknown⟩
        exact absurd (hadd.symm.trans hadd') (by simp)

/-- The rule that a rule depends on stands in front of it. -/
theorem exists_earlier (h : t.Indexed) {before after : List Rule}
    (split : t.rules = before ++ r :: after) (depends : r.dependsOn = some d) :
    ∃ q ∈ before, q.name = d := by
  have hplace : t.rules[before.length]? = some r := by
    rw [split, List.getElem?_append_right (Nat.le_refl _), Nat.sub_self]
    rfl
  obtain ⟨j, hj, hd⟩ := h.earlier before.length r d hplace depends
  rw [names_getElem?, split, List.getElem?_append_left hj] at hd
  obtain ⟨q, hq, hname⟩ := Option.map_eq_some_iff.1 hd
  exact ⟨q, List.mem_of_getElem? hq, hname⟩

/-- **The rules of a table fit behind nothing.** -/
theorem fits (h : t.Indexed) : Fits [] t.rules := by
  -- on the rules that are left, those in front being `done`
  suffices hall : ∀ rules done : List Rule, t.rules = done ++ rules →
      Fits (done.map (·.name)) rules from hall t.rules [] rfl
  intro rules
  induction rules with
  | nil => exact fun _ _ => trivial
  | cons r rules ih =>
    intro done hsplit
    refine ⟨fun hmem => ?_, fun d hdep => ?_, ?_⟩
    · have hdistinct := h.distinct
      rw [names, hsplit, List.map_append, List.map_cons] at hdistinct
      exact (List.nodup_append.1 hdistinct).2.2 r.name hmem r.name List.mem_cons_self rfl
    · obtain ⟨q, hq, rfl⟩ := h.exists_earlier hsplit hdep
      exact List.mem_map_of_mem hq
    · have hrest := ih (done ++ [r]) (by rw [hsplit, List.append_assoc, List.singleton_append])
      rwa [List.map_append] at hrest

end Indexed

end Table

end RuleLexer
