import RuleLexer.Proofs.Table.Extend

/-!
# What a table refuses, and what it keeps

A rule is refused for its name or for what it depends on, and a list of rules is added up to the
first one that is refused. Of both it is told exactly what becomes of the table:

* `Table.Refuses` — what a rule is refused for, the name being looked at first;
* `Table.appended` — the table with rules behind its own, and with their places in the index;
* `Table.Takes` — rules are added one by one, none being refused;
* `Table.Stops` — what stands behind the rules that were added: nothing, or a rule that is refused.

A rule that is not refused makes the table with that rule appended (`Indexed.add_eq_ok_iff_appended`).
From this one step follows what a list of rules does: it is cut in two at one place, the rules in
front of it are taken and the one behind it is refused (`Table.exists_takes_extend`), and no longer
beginning of the list is taken (`Takes.isPrefix_of_stops`). The main statement is
`Table.built_takes_longest_prefix`.
-/

namespace RuleLexer

namespace Table

variable {t t' t₁ t₂ : Table} {r : Rule} {rules before after : List Rule} {e : TableError}

/-! ### One rule -/

/-- **What a rule is refused for.** -/
inductive Refuses (t : Table) (r : Rule) : TableError → Prop
  /-- The name is taken. -/
  | duplicate (htaken : r.name ∈ t.names) : Refuses t r (.duplicateName r.name)
  /-- The name is new, and the rule that it depends on is not there. -/
  | unknown {d : String} (hnew : r.name ∉ t.names) (hdep : r.dependsOn = some d)
      (hmissing : d ∉ t.names) : Refuses t r (.unknownRule d)

/-- The table with rules behind its own, and with their places in the index. -/
def appended (t : Table) (rules : List Rule) : Table :=
  { t with
    rules := t.rules ++ rules
    index := t.index ++ (rules.map (·.name)).zipIdx t.rules.length }

@[simp] theorem appended_nil (t : Table) : t.appended [] = t := by
  rw [appended, List.append_nil, List.map_nil, List.zipIdx_nil, List.append_nil]

theorem appended_appended (t : Table) (before after : List Rule) :
    (t.appended before).appended after = t.appended (before ++ after) := by
  show Table.mk _ _ _ = Table.mk _ _ _
  congr 1
  · exact List.append_assoc _ _ _
  · -- the places of the later rules are counted on from those of the earlier ones
    show t.index ++ _ ++ (after.map (·.name)).zipIdx (t.rules ++ before).length = _
    rw [List.append_assoc, List.length_append, List.map_append, List.zipIdx_append, List.length_map]

namespace Indexed

/-- **A rule is refused exactly for its name**, or else for what it depends on. -/
theorem add_eq_error_iff (h : t.Indexed) : t.add r = .error e ↔ t.Refuses r e := by
  unfold Table.add
  constructor
  · by_cases htaken : r.name ∈ t.names
    · rw [if_pos (h.contains_iff.2 htaken)]
      rintro ⟨⟩
      exact .duplicate htaken
    · rw [if_neg (mt h.contains_iff.1 htaken)]
      -- a dependency that is kept by the filter is one that is not known
      cases hunknown : r.dependsOn.filter (!t.contains ·) with
      | none => rintro ⟨⟩
      | some d =>
        obtain ⟨hdep, hd⟩ := Option.filter_eq_some_iff.1 hunknown
        rintro ⟨⟩
        refine .unknown htaken hdep fun hknown => ?_
        rw [h.contains_iff.2 hknown] at hd
        exact absurd hd Bool.false_ne_true
  · rintro (htaken | ⟨hnew, hdep, hmissing⟩)
    · exact if_pos (h.contains_iff.2 htaken)
    · have hd : t.contains _ = false := Bool.eq_false_iff.2 (mt h.contains_iff.1 hmissing)
      rw [if_neg (mt h.contains_iff.1 hnew), hdep, Option.filter_some_pos (by rw [hd]; rfl)]

/-- **A rule that is added** stands behind all others, and nothing else changes. -/
theorem add_eq_ok_iff_appended (h : t.Indexed) :
    t.add r = .ok t' ↔
      (r.name ∉ t.names ∧ ∀ d, r.dependsOn = some d → d ∈ t.names) ∧ t' = t.appended [r] := by
  rw [add_eq_ok_iff, ← and_assoc]
  simp only [← h.contains_iff, Bool.not_eq_true]
  refine and_congr_right fun ⟨hfree, _⟩ => ?_
  have hnone : t.index.lookup r.name = none :=
    Option.isNone_iff_eq_none.1 (Option.isSome_eq_false_iff.1 hfree)
  rw [Assoc.alter_of_lookup_eq_none _ hnone]
  rfl

theorem add_eq_appended (h : t.Indexed) (hadd : t.add r = .ok t') : t' = t.appended [r] :=
  (h.add_eq_ok_iff_appended.1 hadd).2

end Indexed

/-! ### Several rules -/

/-- **Rules are added one by one**, and none is refused. -/
inductive Takes : Table → List Rule → Table → Prop
  /-- No rule is left. -/
  | done {t : Table} : Takes t [] t
  /-- A rule is added, and the others after it. -/
  | next {t t₁ t' : Table} {r : Rule} {rules : List Rule} (hadd : t.add r = .ok t₁)
      (hrest : Takes t₁ rules t') : Takes t (r :: rules) t'

/-- **What stands behind the rules that a table has taken**: nothing, or a rule that is refused. -/
inductive Stops (t : Table) : List Rule → Option TableError → Prop
  /-- All rules were taken. -/
  | done : Stops t [] none
  /-- The next rule is refused. -/
  | refused {r : Rule} {rules : List Rule} {e : TableError} (hadd : t.add r = .error e) :
    Stops t (r :: rules) (some e)

/-- Rules are taken exactly when extending adds them all. -/
theorem takes_iff : Takes t rules t' ↔ t.extend rules = (t', none) := by
  induction rules generalizing t with
  | nil =>
    constructor
    · rintro ⟨⟩
      rfl
    · rintro ⟨⟩
      exact .done
  | cons r rules ih =>
    rw [extend]
    cases hadd : t.add r with
    | ok t₁ =>
      constructor
      · rintro (_ | ⟨hadd', hrest⟩)
        obtain rfl := Except.ok.inj (hadd.symm.trans hadd')
        exact ih.1 hrest
      · intro hrest
        exact .next hadd (ih.2 hrest)
    | error e =>
      constructor
      · rintro (_ | ⟨hadd', -⟩)
        exact absurd (hadd.symm.trans hadd') (by simp)
      · rintro ⟨⟩

/-- **Rules that are taken** stand behind all others, and nothing else changes. -/
theorem Takes.eq_appended (htakes : Takes t rules t') (h : t.Indexed) :
    t' = t.appended rules := by
  induction htakes with
  | done => rw [appended_nil]
  | @next t t₁ t' r rules hadd _ ih =>
    rw [ih (h.add hadd), h.add_eq_appended hadd, appended_appended]
    rfl

/-- **Where extending stops.** The rules are cut in two: those in front are taken, and the one
behind them, if any, is refused. -/
theorem exists_takes_extend (t : Table) (rules : List Rule) :
    ∃ taken left, rules = taken ++ left ∧ Takes t taken (t.extend rules).1 ∧
      Stops (t.extend rules).1 left (t.extend rules).2 := by
  induction rules generalizing t with
  | nil => exact ⟨[], [], rfl, .done, .done⟩
  | cons r rules ih =>
    rw [extend]
    cases hadd : t.add r with
    | error e => exact ⟨[], r :: rules, rfl, .done, .refused hadd⟩
    | ok t₁ =>
      obtain ⟨taken, left, rfl, htakes, hstops⟩ := ih t₁
      exact ⟨r :: taken, left, rfl, .next hadd htakes, hstops⟩

/-- Rules are added in two goes as in one, if the first go adds all of its own. -/
theorem extend_append (htakes : Takes t before t₁) :
    t.extend (before ++ after) = t₁.extend after := by
  induction htakes with
  | done => rfl
  | next hadd _ ih =>
    rw [List.cons_append, extend, hadd]
    exact ih

/-- A refusal in the first go is the end of it. -/
theorem extend_append_of_refused (hextend : t.extend before = (t₁, some e)) :
    t.extend (before ++ after) = (t₁, some e) := by
  induction before generalizing t with
  | nil => cases hextend
  | cons r before ih =>
    rw [extend] at hextend
    rw [List.cons_append, extend]
    cases hadd : t.add r with
    | error e' =>
      rw [hadd] at hextend
      exact hextend
    | ok t₂ =>
      rw [hadd] at hextend
      exact ih hextend

/-- **No longer beginning of the rules is taken** than the one that ends where extending stops. -/
theorem Takes.isPrefix_of_stops {taken left : List Rule} {refusal : Option TableError}
    (htakes : Takes t taken t₁) (hstops : Stops t₁ left refusal) (hbefore : Takes t before t₂)
    (hbegins : before <+: taken ++ left) : before <+: taken := by
  -- one of the two beginnings goes on where the other ends
  rcases List.prefix_or_prefix_of_prefix hbegins (List.prefix_append taken left) with h | h
  · exact h
  · obtain ⟨more, rfl⟩ := h
    rw [List.prefix_append_right_inj] at hbegins
    cases hstops with
    | done =>
      obtain rfl := List.prefix_nil.1 hbegins
      simp only [List.append_nil, List.prefix_rfl]
    | refused hadd =>
      cases more with
      | nil => simp only [List.append_nil, List.prefix_rfl]
      | cons r more =>
        -- the rule that is refused would have to be taken
        obtain ⟨rfl, -⟩ := List.cons_prefix_cons.1 hbegins
        have hall := takes_iff.1 hbefore
        rw [extend_append htakes, extend, hadd] at hall
        cases hall

/-- Rules fit behind some names exactly when their own names are new and distinct, and each depends
on nothing but what stands in front of it. -/
theorem fits_iff {known : List String} :
    Fits known rules ↔ (rules.map (·.name)).Nodup ∧ (∀ r ∈ rules, r.name ∉ known) ∧
      ∀ before r after d, rules = before ++ r :: after → r.dependsOn = some d →
        d ∈ known ∨ d ∈ before.map (·.name) := by
  induction rules generalizing known with
  | nil =>
    constructor
    · intro _
      refine ⟨List.nodup_nil, fun r hr => absurd hr List.not_mem_nil, ?_⟩
      intro before r after d hsplit
      exact absurd hsplit (by simp)
    · intro _
      exact trivial
  | cons r rules ih =>
    rw [Fits, ih, List.map_cons, List.nodup_cons]
    constructor
    · rintro ⟨hnew, hknown, hdistinct, hfree, hearlier⟩
      refine ⟨⟨fun hmem => ?_, hdistinct⟩, ?_, ?_⟩
      · obtain ⟨q, hq, hname⟩ := List.mem_map.1 hmem
        exact hfree q hq (List.mem_append_right _ (by rw [hname]; exact List.mem_singleton_self _))
      · intro q hq hmem
        rcases List.mem_cons.1 hq with rfl | hq
        · exact hnew hmem
        · exact hfree q hq (List.mem_append_left _ hmem)
      · intro before q after d hsplit hdep
        cases before with
        | nil =>
          obtain ⟨rfl, -⟩ := List.cons.inj hsplit
          exact Or.inl (hknown d hdep)
        | cons q' before =>
          obtain ⟨rfl, htail⟩ := List.cons.inj hsplit
          rcases hearlier before q after d htail hdep with hmem | hmem
          · rcases List.mem_append.1 hmem with hmem | hmem
            · exact Or.inl hmem
            · exact Or.inr (by rw [List.mem_singleton.1 hmem]; exact List.mem_cons_self)
          · exact Or.inr (List.mem_cons_of_mem _ hmem)
    · rintro ⟨⟨hfirst, hdistinct⟩, hfree, hearlier⟩
      refine ⟨hfree r List.mem_cons_self, fun d hdep => ?_, hdistinct, ?_, ?_⟩
      · exact (hearlier [] r rules d rfl hdep).resolve_right List.not_mem_nil
      · intro q hq hmem
        rcases List.mem_append.1 hmem with hmem | hmem
        · exact hfree q (List.mem_cons_of_mem r hq) hmem
        · exact hfirst (List.mem_map.2 ⟨q, hq, List.mem_singleton.1 hmem⟩)
      · intro before q after d hsplit hdep
        rcases hearlier (r :: before) q after d (by rw [hsplit]; rfl) hdep with hmem | hmem
        · exact Or.inl (List.mem_append_left _ hmem)
        · rcases List.mem_cons.1 hmem with rfl | hmem
          · exact Or.inl (List.mem_append_right _ (List.mem_singleton_self _))
          · exact Or.inr hmem

/-- **A table is extended exactly when** the names of the rules are new and distinct, and each rule
depends on nothing but what is in the table or stands in front of it. -/
theorem Indexed.extend_eq_none_iff (h : t.Indexed) :
    (t.extend rules).2 = none ↔ (rules.map (·.name)).Nodup ∧ (∀ r ∈ rules, r.name ∉ t.names) ∧
      ∀ before r after d, rules = before ++ r :: after → r.dependsOn = some d →
        d ∈ t.names ∨ d ∈ before.map (·.name) := by
  rw [← fits_iff, ← h.exists_extend?_iff]
  simp only [extend?_eq_ok_iff]
  constructor
  · intro hnone
    exact ⟨(t.extend rules).1, Prod.ext rfl hnone⟩
  · rintro ⟨t', hextend⟩
    rw [hextend]

/-! ### Tables that changes build -/

/-- **What adding does to a table** that changes build. One rule is refused for its name if that is
taken, or else for the rule that it depends on if that is not there, and for nothing else; a refused
rule leaves the table as it was, and any other stands behind the rest, with nothing else changed. Of
several rules the longest beginning that can be taken one by one is appended, and the refusal is that
of the next rule, if there is one. Rules are added in two goes as in one, unless the first goes ends
with a refusal, which then ends both. And all rules are added exactly when their names are new and
distinct, and each depends on what is in the table or stands in front of it. -/
theorem built_takes_longest_prefix (changes : List Change) (r : Rule) (rules xs ys : List Rule) :
    let t := built changes
    ((∀ e, t.add r = .error e ↔ t.Refuses r e) ∧
      (∀ e, t.add r = .error e → t.change (.add r) = t) ∧
      ∀ t', t.add r = .ok t' → t' = t.appended [r] ∧ t.change (.add r) = t') ∧
    (∃ taken left, rules = taken ++ left ∧ Takes t taken (t.extend rules).1 ∧
      (t.extend rules).1 = t.appended taken ∧ Stops (t.extend rules).1 left (t.extend rules).2 ∧
      ∀ before t', before <+: rules → Takes t before t' → before <+: taken) ∧
    ((∀ t', t.extend xs = (t', none) → t.extend (xs ++ ys) = t'.extend ys) ∧
      ∀ t' e, t.extend xs = (t', some e) → t.extend (xs ++ ys) = (t', some e)) ∧
    ((t.extend rules).2 = none ↔
      (rules.map (·.name)).Nodup ∧ (∀ q ∈ rules, q.name ∉ t.names) ∧
        ∀ before q after d, rules = before ++ q :: after → q.dependsOn = some d →
          d ∈ t.names ∨ d ∈ before.map (·.name)) := by
  intro t
  have h : t.Indexed := indexed_built changes
  refine ⟨⟨fun e => h.add_eq_error_iff, fun e hadd => ?_, fun t' hadd => ?_⟩, ?_, ⟨?_, ?_⟩,
    h.extend_eq_none_iff⟩
  · rw [change, hadd]
  · refine ⟨h.add_eq_appended hadd, ?_⟩
    rw [change, hadd]
  · obtain ⟨taken, left, hsplit, htakes, hstops⟩ := exists_takes_extend t rules
    refine ⟨taken, left, hsplit, htakes, htakes.eq_appended h, hstops, fun before t' hle hb => ?_⟩
    exact htakes.isPrefix_of_stops hstops hb (hsplit ▸ hle)
  · intro t' hextend
    exact extend_append (takes_iff.2 hextend)
  · intro t' e hextend
    exact extend_append_of_refused hextend

end Table

end RuleLexer
