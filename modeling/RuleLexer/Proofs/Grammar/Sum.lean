import RuleLexer.Proofs.Grammar.Entries
import RuleLexer.Proofs.Table.Refusal

/-!
# The table of a grammar is the sum of its entries

The entries of a grammar are turned into rules and added to the table one by one, so that turning an
entry into rules and adding those of the entries before it take turns. What comes of it is told
without taking turns:

* `Entry.Parts` — the rules that each of several entries stands for;
* `Entry.Fails` — what an entry fails for behind the entries of a table: it stands for no rules, or
  one of them is refused.

If all entries stand for rules and these, one behind the other, fit behind nothing, they make the
table (`Table.Indexed.addEntries_eq_ok_iff`); otherwise the entries are cut in two at one place,
those in front of it making a table behind which the next one fails
(`Table.addEntries_eq_error_iff`). Main statement: `Grammar.table_sum`.
-/

namespace RuleLexer

/-! ### Adding several rules at once -/

namespace Table

variable {t t' t₁ : Table} {r : Rule} {rules before after : List Rule} {e : TableError}

/-- Rules fit in two goes as in one. -/
theorem fits_append {known : List String} :
    Fits known (before ++ after) ↔
      Fits known before ∧ Fits (known ++ before.map (·.name)) after := by
  induction before generalizing known with
  | nil =>
    rw [List.map_nil, List.append_nil]
    exact (and_iff_right trivial).symm
  | cons r before ih =>
    rw [List.cons_append, Fits, Fits, ih, List.map_cons, List.append_assoc, List.singleton_append]
    simp only [and_assoc]

theorem names_appended (t : Table) (rules : List Rule) :
    (t.appended rules).names = t.names ++ rules.map (·.name) :=
  List.map_append

theorem Takes.indexed (htakes : Takes t rules t') (h : t.Indexed) : t'.Indexed := by
  induction htakes with
  | done => exact h
  | next hadd _ ih => exact ih (h.add hadd)

/-- Rules that are added all at once are taken one by one. -/
theorem extend?_eq_ok_iff_takes : t.extend? rules = .ok t' ↔ Takes t rules t' :=
  extend?_eq_ok_iff.trans takes_iff.symm

theorem Indexed.extend? (h : t.Indexed) (hextend : t.extend? rules = .ok t') : t'.Indexed :=
  (extend?_eq_ok_iff_takes.1 hextend).indexed h

/-- **Where adding several rules fails**: at one of them, all in front of it having been taken. -/
theorem extend?_eq_error_iff :
    t.extend? rules = .error e ↔
      ∃ taken r left t₁, rules = taken ++ r :: left ∧ Takes t taken t₁ ∧ t₁.add r = .error e := by
  constructor
  · intro h
    obtain ⟨taken, left, hsplit, htakes, hstops⟩ := exists_takes_extend t rules
    -- what extending stops with is what it fails for
    have hrefusal : (t.extend rules).2 = some e := by
      unfold extend? at h
      split at h
      · cases h
      · next hextend =>
        obtain rfl := Except.error.inj h
        rw [hextend]
    rw [hrefusal] at hstops
    cases hstops with
    | refused hadd => exact ⟨taken, _, _, _, hsplit, htakes, hadd⟩
  · rintro ⟨taken, r, left, t₁, rfl, htakes, hadd⟩
    rw [extend?, extend_append htakes, extend, hadd]

/-- **A table takes rules that fit** behind its names, and has them behind its own. -/
theorem Indexed.extend?_eq_ok_iff_appended (h : t.Indexed) :
    t.extend? rules = .ok t' ↔ Fits t.names rules ∧ t' = t.appended rules := by
  rw [← h.exists_extend?_iff]
  constructor
  · intro hextend
    exact ⟨⟨t', hextend⟩, (extend?_eq_ok_iff_takes.1 hextend).eq_appended h⟩
  · rintro ⟨⟨t₁, hextend⟩, rfl⟩
    rw [hextend, (extend?_eq_ok_iff_takes.1 hextend).eq_appended h]

end Table

/-! ### Entries -/

namespace Entry

/-- **The rules of several entries**, part by part: each part is what its entry stands for. -/
def Parts (es : List Entry) (parts : List (List Rule)) : Prop :=
  List.Forall₂ (fun e part => e.rules = .ok part) es parts

/-- **What an entry fails for** behind the entries that made a table. -/
inductive Fails (t : Table) (e : Entry) : EntryError → Prop
  /-- The entry stands for no rules. -/
  | wrong {cause : EntryError} (hrules : e.rules = .error cause) : Fails t e cause
  /-- One of its rules is refused by the table that has those in front of it. -/
  | refused {taken left : List Rule} {r : Rule} {cause : TableError}
    (hrules : e.rules = .ok (taken ++ r :: left)) (htakes : Table.Takes t taken (t.appended taken))
    (hrefuses : (t.appended taken).Refuses r cause) : Fails t e (.table cause)

end Entry

namespace Table

variable {t t' : Table} {es : List Entry} {cause : EntryError}

/-- An entry cannot be added exactly for what it fails for. -/
theorem Indexed.addEntry_eq_error_iff (h : t.Indexed) {e : Entry} :
    t.addEntry e = .error cause ↔ e.Fails t cause := by
  rw [addEntry, bind_eq_error_iff]
  simp only [mapError_eq_error_iff, extend?_eq_error_iff]
  constructor
  · rintro (hrules | ⟨rules, hrules, refusal, ⟨taken, r, left, t₁, rfl, htakes, hadd⟩, rfl⟩)
    · exact .wrong hrules
    · -- the table that refuses the rule is the one with those in front of it
      have hindexed : t₁.Indexed := htakes.indexed h
      obtain rfl := htakes.eq_appended h
      exact .refused hrules htakes (hindexed.add_eq_error_iff.1 hadd)
  · rintro (hrules | ⟨hrules, htakes, hrefuses⟩)
    · exact Or.inl hrules
    · have hadd := (htakes.indexed h).add_eq_error_iff.2 hrefuses
      exact Or.inr ⟨_, hrules, _, ⟨_, _, _, _, rfl, htakes, hadd⟩, rfl⟩

/-- **Where adding entries fails**: at one of them, all in front of it having been added. -/
theorem addEntries_eq_error_iff :
    t.addEntries es = .error cause ↔ ∃ done e left t₁, es = done ++ e :: left ∧
      t.addEntries done = .ok t₁ ∧ t₁.addEntry e = .error cause := by
  constructor
  · intro h
    induction es generalizing t with
    | nil => cases h
    | cons e es ih =>
      rw [addEntries, bind_eq_error_iff] at h
      rcases h with hadd | ⟨t₁, hadd, h⟩
      · exact ⟨[], e, es, t, rfl, rfl, hadd⟩
      · -- a later entry is the one, and this one stands in front of it
        obtain ⟨done, e', left, t₂, rfl, hdone, hadd'⟩ := ih h
        refine ⟨e :: done, e', left, t₂, rfl, ?_, hadd'⟩
        rw [addEntries, hadd]
        exact hdone
  · rintro ⟨done, e, left, t₁, rfl, hdone, hadd⟩
    rw [addEntries_append, hdone]
    show t₁.addEntries (e :: left) = .error cause
    rw [addEntries, hadd]
    rfl

/-- **Entries are added exactly when** all of them stand for rules, and these fit behind the names
of the table, which then has them behind its own. -/
theorem Indexed.addEntries_eq_ok_iff (h : t.Indexed) :
    t.addEntries es = .ok t' ↔ ∃ parts, Entry.Parts es parts ∧
      Fits t.names parts.flatten ∧ t' = t.appended parts.flatten := by
  -- on the entries; each makes another table, which the next is added to
  induction es generalizing t with
  | nil =>
    constructor
    · rintro ⟨⟩
      exact ⟨[], .nil, trivial, (appended_nil _).symm⟩
    · rintro ⟨parts, hparts, -, rfl⟩
      cases hparts
      exact congrArg Except.ok (appended_nil t).symm
  | cons e es ih =>
    rw [addEntries, bind_eq_ok_iff]
    simp only [addEntry_eq_ok_iff]
    constructor
    · rintro ⟨t₁, ⟨part, hpart, hextend⟩, hrest⟩
      have hindexed : t₁.Indexed := h.extend? hextend
      obtain ⟨hfits, rfl⟩ := h.extend?_eq_ok_iff_appended.1 hextend
      obtain ⟨parts, hparts, hmore, rfl⟩ := (ih hindexed).1 hrest
      rw [names_appended] at hmore
      exact ⟨part :: parts, .cons hpart hparts, fits_append.2 ⟨hfits, hmore⟩,
        appended_appended t part parts.flatten⟩
    · rintro ⟨_, hall, hfits, rfl⟩
      cases hall with
      | @cons _ part _ parts hpart hparts =>
        obtain ⟨hfirst, hmore⟩ := fits_append.1 hfits
        have hextend := h.extend?_eq_ok_iff_appended.2 ⟨hfirst, rfl⟩
        refine ⟨t.appended part, ⟨part, hpart, hextend⟩,
          (ih (h.extend? hextend)).2 ⟨parts, hparts, ?_, ?_⟩⟩
        · rwa [names_appended]
        · exact (appended_appended t part parts.flatten).symm

/-- Entries are added to a table with its index in order, and leave one with its index in order. -/
theorem Indexed.addEntries (h : t.Indexed) (hadd : t.addEntries es = .ok t') : t'.Indexed := by
  induction es generalizing t with
  | nil =>
    obtain rfl := Except.ok.inj hadd
    exact h
  | cons e es ih =>
    rw [Table.addEntries, bind_eq_ok_iff] at hadd
    obtain ⟨t₁, hfirst, hrest⟩ := hadd
    obtain ⟨rules, -, hextend⟩ := addEntry_eq_ok_iff.1 hfirst
    exact ih (h.extend? hextend) hrest

theorem indexed_withFallback (fallback : Option Descriptor) :
    ({ fallback := fallback } : Table).Indexed where
  distinct := List.nodup_nil
  index_eq := rfl
  earlier := Indexed.empty.earlier

end Table

namespace Grammar

/-- **The table of a grammar is the sum of its entries.** It has a table exactly when every entry
stands for rules, the names of all these rules are distinct, and each depends on nothing but a rule
in front of it; the table then has these rules in their order, and the fallback descriptor of the
grammar. Otherwise there is an entry that fails behind the table of the entries in front of it,
because it stands for no rules or because one of its rules is refused, and this is what the grammar
fails for, whatever entries stand behind. -/
theorem table_sum (g : Grammar) :
    (∀ t, g.table = .ok t ↔ ∃ parts, Entry.Parts g.entries parts ∧
      (parts.flatten.map (·.name)).Nodup ∧
      (∀ before r after d, parts.flatten = before ++ r :: after → r.dependsOn = some d →
        d ∈ before.map (·.name)) ∧
      t = { rules := parts.flatten, fallback := g.fallback }) ∧
    (∀ cause, g.table = .error cause ↔
      ∃ done e left t, g.entries = done ++ e :: left ∧
        ({ g with entries := done } : Grammar).table = .ok t ∧ e.Fails t cause) ∧
    ∀ cause more, g.table = .error cause →
      ({ g with entries := g.entries ++ more } : Grammar).table = .error cause := by
  have start : ({ fallback := g.fallback } : Table).Indexed := Table.indexed_withFallback g.fallback
  refine ⟨fun t => ?_, fun cause => ?_, fun cause more h => ?_⟩
  · rw [table, start.addEntries_eq_ok_iff]
    refine exists_congr fun parts => and_congr_right fun _ => ?_
    -- no name is taken, and nothing can be depended on, before the first rule
    rw [Table.fits_iff]
    constructor
    · rintro ⟨⟨distinct, -, earlier⟩, rfl⟩
      refine ⟨distinct, fun before r after d hsplit hdep => ?_, rfl⟩
      exact (earlier before r after d hsplit hdep).resolve_left List.not_mem_nil
    · rintro ⟨distinct, earlier, rfl⟩
      refine ⟨⟨distinct, fun r _ => List.not_mem_nil, fun before r after d hsplit hdep => ?_⟩, rfl⟩
      exact Or.inr (earlier before r after d hsplit hdep)
  · rw [table, Table.addEntries_eq_error_iff]
    constructor
    · rintro ⟨done, e, left, t, hsplit, hdone, hadd⟩
      exact ⟨done, e, left, t, hsplit, hdone,
        (start.addEntries hdone).addEntry_eq_error_iff.1 hadd⟩
    · rintro ⟨done, e, left, t, hsplit, hdone, hfails⟩
      exact ⟨done, e, left, t, hsplit, hdone,
        (start.addEntries hdone).addEntry_eq_error_iff.2 hfails⟩
  · show ({ fallback := g.fallback } : Table).addEntries (g.entries ++ more) = .error cause
    have hfirst : ({ fallback := g.fallback } : Table).addEntries g.entries = .error cause := h
    rw [Table.addEntries_append, hfirst]
    rfl

end Grammar

end RuleLexer
