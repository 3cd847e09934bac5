import Mathlib.Data.Set.List
import RuleLexer.Proofs.Command.Stages
import RuleLexer.Proofs.Grammar.Sum

/-!
# Ready-made sets compose freely

Ready-made sets are added to a table by their names, in any order. Three facts about the sets decide
what comes of it, and each is checked once over all of them:

* no rule name occurs in two sets (`Premade.eq_of_shared`);
* the rules of a set fit behind nothing, so that they depend on each other only
  (`Premade.fits_alone`);
* a set is found by its name and by no other (`Premade.ofName?_eq_some_iff`).

Hence sets fit behind names that are none of theirs exactly when no set occurs twice
(`Premade.fits_flatMap_iff`), and adding them succeeds exactly when all names are known and distinct
(`Command.exists_addPremades_iff`). A set that comes up again is refused at its first rule, before
anything of it is added (`Table.Indexed.extend_eq_refused`).

Main statement: `Command.premades_compose`.
-/

namespace RuleLexer

/-! ### Rules that fit on their own -/

namespace Table

variable {t : Table} {r : Rule} {rules : List Rule} {known : List String}

instance decidableFits : (known : List String) → (rules : List Rule) → Decidable (Fits known rules)
  | _, [] => .isTrue trivial
  | known, r :: rules =>
    have := decidableFits (known ++ [r.name]) rules
    inferInstanceAs (Decidable (r.name ∉ known ∧ (∀ d ∈ r.dependsOn, d ∈ known) ∧
      Fits (known ++ [r.name]) rules))

/-- **Rules that fit behind nothing** fit behind all names that are none of theirs. -/
theorem Fits.iff_of_alone (alone : Fits [] rules) :
    Fits known rules ↔ ∀ r ∈ rules, r.name ∉ known := by
  obtain ⟨distinct, -, earlier⟩ := fits_iff.1 alone
  constructor
  · intro h
    exact (fits_iff.1 h).2.1
  · intro free
    refine fits_iff.2 ⟨distinct, free, fun before r after d hsplit hdep => Or.inr ?_⟩
    exact (earlier before r after d hsplit hdep).resolve_left List.not_mem_nil

/-- **Rules whose first name is taken** are refused at once, and the table stays as it was. -/
theorem Indexed.extend_eq_refused (h : t.Indexed) (htaken : r.name ∈ t.names) :
    t.extend (r :: rules) = (t, some (.duplicateName r.name)) := by
  rw [Table.extend, h.add_eq_error_iff.2 (.duplicate htaken)]

end Table

/-! ### The sets -/

namespace Premade

open Table (Fits)

/-- The names of the rules of a set. -/
def ruleNames (set : Premade) : List String := set.rules.map (·.name)

theorem mem_all (set : Premade) : set ∈ all := by cases set <;> decide

/-- A set has a rule. -/
theorem exists_first (set : Premade) : ∃ first more, set.rules = first :: more := by
  cases set <;> exact ⟨_, _, rfl⟩

/-- **A set is found by its name**, and by no other. -/
theorem ofName?_eq_some_iff {set : Premade} {name : String} :
    ofName? name = some set ↔ set.name = name := by
  constructor
  · intro h
    rw [ofName?] at h
    have hname := List.find?_some h
    exact of_decide_eq_true hname
  · rintro rfl
    cases set <;> decide

theorem name_injective : Function.Injective name := by
  intro set set' h
  exact Option.some.inj ((ofName?_eq_some_iff.2 rfl).symm.trans (ofName?_eq_some_iff.2 h.symm))

theorem mem_names_iff {name : String} : name ∈ names ↔ ∃ set : Premade, set.name = name := by
  rw [names, List.mem_map]
  exact exists_congr fun set => and_iff_right (mem_all set)

/-- The names of sets are those of some sets, one by one. -/
theorem exists_map_name_iff {ps : List String} :
    (∃ sets : List Premade, sets.map name = ps) ↔ ∀ p ∈ ps, p ∈ names := by
  simp only [mem_names_iff]
  exact Set.ext_iff.1 (Set.range_list_map name) ps

/-- **No rule name occurs in two sets.** -/
theorem eq_of_shared {set set' : Premade} {name : String} (h : name ∈ set.ruleNames)
    (h' : name ∈ set'.ruleNames) : set = set' := by
  have apart : ∀ set ∈ all, ∀ set' ∈ all, ∀ name ∈ set.ruleNames, name ∈ set'.ruleNames →
      set = set' := by
    decide +kernel
  exact apart set (mem_all set) set' (mem_all set') name h h'

/-- **The rules of a set depend on each other only**, and on earlier ones. -/
theorem fits_alone (set : Premade) : Fits [] set.rules := by
  have alone : ∀ set ∈ all, Fits [] set.rules := by decide +kernel
  exact alone set (mem_all set)

/-- **Sets fit behind names that are none of theirs** exactly when none of them occurs twice. -/
theorem fits_flatMap_iff {known : List String} (sets : List Premade)
    (free : ∀ set ∈ sets, ∀ name ∈ set.ruleNames, name ∉ known) :
    Fits known (sets.flatMap rules) ↔ sets.Nodup := by
  -- on the sets; the names of the first one go over to those in front of the others
  induction sets generalizing known with
  | nil => exact iff_of_true trivial List.nodup_nil
  | cons set sets ih =>
    have hfirst : Fits known set.rules := by
      refine set.fits_alone.iff_of_alone.2 fun r hr => ?_
      exact free set List.mem_cons_self r.name (List.mem_map_of_mem hr)
    -- no other set has a name of the first one, so the others find their names free behind it
    have hfree : set ∉ sets → ∀ set' ∈ sets, ∀ name ∈ set'.ruleNames,
        name ∉ known ++ set.ruleNames := by
      intro hnew set' hset' name hname hknown
      rcases List.mem_append.1 hknown with hknown | hmem
      · exact free set' (List.mem_cons_of_mem set hset') name hname hknown
      · exact hnew (eq_of_shared hmem hname ▸ hset')
    rw [List.flatMap_cons, Table.fits_append, and_iff_right hfirst, List.nodup_cons]
    constructor
    · intro hrest
      have hnew : set ∉ sets := by
        intro hmem
        -- its first rule would have to go by a name that it has itself taken
        obtain ⟨first, more, hrules⟩ := set.exists_first
        have hin : first ∈ set.rules := by
          rw [hrules]
          exact List.mem_cons_self
        have hnone := (Table.fits_iff.1 hrest).2.1 first (List.mem_flatMap.2 ⟨set, hmem, hin⟩)
        exact hnone (List.mem_append_right known (List.mem_map_of_mem hin))
      exact ⟨hnew, (ih (hfree hnew)).1 hrest⟩
    · rintro ⟨hnew, hdistinct⟩
      exact (ih (hfree hnew)).2 hdistinct

/-- **What the entries of sets stand for** are the rules of the sets, one part each. -/
theorem parts_iff {ps : List String} {parts : List (List Rule)} :
    Entry.Parts (ps.map .ofPremade) parts ↔
      ∃ sets : List Premade, sets.map name = ps ∧ sets.map rules = parts := by
  rw [Entry.Parts, List.forall₂_map_left_iff]
  simp only [Entry.rules_ofPremade, Entry.premadeRules_eq_ok_iff, ofName?_eq_some_iff]
  induction ps generalizing parts with
  | nil =>
    rw [List.forall₂_nil_left_iff]
    constructor
    · rintro rfl
      exact ⟨[], rfl, rfl⟩
    · rintro ⟨sets, hnames, rfl⟩
      rw [List.map_eq_nil_iff.1 hnames, List.map_nil]
  | cons p ps ih =>
    rw [List.forall₂_cons_left_iff]
    simp only [ih]
    constructor
    · rintro ⟨-, -, ⟨set, hname, rfl⟩, ⟨sets, hnames, rfl⟩, rfl⟩
      exact ⟨set :: sets, by rw [List.map_cons, hname, hnames], rfl⟩
    · rintro ⟨sets, hnames, rfl⟩
      obtain ⟨set, sets', rfl, hname, hnames⟩ := List.map_eq_cons_iff.1 hnames
      exact ⟨set.rules, sets'.map rules, ⟨set, hname, rfl⟩, ⟨sets', hnames, rfl⟩, rfl⟩

end Premade

/-! ### Adding sets -/

namespace Command

open Premade (ruleNames)

variable {t t' : Table} {ps done rest : List String} {p : String}

/-- **Sets are added** to a table that has none of their rule names exactly when no set occurs
twice, and their rules then stand behind those of the table. -/
theorem addPremades_eq_ok_iff_sets (h : t.Indexed)
    (free : ∀ set : Premade, ∀ name ∈ set.ruleNames, name ∉ t.names) :
    addPremades t ps = .ok t' ↔ ∃ sets : List Premade, sets.map Premade.name = ps ∧
      sets.Nodup ∧ t' = t.appended (sets.flatMap Premade.rules) := by
  rw [addPremades_eq_ok_iff, h.addEntries_eq_ok_iff]
  simp only [Premade.parts_iff]
  constructor
  · rintro ⟨-, ⟨sets, hnames, rfl⟩, hfits, rfl⟩
    rw [← List.flatMap_def] at hfits ⊢
    exact ⟨sets, hnames, (Premade.fits_flatMap_iff sets fun set _ => free set).1 hfits, rfl⟩
  · rintro ⟨sets, hnames, hdistinct, rfl⟩
    refine ⟨sets.map Premade.rules, ⟨sets, hnames, rfl⟩, ?_, ?_⟩
    · rw [← List.flatMap_def]
      exact (Premade.fits_flatMap_iff sets fun set _ => free set).2 hdistinct
    · rw [← List.flatMap_def]

/-- **Adding sets succeeds** exactly when their names are all known, and distinct. -/
theorem exists_addPremades_iff (h : t.Indexed)
    (free : ∀ set : Premade, ∀ name ∈ set.ruleNames, name ∉ t.names) :
    (∃ t', addPremades t ps = .ok t') ↔ (∀ p ∈ ps, p ∈ Premade.names) ∧ ps.Nodup := by
  simp only [addPremades_eq_ok_iff_sets h free]
  rw [← Premade.exists_map_name_iff]
  constructor
  · rintro ⟨-, sets, hnames, hdistinct, -⟩
    exact ⟨⟨sets, hnames⟩, hnames ▸ hdistinct.map Premade.name_injective⟩
  · rintro ⟨⟨sets, rfl⟩, hdistinct⟩
    exact ⟨_, sets, rfl, hdistinct.of_map, rfl⟩

/-- What comes behind sets that are added does not matter if the next one is refused. -/
theorem addPremades_eq_error {failure : Failure} (hdone : addPremades t done = .ok t')
    (hrefused : addPremade t' p = .error failure) :
    addPremades t (done ++ p :: rest) = .error failure :=
  addPremades_eq_error_iff.2 ⟨done, p, rest, t', rfl, addPremades_eq_ok_iff.1 hdone, hrefused⟩

/-- **A set that comes up again** is refused at its first rule, and the table stays as it was. -/
theorem extend_of_added (h : t.Indexed)
    (free : ∀ set : Premade, ∀ name ∈ set.ruleNames, name ∉ t.names)
    (hdone : addPremades t done = .ok t') {set : Premade} (hmem : set.name ∈ done) {first : Rule}
    {more : List Rule} (hrules : set.rules = first :: more) :
    t'.extend set.rules = (t', some (.duplicateName first.name)) := by
  have hindexed : t'.Indexed := h.addEntries (addPremades_eq_ok_iff.1 hdone)
  obtain ⟨sets, rfl, -, rfl⟩ := (addPremades_eq_ok_iff_sets h free).1 hdone
  -- the rule has come into the table with the set, when that came up before
  have hset : set ∈ sets := (List.mem_map_of_injective Premade.name_injective).1 hmem
  have hfirst : first ∈ sets.flatMap Premade.rules := by
    refine List.mem_flatMap.2 ⟨set, hset, ?_⟩
    rw [hrules]
    exact List.mem_cons_self
  have htaken : first.name ∈ (t.appended (sets.flatMap Premade.rules)).names := by
    rw [Table.names_appended]
    exact List.mem_append_right t.names (List.mem_map_of_mem hfirst)
  rw [hrules]
  exact hindexed.extend_eq_refused htaken

/-- **Ready-made sets compose freely**, on top of any table that changes built and that has none of
their rule names. Adding sets by their names, one after the other, succeeds exactly when every name
is that of a set and none occurs twice; the rules of the sets then stand behind those of the table,
in the order of the names. What a rule of a set depends on is a rule in front of it in the set. A
name that comes up again, all names in front of it being known and distinct, fails for the first
rule of its set, whose name is taken, and the table is left as it was in front of that name; a name
that is none of a set fails for being unknown. -/
theorem premades_compose (changes : List Table.Change)
    (free : ∀ set : Premade, ∀ r ∈ set.rules, (Table.built changes).contains r.name = false)
    (ps : List String) :
    ((∃ t', addPremades (Table.built changes) ps = .ok t') ↔
      (∀ p ∈ ps, p ∈ Premade.names) ∧ ps.Nodup) ∧
    (∀ t', addPremades (Table.built changes) ps = .ok t' ↔
      ∃ sets : List Premade, sets.map Premade.name = ps ∧ sets.Nodup ∧
        t' = (Table.built changes).appended (sets.flatMap Premade.rules)) ∧
    (∀ (set : Premade) (before : List Rule) (r : Rule) (after : List Rule) (d : String),
      set.rules = before ++ r :: after → r.dependsOn = some d → d ∈ before.map (·.name)) ∧
    (∀ done p rest, ps = done ++ p :: rest → (∀ q ∈ done, q ∈ Premade.names) → done.Nodup →
      p ∈ done →
      ∃ set first more t', Premade.ofName? p = some set ∧ set.rules = first :: more ∧
        addPremades (Table.built changes) done = .ok t' ∧
        t'.extend set.rules = (t', some (.duplicateName first.name)) ∧
        addPremades (Table.built changes) ps =
          .error (.table (.table (.duplicateName first.name)))) ∧
    ∀ done p rest, ps = done ++ p :: rest → (∀ q ∈ done, q ∈ Premade.names) → done.Nodup →
      p ∉ Premade.names →
      addPremades (Table.built changes) ps = .error (.unknownPremade p) := by
  have h : (Table.built changes).Indexed := Table.indexed_built changes
  have hfree : ∀ set : Premade, ∀ name ∈ set.ruleNames, name ∉ (Table.built changes).names := by
    intro set name hname
    obtain ⟨r, hr, rfl⟩ := List.mem_map.1 hname
    rw [← h.contains_iff, free set r hr]
    exact Bool.false_ne_true
  refine ⟨exists_addPremades_iff h hfree, fun t' => addPremades_eq_ok_iff_sets h hfree, ?_, ?_, ?_⟩
  · intro set before r after d hsplit hdep
    obtain ⟨-, -, earlier⟩ := Table.fits_iff.1 set.fits_alone
    exact (earlier before r after d hsplit hdep).resolve_left List.not_mem_nil
  · rintro done p rest rfl hknown hdistinct hmem
    obtain ⟨t', hdone⟩ := (exists_addPremades_iff h hfree).2 ⟨hknown, hdistinct⟩
    obtain ⟨set, rfl⟩ := Premade.mem_names_iff.1 (hknown p hmem)
    obtain ⟨first, more, hrules⟩ := set.exists_first
    have hextend := extend_of_added h hfree hdone hmem hrules
    have hrefused : t'.extend? set.rules = .error (.duplicateName first.name) := by
      rw [Table.extend?, hextend]
    have hset : Premade.ofName? set.name = some set := Premade.ofName?_eq_some_iff.2 rfl
    exact ⟨set, first, more, t', hset, hrules, hdone, hextend, addPremades_eq_error hdone
      (addPremade_eq_error_iff.2 (Or.inr ⟨set, _, hset, hrefused, rfl⟩))⟩
  · rintro done p rest rfl hknown hdistinct hunknown
    obtain ⟨t', hdone⟩ := (exists_addPremades_iff h hfree).2 ⟨hknown, hdistinct⟩
    have hnone : Premade.ofName? p = none := by
      rw [Option.eq_none_iff_forall_ne_some]
      intro set hset
      exact hunknown (Premade.mem_names_iff.2 ⟨set, Premade.ofName?_eq_some_iff.1 hset⟩)
    exact addPremades_eq_error hdone (addPremade_eq_error_iff.2 (Or.inl ⟨hnone, rfl⟩))

/-- A rule that goes by a name of its own. -/
def keywordRule : Rule where
  name := "KEYWORD"
  pattern := Premade.single "if|else" (by decide +kernel)

/-- Sets are added behind a keyword, declarations in front of what they are made of; a set that
comes up again is refused, whatever stands in between. -/
theorem premades_compose_keyword :
    (∀ set : Premade, ∀ r ∈ set.rules,
      (Table.built [.add keywordRule]).contains r.name = false) ∧
    (∃ t, addPremades (Table.built [.add keywordRule]) ["var_declaration", "int"] = .ok t ∧
      t.names = ["KEYWORD", "VAR_DECLARATION", "VAR_NAME", "EQ_OPERATOR", "EXPRESSION", "INT"]) ∧
    addPremades (Table.built [.add keywordRule]) ["int", "whitespace", "int", "words"] =
      .error (.table (.table (.duplicateName "INT"))) ∧
    addPremades (Table.built [.add keywordRule]) ["int", "words", "int"] =
      .error (.unknownPremade "words") := by
  have free : ∀ set : Premade, ∀ r ∈ set.rules,
      (Table.built [.add keywordRule]).contains r.name = false := by
    have hall : ∀ set ∈ Premade.all, ∀ r ∈ set.rules,
        (Table.built [.add keywordRule]).contains r.name = false := by decide +kernel
    exact fun set => hall set (Premade.mem_all set)
  refine ⟨free, ?_, ?_, ?_⟩
  · obtain ⟨succeeds, appends, -⟩ := premades_compose _ free ["var_declaration", "int"]
    obtain ⟨t, hadd⟩ := succeeds.2 (by decide)
    obtain ⟨sets, hnames, -, rfl⟩ := (appends t).1 hadd
    obtain rfl : sets = [.varDeclaration, .int] := Premade.name_injective.list_map hnames
    exact ⟨_, hadd, by decide +kernel⟩
  · obtain ⟨-, -, -, again, -⟩ := premades_compose _ free ["int", "whitespace", "int", "words"]
    obtain ⟨set, first, more, t, hset, hrules, -, -, hrefused⟩ :=
      again ["int", "whitespace"] "int" ["words"] rfl (by decide) (by decide) (by decide)
    obtain rfl : Premade.int = set := by
      exact Option.some.inj ((Premade.ofName?_eq_some_iff.2 rfl).symm.trans hset)
    obtain ⟨rfl, -⟩ := List.cons.inj hrules
    exact hrefused
  · obtain ⟨-, -, -, -, unknown⟩ := premades_compose _ free ["int", "words", "int"]
    exact unknown ["int"] "words" ["int"] rfl (by decide) (by decide) (by decide)

end Command

end RuleLexer
