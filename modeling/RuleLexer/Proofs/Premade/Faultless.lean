import RuleLexer.Proofs.Command.Stages
import RuleLexer.Proofs.Pattern.Anchor
import RuleLexer.Proofs.Regex.Captures
import RuleLexer.Proofs.Scan.Position
import RuleLexer.Proofs.Table.Extend

/-!
# Ready-made rules are never at fault

A scan fails because no rule matches, or because of the rule that does: its match is empty, the group
that it selects took no part in the match, or its callback refuses the token.

* `Match.Serves` — a match that a token can be made from;
* `Rule.Faultless` — every match of every expression of a rule serves, and no callback is asked;
* `Solid` — an expression of which this can be told without any text: the shortest text that it
  matches has a character, and no match goes round the group.

Over faultless rules a scan fails for want of a match only (`Table.scan_of_faultless`). An expression
that is solid has no other matches than those that serve (`Alternative.serves_of_solid`), and all
ready-made expressions are solid, so that the ready-made rules are faultless (`Premade.faultless`).
Main statement: `Command.premades_never_at_fault`.
-/

namespace RuleLexer

open Regex (Expr Tree)

/-! ### Rules that are never at fault -/

/-- **A match that a token can be made from**, its value being what a group captured. -/
structure Match.Serves (m : Match) (group : Nat) : Prop where
  /-- The match has a character. -/
  nonempty : m.text ≠ []
  /-- The group took part in it. -/
  selected : ∃ value, m.group? group = some value

/-- **A rule that is never at fault.** -/
structure Rule.Faultless (r : Rule) : Prop where
  /-- No callback is asked. -/
  uncalled : r.onMatch = none
  /-- Every match of every expression serves. -/
  serves : ∀ a ∈ r.pattern.alternatives, ∀ rest m, a.regex.matchOn? rest = some m →
    m.Serves (r.capture.getD 0)

/-- The matches of a faultless rule serve, wherever they are looked for. -/
theorem Rule.Faultless.serves_at {r : Rule} (faultless : r.Faultless) {line : List Char}
    {offset : Nat} {m : Match} (h : r.pattern.matchAt? line offset = some m) :
    m.Serves (r.capture.getD 0) := by
  obtain ⟨rest, -, h⟩ := Option.bind_eq_some_iff.1 h
  obtain ⟨a, ha, h⟩ := List.exists_of_findSome?_eq_some h
  exact faultless.serves a ha rest m h

namespace Table

variable {t : Table} {options : ScanOptions}

/-- A fault that faultless rules leave possible is one for want of a match. -/
theorem Blames.unmatched_of_faultless {number column : Nat} {line : List Char} {s : Spot}
    {fault : Fault} (faultless : ∀ r ∈ t.rules, r.Faultless)
    (h : t.Blames options number line column s fault) : ∃ place, fault.unmatched? = some place := by
  -- a match that the fault is about is one of a rule of the table
  have serves {r : Rule} {m : Match} (picks : t.Picks line s r m) : m.Serves (r.capture.getD 0) :=
    (faultless r picks.first.mem).serves_at picks.found
  cases h with
  | unexpected => exact ⟨_, rfl⟩
  | described => exact ⟨_, rfl⟩
  | zeroWidth picks empty => exact absurd empty (serves picks).nonempty
  | captureMissing picks _ _ absent =>
    obtain ⟨value, selected⟩ := (serves picks).selected
    rw [absent] at selected
    cases selected
  | @refused r m value f message picks _ _ _ calls _ =>
    have uncalled := (faultless r picks.first.mem).uncalled
    rw [calls] at uncalled
    cases uncalled

/-- **Over faultless rules a scan fails for want of a match only.** -/
theorem scan_of_faultless (faultless : ∀ r ∈ t.rules, r.Faultless) (options : ScanOptions)
    (text : String) : (∃ tokens, t.scan options text = .ok tokens) ∨
      ∃ fault place, t.scan options text = .error fault ∧ fault.unmatched? = some place := by
  cases hscan : t.scan options text with
  | ok tokens => exact Or.inl ⟨tokens, rfl⟩
  | error fault =>
    obtain ⟨number, line, trace, s, column, -, -, -, blames⟩ := scan_eq_error_iff.1 hscan
    obtain ⟨place, unmatched⟩ := blames.unmatched_of_faultless faultless
    exact Or.inr ⟨fault, place, rfl, unmatched⟩

end Table

/-! ### Expressions that are solid -/

/-- **A solid expression**, as it is read in its group and behind its mark: every match has a
character and passes through a group, the group 0 being the whole match. -/
def Solid (group : Nat) (source : List Char) : Prop :=
  ((Tree.parse (anchored source) >>= Tree.toExpr?).toOption.any fun e =>
    e.consumes && (group = 0 || e.enters group)) = true

instance (group : Nat) (source : List Char) : Decidable (Solid group source) :=
  inferInstanceAs (Decidable (_ = true))

theorem Reads.of_solid {group : Nat} {source : String} {e : Expr} (reads : Reads source e)
    (solid : Solid group source.toList) :
    e.consumes = true ∧ (group = 0 ∨ e.enters group = true) := by
  rw [Solid, reads] at solid
  obtain ⟨consumes, enters⟩ := Bool.and_eq_true_iff.1 solid
  rw [Bool.or_eq_true, decide_eq_true_iff] at enters
  exact ⟨consumes, enters⟩

/-- What is solid for some group is so for the whole match. -/
theorem Solid.whole {group : Nat} {source : String} (solid : Solid group source.toList) :
    Solid 0 source.toList := by
  obtain ⟨e, he, h⟩ := (Option.any_eq_true _ _).1 solid
  rw [Solid, he]
  exact Bool.and_eq_true_iff.2 ⟨(Bool.and_eq_true_iff.1 h).1, rfl⟩

/-- **A solid expression has no other matches than those that serve.** -/
theorem Alternative.serves_of_solid {a : Alternative} {group : Nat}
    (solid : Solid group a.source.toList) {rest : List Char} {m : Match}
    (h : a.regex.matchOn? rest = some m) : m.Serves group := by
  obtain ⟨e, reads, -⟩ := a.exists_reads
  obtain ⟨consumes, enters⟩ := reads.of_solid solid
  rw [regex_eq reads] at h
  obtain ⟨found, hfound, rfl⟩ := Option.map_eq_some_iff.1 h
  have numbered : e.Numbered := Regex.numbered_of_reading reads
  obtain ⟨le, matched, -⟩ := Regex.matches_of_find? numbered hfound
  refine ⟨?_, ?_⟩
  · -- the match ends behind its beginning, and within the text
    have lt : found.whole.start < found.whole.stop := matched.lt_of_consumes consumes
    have inside : found.whole.stop ≤ rest.length := matched.bounds.2 le
    apply List.ne_nil_of_length_pos
    show 0 < ((rest.drop found.whole.start).take (found.whole.stop - found.whole.start)).length
    rw [List.length_take, List.length_drop]
    omega
  · cases group with
    | zero => exact ⟨_, rfl⟩
    | succ k =>
      have enters : e.enters (k + 1) = true := enters.resolve_left (Nat.succ_ne_zero k)
      obtain ⟨span, hspan⟩ := Regex.exists_span_of_find? numbered enters hfound
      refine ⟨span.of rest, ?_⟩
      show ((found.groups.map (·.map (·.of rest)))[k]?).join = some (span.of rest)
      rw [List.getElem?_map, hspan]
      rfl

/-- A rule with solid expressions and without a callback is faultless. -/
theorem Rule.faultless_of_solid {name : String} {sources : List String}
    {valid : (Pattern.ofSources sources).isOk = true} {capture : Option Nat}
    {dependsOn : Option String} {descriptor : Option Descriptor} {skips : Bool}
    (solid : ∀ s ∈ sources, Solid (capture.getD 0) s.toList) :
    Rule.Faultless ⟨name, .ofValid sources valid, capture, dependsOn, none, descriptor, skips⟩ where
  uncalled := rfl
  serves a ha rest m h := by
    have written : (Pattern.ofValid sources valid).sources = sources :=
      Pattern.sources_of_ofSources (Pattern.ofSources_eq_ofValid valid)
    refine a.serves_of_solid (solid a.source ?_) h
    rw [← written]
    exact List.mem_map_of_mem ha

/-! ### The ready-made expressions are solid -/

namespace Premade

theorem solid_string : ∀ s ∈ stringSources, Solid 1 s.toList := by decide +kernel

theorem solid_sequence {opening closing : String}
    (h : (opening, closing) ∈ [("\\[", "\\]"), ("\\(", "\\)")]) :
    Solid 0 (sequenceSource opening closing).toList := by
  simp only [List.mem_cons, List.not_mem_nil, or_false, Prod.mk.injEq] at h
  rcases h with ⟨rfl, rfl⟩ | ⟨rfl, rfl⟩
  all_goals
    simp only [sequenceSource, literalSource, String.toList_append, toList_quotedSource,
      toList_numberSource]
    decide +kernel

theorem solid_dict : Solid 0 dictSource.toList := by
  simp only [dictSource, entrySource, literalSource, String.toList_append, toList_quotedSource,
    toList_numberSource]
  decide +kernel

/-- The expressions that are not put together from others. -/
theorem solid_plain : ∀ s ∈ [floatSource, intSource, boolSource, identifierSource, operatorSource,
    operatorArithmeticSource, commentSource, whitespaceSource, arithmeticSource, "var\\b", "="],
    Solid 0 s.toList := by
  decide +kernel

theorem solid_expression : ∀ s ∈ expressionSources, Solid 0 s.toList := by
  intro s hs
  simp only [expressionSources, List.mem_cons, List.mem_append, List.not_mem_nil, or_false] at hs
  rcases hs with (rfl | hs) | rfl | rfl | rfl | rfl | rfl | rfl
  · exact solid_plain _ (by simp)
  · exact (solid_string s hs).whole
  · exact solid_plain _ (by simp)
  · exact solid_plain _ (by simp)
  · exact solid_sequence (by simp)
  · exact solid_sequence (by simp)
  · exact solid_dict
  · exact solid_plain _ (by simp)

/-- A rule of one solid expression that selects no group. -/
theorem faultless_of_single {name source : String} {h : Pattern.Compiles source.toList}
    {dependsOn : Option String} {descriptor : Option Descriptor} {skips : Bool}
    (solid : Solid 0 source.toList) :
    Rule.Faultless ⟨name, single source h, none, dependsOn, none, descriptor, skips⟩ := by
  refine Rule.faultless_of_solid fun s hs => ?_
  obtain rfl := List.mem_singleton.1 hs
  exact solid

/-- **The ready-made rules are faultless.** -/
theorem faultless {set : Premade} : ∀ r ∈ set.rules, r.Faultless := by
  intro r hr
  cases set with
  | string =>
    obtain rfl := List.mem_singleton.1 hr
    exact Rule.faultless_of_solid solid_string
  | list | tuple =>
    obtain rfl := List.mem_singleton.1 hr
    exact faultless_of_single (solid_sequence (by simp))
  | dict =>
    obtain rfl := List.mem_singleton.1 hr
    exact faultless_of_single solid_dict
  | float | int | bool | identifier | operator | operatorArithmetic | comment | whitespace =>
    obtain rfl := List.mem_singleton.1 hr
    exact faultless_of_single (solid_plain _ (by simp))
  | varDeclaration =>
    simp only [rules, List.mem_cons, List.not_mem_nil, or_false] at hr
    rcases hr with rfl | rfl | rfl | rfl
    · exact faultless_of_single (solid_plain _ (by simp))
    · exact faultless_of_single (solid_plain _ (by simp))
    · exact faultless_of_single (solid_plain _ (by simp))
    · exact Rule.faultless_of_solid solid_expression

end Premade

/-! ### Tables of ready-made sets -/

namespace Command

/-- The rules of a table that ready-made sets were added to were there before, or are ready-made. -/
theorem mem_rules_of_addPremades {t t' : Table} {names : List String}
    (h : addPremades t names = .ok t') :
    ∀ r ∈ t'.rules, r ∈ t.rules ∨ ∃ set : Premade, r ∈ set.rules := by
  induction names generalizing t with
  | nil =>
    obtain rfl := Except.ok.inj h
    exact fun r hr => Or.inl hr
  | cons name names ih =>
    obtain ⟨t₁, hfirst, hrest⟩ := bind_eq_ok_iff.1 h
    obtain ⟨set, -, hextend⟩ := Table.addEntry_ofPremade_eq_ok_iff.1 (addPremade_eq_ok_iff.1 hfirst)
    have grown : t₁.rules = t.rules ++ set.rules :=
      Table.rules_of_extend (Table.extend?_eq_ok_iff.1 hextend)
    intro r hr
    rcases ih hrest r hr with hr | hr
    · rw [grown] at hr
      exact (List.mem_append.1 hr).imp_right fun hr => ⟨set, hr⟩
    · exact Or.inr hr

/-- **Ready-made rules are never at fault.** A table that ready-made sets alone were added to, of
whatever names and in whatever order, splits every text into tokens or fails for want of a match:
never because of an empty match, a group that took no part, or a callback. For every match of every
ready-made rule has a character, and the group that the rule selects took part in it, whichever of the
expressions matched. -/
theorem premades_never_at_fault :
    (∀ (names : List String) (t : Table), addPremades .empty names = .ok t →
      ∀ (options : ScanOptions) (text : String), (∃ tokens, t.scan options text = .ok tokens) ∨
        ∃ fault place, t.scan options text = .error fault ∧ fault.unmatched? = some place) ∧
    ∀ (set : Premade), ∀ r ∈ set.rules,
      (∀ (line : List Char) (offset : Nat) (m : Match), r.pattern.matchAt? line offset = some m →
        m.Serves (r.capture.getD 0)) ∧
      ∀ a ∈ r.pattern.alternatives, ∀ (rest : List Char) (m : Match),
        a.regex.matchOn? rest = some m → m.Serves (r.capture.getD 0) := by
  refine ⟨fun names t accepted options text => ?_, fun set r hr => ?_⟩
  · refine Table.scan_of_faultless (fun r hr => ?_) options text
    -- the table was empty before
    rcases mem_rules_of_addPremades accepted r hr with hr | ⟨set, hr⟩
    · exact absurd hr List.not_mem_nil
    · exact Premade.faultless r hr
  · have faultless := Premade.faultless r hr
    exact ⟨fun line offset m h => faultless.serves_at h, faultless.serves⟩

/-- The ready-made rules for blanks and for quoted strings. -/
def quoting : Table where
  rules := [Premade.whitespaceRule, Premade.stringRule]

/-- A quoted string that is not closed: the scan fails, and it does so for want of a match. -/
theorem premades_never_at_fault_quoting : addPremades .empty ["whitespace", "string"] = .ok quoting ∧
    ∃ fault place, quoting.scan {} "'a' 'b" = .error fault ∧ fault.unmatched? = some place := by
  have accepted : addPremades .empty ["whitespace", "string"] = .ok quoting := rfl
  refine ⟨accepted, ?_⟩
  rcases premades_never_at_fault.1 _ _ accepted {} "'a' 'b" with ⟨tokens, h⟩ | fails
  · have failed : (quoting.scan {} "'a' 'b").isOk = false := by decide +kernel
    rw [h] at failed
    cases failed
  · exact fails

end Command

end RuleLexer
