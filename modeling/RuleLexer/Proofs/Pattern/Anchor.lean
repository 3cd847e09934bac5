import RuleLexer.Proofs.Regex.Ending
import RuleLexer.Proofs.Regex.Leftmost
import RuleLexer.Proofs.Scan.Run

/-!
# Which patterns are held to a place

A match of a pattern is looked for at a place, and every expression of a pattern is put behind a
mark for the start of the text to hold it there. The expression is put there as text, and so the
mark may come to stand in one choice of a larger expression only: `a)|(?:b` is read, behind the mark
and in its group, as the choice between a held `a` and a `b` that may begin anywhere.

* `Pattern.Held` — every match of a pattern begins at the place where it was looked for;
* `Reads` — what an expression means in its group and behind its mark;
* `StandsAlone` — an expression can be read without the group and the mark;
* `Pattern.FirstLeads` — of the expressions of a pattern, the first one that occurs in a text at all
  occurs at the start of it.

The main statement, `Pattern.held_exactly`, says which patterns are held: exactly those whose
expressions lead in this sense, and so every pattern whose expressions stand alone. Over patterns
that are held, a run of a scan leaves out no character of the line (`Table.Run.line_eq`).
-/

namespace RuleLexer

open Text (byteLength after?)
open Regex (Expr Tree)

/-- **What an expression means** in its group and behind its mark. -/
def Reads (source : String) (e : Expr) : Prop :=
  (Tree.parse (anchored source.toList) >>= Tree.toExpr?) = .ok e

theorem Reads.unique {source : String} {e f : Expr} (he : Reads source e) (hf : Reads source f) :
    e = f :=
  Except.ok.inj (he.symm.trans hf)

theorem Text.byteLength_eq_zero_iff {cs : List Char} : byteLength cs = 0 ↔ cs = [] := by
  refine ⟨fun h => ?_, fun h => h ▸ byteLength_nil⟩
  by_contra ne
  exact Nat.ne_of_gt (byteLength_pos ne) h

/-- An expression that can be read without the group and the mark. -/
def StandsAlone (source : String) : Prop := (Tree.parse source.toList).isOk = true

instance (source : String) : Decidable (StandsAlone source) :=
  inferInstanceAs (Decidable ((Tree.parse source.toList).isOk = true))

/-! ### Expressions behind the mark -/

/-- What stands behind a mark for the start of the text matches there only. -/
theorem Regex.Tree.eq_zero_of_mark {tree : Tree} {e : Expr} {text : List Char} {i j : Nat}
    (he : (Tree.cat (.assertion .textStart) tree).toExpr? = .ok e) (le : i ≤ text.length)
    (h : e.Matches text i j) : i = 0 := by
  obtain ⟨whole, hwhole, he⟩ := bind_eq_ok_iff.1 he
  obtain rfl := Except.ok.inj he
  obtain ⟨mark, hmark, hwhole⟩ := bind_eq_ok_iff.1 hwhole
  obtain rfl := Except.ok.inj hmark
  obtain ⟨behind, -, hwhole⟩ := bind_eq_ok_iff.1 hwhole
  obtain rfl := Except.ok.inj hwhole
  have inner : (Expr.seq (.look .textStart :: behind.parts)).Matches text i j :=
    Expr.matchesAll_singleton.1 (Expr.matches_seq.1 h)
  obtain ⟨k, ⟨-, here⟩, -⟩ := Expr.matches_seq.1 inner
  exact Regex.Look.eq_zero_of_textStart here le

/-- **An expression that stands alone is held**: it is the whole inside of its group. -/
theorem StandsAlone.eq_zero {source : String} {e : Expr} {text : List Char} {i j : Nat}
    (alone : StandsAlone source) (reads : Reads source e) (le : i ≤ text.length)
    (h : e.Matches text i j) : i = 0 := by
  obtain ⟨tree', group, meaning⟩ := bind_eq_ok_iff.1 reads
  cases own : Tree.parse source.toList with
  | error cause =>
    rw [StandsAlone, own] at alone
    cases alone
  | ok tree =>
    rw [Tree.eq_of_parse_group own group] at meaning
    exact Tree.eq_zero_of_mark meaning le h

/-! ### One expression -/

/-- A match begins at the start of a text exactly if the place is the first one. -/
theorem Regex.take_start_eq_nil_iff {e : Expr} (numbered : e.Numbered) {rest : List Char}
    {found : Regex.Found} (h : Regex.find? ⟨e.program, e.groups⟩ rest = some found) :
    rest.take found.whole.start = [] ↔ found.whole.start = 0 := by
  obtain ⟨le, -, -⟩ := Regex.matches_of_find? numbered h
  rw [List.take_eq_nil_iff]
  refine ⟨?_, Or.inl⟩
  rintro (zero | rfl)
  · exact zero
  · exact Nat.le_zero.1 le

/-- What a compiled expression matches begins at the start of the text if the expression leads
there. -/
theorem Regex.skipped_eq_nil_iff_leads {e : Expr} (numbered : e.Numbered) {rest : List Char}
    {m : Match} (h : Regex.matchOn? ⟨e.program, e.groups⟩ rest = some m) :
    m.skipped = [] ↔ e.Leads rest := by
  obtain ⟨found, hfound, rfl⟩ := Option.map_eq_some_iff.1 h
  obtain ⟨-, matched, first⟩ := Regex.matches_of_find? numbered hfound
  show rest.take found.whole.start = [] ↔ e.Leads rest
  rw [take_start_eq_nil_iff numbered hfound]
  refine ⟨fun zero => ⟨found.whole.stop, zero ▸ matched⟩, fun ⟨j, lead⟩ => ?_⟩
  exact Nat.le_zero.1 (first 0 (Nat.zero_le _) j lead)

namespace Alternative

variable {a : Alternative} {e : Expr} {rest : List Char}

/-- An expression of a pattern is the program of what it means. -/
theorem exists_reads (a : Alternative) :
    ∃ e, Reads a.source e ∧ a.regex = ⟨e.program, e.groups⟩ :=
  Regex.exists_expr_of_compile a.compiled

theorem regex_eq (reads : Reads a.source e) : a.regex = ⟨e.program, e.groups⟩ := by
  obtain ⟨f, hf, eq⟩ := a.exists_reads
  rw [eq, hf.unique reads]

/-- An expression has no match in a text in which it does not occur. -/
theorem matchOn?_eq_none_iff (reads : Reads a.source e) :
    a.regex.matchOn? rest = none ↔ ¬ e.Occurs rest := by
  rw [regex_eq reads, Regex.matchOn?, Option.map_eq_none_iff]
  exact Regex.find?_eq_none_iff (Regex.numbered_of_reading reads)

/-- The match of an expression begins at the start of the text if it can. -/
theorem skipped_eq_nil_iff (reads : Reads a.source e) {m : Match}
    (h : a.regex.matchOn? rest = some m) : m.skipped = [] ↔ e.Leads rest := by
  rw [regex_eq reads] at h
  exact Regex.skipped_eq_nil_iff_leads (Regex.numbered_of_reading reads) h

end Alternative

/-! ### All expressions of a pattern -/

namespace Pattern

variable {p : Pattern}

/-- **A pattern is held to the place** at which a match is looked for: every match begins there. -/
def Held (p : Pattern) : Prop :=
  ∀ (text : List Char) (offset : Nat) (m : Match),
    p.matchAt? text offset = some m → m.startFrom offset = offset

/-- The first expression that occurs in a text occurs at the start of it. -/
def FirstLeads (sources : List String) : Prop :=
  ∀ (rest : List Char) (before : List String) (source : String) (after : List String) (e : Expr),
    sources = before ++ source :: after → Reads source e → e.Occurs rest →
      (∀ s ∈ before, ∀ f, Reads s f → ¬ f.Occurs rest) → e.Leads rest

theorem startFrom_eq_iff {m : Match} {offset : Nat} :
    m.startFrom offset = offset ↔ m.skipped = [] := by
  rw [Match.startFrom, Nat.add_eq_left, Text.byteLength_eq_zero_iff]

/-- It is enough to look at the start of every text. -/
theorem held_iff_skipped : p.Held ↔
    ∀ (rest : List Char) (m : Match), p.matchOn? rest = some m → m.skipped = [] := by
  refine ⟨fun held rest m hm => ?_, fun skipped text offset m hm => ?_⟩
  · have whole : after? rest 0 = some rest := Text.after?_append [] rest
    have here : p.matchAt? rest 0 = some m := by
      rw [matchAt?, whole]
      exact hm
    exact startFrom_eq_iff.1 (held rest 0 m here)
  · obtain ⟨rest, -, hm⟩ := Option.bind_eq_some_iff.1 hm
    exact startFrom_eq_iff.2 (skipped rest m hm)

/-- **Exactly which patterns are held**: those of whose expressions the first one that occurs in a
text always occurs at the start of it. -/
theorem held_iff_firstLeads : p.Held ↔ FirstLeads p.sources := by
  rw [held_iff_skipped]
  refine ⟨fun skipped rest before source after e hs reads occurs none => ?_,
    fun leads rest m hm => ?_⟩
  · -- the expression that occurs first gives the match
    obtain ⟨as, a', ha, rfl, hr⟩ := List.map_eq_append_iff.1 hs
    obtain ⟨a, bs, rfl, rfl, rfl⟩ := List.map_eq_cons_iff.1 hr
    -- the ones before it find nothing, and it finds something
    have nothing : ∀ b ∈ as, b.regex.matchOn? rest = Option.none := by
      intro b hb
      obtain ⟨f, hf, -⟩ := b.exists_reads
      exact (Alternative.matchOn?_eq_none_iff hf).2 (none _ (List.mem_map_of_mem hb) f hf)
    obtain ⟨m, hm⟩ : ∃ m, a.regex.matchOn? rest = some m := by
      refine Option.ne_none_iff_exists'.1 fun h => ?_
      exact (Alternative.matchOn?_eq_none_iff reads).1 h occurs
    have found : p.matchOn? rest = some m := by
      refine List.findSome?_eq_some_iff.2 ⟨as, a, bs, ha, hm, nothing⟩
    exact (Alternative.skipped_eq_nil_iff reads hm).1 (skipped rest m found)
  · -- the match is that of some expression, which is the first one that occurs
    obtain ⟨as, a, bs, ha, hm, nothing⟩ := List.findSome?_eq_some_iff.1 hm
    obtain ⟨e, reads, -⟩ := a.exists_reads
    refine (Alternative.skipped_eq_nil_iff reads hm).2 ?_
    refine leads rest (as.map (·.source)) a.source (bs.map (·.source)) e ?_ reads ?_ ?_
    · rw [sources, ha, List.map_append, List.map_cons]
    · by_contra no
      rw [(Alternative.matchOn?_eq_none_iff reads).2 no] at hm
      cases hm
    · intro s hs f hf
      obtain ⟨b, hb, rfl⟩ := List.mem_map.1 hs
      exact (Alternative.matchOn?_eq_none_iff hf).1 (nothing b hb)

theorem firstLeads_of_standsAlone {sources : List String} (alone : ∀ s ∈ sources, StandsAlone s) :
    FirstLeads sources := by
  intro rest before source after e hs reads occurs _
  obtain ⟨i, le, j, h⟩ := occurs
  have own : StandsAlone source := by
    refine alone source ?_
    rw [hs]
    exact List.mem_append_cons_self
  obtain rfl := own.eq_zero reads le h
  exact ⟨j, h⟩

/-- A pattern all of whose expressions stand alone is held. -/
theorem held_of_standsAlone (alone : ∀ s ∈ p.sources, StandsAlone s) : p.Held :=
  held_iff_firstLeads.2 (firstLeads_of_standsAlone alone)

/-! ### Patterns from their expressions -/

theorem source_of_ofSource {source : String} {a : Alternative}
    (h : Alternative.ofSource source = .ok a) : a.source = source := by
  unfold Alternative.ofSource at h
  split at h
  · obtain rfl := Except.ok.inj h
    rfl
  · cases h

theorem sources_of_compileAll {sources : List String} {as : List Alternative}
    (h : compileAll sources = .ok as) : as.map (·.source) = sources := by
  induction sources generalizing as with
  | nil =>
    obtain rfl := Except.ok.inj h
    rfl
  | cons source sources ih =>
    obtain ⟨a, ha, h⟩ := bind_eq_ok_iff.1 h
    obtain ⟨rest, hrest, h⟩ := bind_eq_ok_iff.1 h
    obtain rfl := Except.ok.inj h
    rw [List.map_cons, source_of_ofSource ha, ih hrest]

/-- A pattern has the expressions that it was made from. -/
theorem sources_of_ofSources {sources : List String} (h : ofSources sources = .ok p) :
    p.sources = sources := by
  unfold ofSources at h
  split at h
  · cases h
  · cases h
  · next first rest compiled =>
    obtain rfl := Except.ok.inj h
    exact sources_of_compileAll compiled

theorem ofSources_eq_ofValid {sources : List String} (valid : (ofSources sources).isOk = true) :
    ofSources sources = .ok (ofValid sources valid) := by
  unfold ofValid
  split
  next pattern _ h _ => exact h

end Pattern

/-! ### Runs over held patterns -/

/-- One match of a held pattern takes the beginning of what follows the place. -/
theorem Pattern.Held.after?_eq {p : Pattern} (held : p.Held) {line rest : List Char} {offset : Nat}
    {m : Match} (here : after? line offset = some rest) (hm : p.matchAt? line offset = some m) :
    ∃ tail, rest = m.text ++ tail ∧ after? line (m.stopFrom offset) = some tail := by
  have none : m.skipped = [] := startFrom_eq_iff.1 (held line offset m hm)
  rw [matchAt?, here] at hm
  obtain ⟨tail, rfl⟩ := append_of_matchOn? hm
  obtain ⟨start, rfl, rfl⟩ := Text.after?_eq_some_iff.1 here
  rw [none, List.nil_append]
  refine ⟨tail, rfl, ?_⟩
  rw [Match.stopFrom, Match.startFrom, none, Text.byteLength_nil, Nat.add_zero,
    ← Text.byteLength_append, ← List.append_assoc]
  exact Text.after?_append _ tail

namespace Table

variable {t : Table} {number : Nat} {line : List Char} {s s' : Spot}
  {trace : List (Rule × Match)} {tokens : List Token}

/-- **A run over held patterns passes over nothing**: it has the texts of its matches behind it. -/
theorem Run.after?_eq (held : ∀ r ∈ t.rules, r.pattern.Held)
    (run : t.Run number line s trace tokens s') {rest : List Char}
    (here : after? line s.offset = some rest) :
    ∃ tail, rest = trace.flatMap (·.2.text) ++ tail ∧ after? line s'.offset = some tail := by
  induction run generalizing rest with
  | stop s => exact ⟨rest, rfl, here⟩
  | move picks some leaves run ih =>
    obtain ⟨behind, rfl, next⟩ := (held _ picks.first.mem).after?_eq here picks.found
    obtain ⟨tail, rfl, there⟩ := ih next
    refine ⟨tail, ?_, there⟩
    rw [List.flatMap_cons, List.append_assoc]

/-- A line with a run over all of it is what the matches of the run put together. -/
theorem Run.line_eq (held : ∀ r ∈ t.rules, r.pattern.Held) {last : Option String}
    (run : t.Run number line .start trace tokens ⟨byteLength line, last⟩) :
    line = trace.flatMap (·.2.text) := by
  obtain ⟨tail, hline, there⟩ := run.after?_eq held (Text.after?_append [] line)
  have whole : after? line (byteLength line) = some [] := by
    have h := Text.after?_append line []
    rwa [List.append_nil] at h
  obtain rfl : tail = [] := Option.some.inj (there.symm.trans whole)
  rwa [List.append_nil] at hline

end Table

/-! ### Patterns that keep to their places -/

namespace Pattern

/-- **Which patterns are held**: exactly those of whose expressions the first one that occurs in a
text always occurs at the start of it, and so all of whose expressions each one stands alone. Where
all patterns are held, a line that is scanned is what its matches put together. -/
theorem held_exactly {sources : List String} {p : Pattern} (accepted : ofSources sources = .ok p) :
    (p.Held ↔ FirstLeads sources) ∧ ((∀ s ∈ sources, StandsAlone s) → p.Held) ∧
    ∀ t : Table, (∀ r ∈ t.rules, r.pattern.Held) → ∀ number line trace tokens last,
      t.Run number line .start trace tokens ⟨byteLength line, last⟩ →
        line = trace.flatMap (·.2.text) := by
  have held : p.Held ↔ FirstLeads sources := by
    rw [held_iff_firstLeads, sources_of_ofSources accepted]
  exact ⟨held, fun alone => held.2 (firstLeads_of_standsAlone alone),
    fun _ all _ _ _ _ _ run => run.line_eq all⟩

/-- A rule for two letters and for both parentheses. -/
def letters : Table where
  rules := [{ name := "LETTER", pattern := .ofValid ["a|b", "[)(]"] (by decide +kernel) }]

/-- The rule for letters and parentheses is held, and its matches take all of the line `b)`. -/
theorem held_exactly_letters : ∃ p, ofSources ["a|b", "[)(]"] = .ok p ∧
    (∀ s ∈ ["a|b", "[)(]"], StandsAlone s) ∧ p.Held ∧ (∀ r ∈ letters.rules, r.pattern = p) ∧
    ∃ trace tokens last, letters.Run 0 ['b', ')'] .start trace tokens ⟨2, last⟩ ∧
      trace.length = 2 ∧ ['b', ')'] = trace.flatMap (·.2.text) := by
  have valid : (ofSources ["a|b", "[)(]"]).isOk = true := by decide +kernel
  have accepted := ofSources_eq_ofValid valid
  have alone : ∀ s ∈ ["a|b", "[)(]"], StandsAlone s := by decide +kernel
  obtain ⟨-, stands, covers⟩ := held_exactly accepted
  have same : ∀ r ∈ letters.rules, r.pattern = ofValid ["a|b", "[)(]"] valid := by
    intro r hr
    obtain rfl := List.mem_singleton.1 hr
    rfl
  have hat0 := Cursor.at_ofLine ['b', ')']
  have letter : letters.Picks ['b', ')'] .start _ _ := (Table.firstMatch?_eq_some_iff hat0).1 rfl
  have hat1 := letter.at_past hat0 (some "LETTER")
  have close : letters.Picks ['b', ')'] ⟨1, some "LETTER"⟩ _ _ :=
    (Table.firstMatch?_eq_some_iff hat1).1 rfl
  have run : letters.Run 0 ['b', ')'] .start _ _ ⟨2, some "LETTER"⟩ :=
    .move letter (by decide) (.keep rfl rfl fun _ hf => absurd hf (by simp))
      (.move close (by decide) (.keep rfl rfl fun _ hf => absurd hf (by simp)) (.stop _))
  refine ⟨_, accepted, alone, stands alone, same, _, _, _, run, rfl, ?_⟩
  exact covers letters (fun r hr => same r hr ▸ stands alone) 0 _ _ _ _ run

/-- A group that ends early: the mark is one for `a` only, and the match of `b` begins behind the
`x`. -/
theorem not_held_of_splitGroup : ∃ p, ofSources ["a)|(?:b"] = .ok p ∧ ¬ p.Held := by
  have found : (ofValid ["a)|(?:b"] (by decide +kernel)).matchAt? ['x', 'b'] 0 =
      some ⟨['x'], ['b'], []⟩ := by decide +kernel
  refine ⟨_, ofSources_eq_ofValid (by decide +kernel), fun held => ?_⟩
  have start : Match.startFrom ⟨['x'], ['b'], []⟩ 0 = 0 := held _ _ _ found
  exact absurd start (by decide)

end Pattern

end RuleLexer
