import RuleLexer.Proofs.Scan.Wording
import RuleLexer.Proofs.Table.Extend

/-!
# Rules that never match

A rule that skips never is the one that matched last. So a rule that depends on it is never tried,
and is never the one that matched last either; and so on along a chain of dependencies.

* `Table.Dead` — a rule depends, directly or through others, on a rule that skips;
* `Table.Mute` — a name is that of a rule that skips or is dead;
* `Table.live` — the rules that are left when the dead ones are taken out.

The invariant of a scan is that the rule that matched last is not mute. It is kept by every match
(`Indexed.not_mute_of_contributes`), since the rules that may be tried while it holds are not dead
(`Indexed.not_eligible_of_dead`). So no run comes across a dead rule (`Run.not_mute`), and without
the dead rules the scan finds the same matches (`Indexed.firstMatch?_live`). The dead rules still
have a say in how a failure is worded. The main statement is `Table.scan_without_dead`.
-/

namespace RuleLexer

namespace Table

variable {t t' : Table} {r : Rule} {d : String} {number : Nat} {line : List Char} {s s' : Spot}
  {trace : List (Rule × Match)} {tokens : List Token} {last last' : Option String}

/-! ### Dead rules -/

/-- **A rule is dead** if it depends, directly or through other rules, on a rule that skips. -/
def Dead (t : Table) (r : Rule) : Prop :=
  ∃ q ∈ t.rules, q.skips = true ∧ Relation.TransGen t.Depends r.name q.name

/-- A name is that of a rule after whose matches nothing is tried: it skips, or it is dead. -/
def Mute (t : Table) (name : String) : Prop :=
  ∃ q ∈ t.rules, q.name = name ∧ (q.skips = true ∨ t.Dead q)

/-- Whether a rule depends on one that has one of some names. -/
def hangsOn (names : List String) (r : Rule) : Bool := r.dependsOn.any names.contains

/-- Some names, and behind them those of the rules that skip or depend on one with such a name. -/
def muteNames : List String → List Rule → List String
  | names, [] => names
  | names, r :: rules =>
    muteNames (if r.skips || hangsOn names r then names ++ [r.name] else names) rules

/-- **The rules that are left when the dead ones are taken out.** -/
def live (t : Table) : List Rule := t.rules.filter fun r => !hangsOn (muteNames [] t.rules) r

theorem hangsOn_iff {names : List String} :
    hangsOn names r = true ↔ ∃ d, r.dependsOn = some d ∧ d ∈ names := by
  rw [hangsOn, Option.any_eq_true]
  simp only [List.contains_iff_mem]

namespace Indexed

/-- The rules of a table have distinct names. -/
theorem eq_of_name_eq (h : t.Indexed) {q : Rule} (hr : r ∈ t.rules) (hq : q ∈ t.rules)
    (same : r.name = q.name) : r = q :=
  List.inj_on_of_nodup_map h.distinct hr hq same

/-- **A rule is dead exactly when it depends on one that is mute.** -/
theorem dead_iff (h : t.Indexed) (mem : r ∈ t.rules) :
    t.Dead r ↔ ∃ d, r.dependsOn = some d ∧ t.Mute d := by
  constructor
  · rintro ⟨q, hq, hskips, hchain⟩
    obtain ⟨d, ⟨r', hr', hname, hdep⟩, hrest⟩ := Relation.TransGen.head'_iff.1 hchain
    obtain rfl := h.eq_of_name_eq hr' mem hname
    refine ⟨d, hdep, ?_⟩
    -- the chain ends at the rule that skips, or goes on from a rule that is dead then
    rcases Relation.reflTransGen_iff_eq_or_transGen.1 hrest with hend | hchain'
    · exact ⟨q, hq, hend, Or.inl hskips⟩
    · obtain ⟨d', ⟨p, hp, hpname, -⟩, -⟩ := Relation.TransGen.head'_iff.1 hchain'
      exact ⟨p, hp, hpname, Or.inr ⟨q, hq, hskips, by rwa [hpname]⟩⟩
  · rintro ⟨d, hdep, p, hp, rfl, hskips | ⟨q, hq, hskips, hchain⟩⟩
    · exact ⟨p, hp, hskips, .single ⟨r, mem, rfl, hdep⟩⟩
    · exact ⟨q, hq, hskips, .head ⟨r, mem, rfl, hdep⟩ hchain⟩

/-- **The mute names are found from the front**: each rule is judged by those before it. -/
theorem mem_muteNames_iff (h : t.Indexed) (done : List Rule) {rules : List Rule} {names : List String}
    (split : t.rules = done ++ rules)
    (before : ∀ d, d ∈ names ↔ ∃ q ∈ done, q.name = d ∧ (q.skips = true ∨ t.Dead q)) :
    d ∈ muteNames names rules ↔ t.Mute d := by
  -- on the rules that are left; each goes over to those that are judged
  induction rules generalizing done names with
  | nil =>
    rw [muteNames, before, Mute, split, List.append_nil]
  | cons r rules ih =>
    have hmem : r ∈ t.rules := by
      rw [split]
      exact List.mem_append_right done List.mem_cons_self
    have hdead : hangsOn names r = true ↔ t.Dead r := by
      rw [hangsOn_iff, h.dead_iff hmem]
      refine exists_congr fun d => and_congr_right fun hdep => ?_
      rw [before]
      -- what the rule depends on stands in front of it
      obtain ⟨p, hp, hpname⟩ := h.exists_earlier split hdep
      have hpmem : p ∈ t.rules := by
        rw [split]
        exact List.mem_append_left _ hp
      constructor
      · rintro ⟨q, hq, hname, hmute⟩
        exact ⟨q, by rw [split]; exact List.mem_append_left _ hq, hname, hmute⟩
      · rintro ⟨q, hq, hname, hmute⟩
        obtain rfl := h.eq_of_name_eq hpmem hq (hpname.trans hname.symm)
        exact ⟨p, hp, hname, hmute⟩
    rw [muteNames]
    refine ih (done ++ [r]) (by rw [split, List.append_assoc, List.singleton_append]) fun d => ?_
    by_cases hmute : (r.skips || hangsOn names r) = true
    · rw [if_pos hmute, List.mem_append, before]
      rw [Bool.or_eq_true, hdead] at hmute
      constructor
      · rintro (⟨q, hq, hq'⟩ | hd)
        · exact ⟨q, List.mem_append_left _ hq, hq'⟩
        · exact ⟨r, List.mem_append_right _ List.mem_cons_self, (List.mem_singleton.1 hd).symm,
            hmute⟩
      · rintro ⟨q, hq, hname, hq'⟩
        rcases List.mem_append.1 hq with hq | hq
        · exact Or.inl ⟨q, hq, hname, hq'⟩
        · obtain rfl := List.mem_singleton.1 hq
          exact Or.inr (List.mem_singleton.2 hname.symm)
    · rw [if_neg hmute, before]
      rw [Bool.or_eq_true, hdead] at hmute
      constructor
      · rintro ⟨q, hq, hq'⟩
        exact ⟨q, List.mem_append_left _ hq, hq'⟩
      · rintro ⟨q, hq, hname, hq'⟩
        rcases List.mem_append.1 hq with hq | hq
        · exact ⟨q, hq, hname, hq'⟩
        · obtain rfl := List.mem_singleton.1 hq
          exact absurd hq' hmute

/-- A rule of the table hangs on a mute name exactly when it is dead. -/
theorem hangsOn_muteNames_iff (h : t.Indexed) (mem : r ∈ t.rules) :
    hangsOn (muteNames [] t.rules) r = true ↔ t.Dead r := by
  have hnames : ∀ d, d ∈ muteNames [] t.rules ↔ t.Mute d := fun d =>
    h.mem_muteNames_iff [] rfl fun d => by simp
  simp only [hangsOn_iff, hnames, h.dead_iff mem]

/-- **The live rules are those that are not dead.** -/
theorem mem_live_iff (h : t.Indexed) : r ∈ t.live ↔ r ∈ t.rules ∧ ¬ t.Dead r := by
  rw [live, List.mem_filter]
  refine and_congr_right fun hmem => ?_
  rw [← h.hangsOn_muteNames_iff hmem, Bool.not_eq_true', Bool.not_eq_true]

/-- **The live rules fit behind nothing**: what a live rule depends on is live itself. -/
theorem fits_live (h : t.Indexed) : Fits [] t.live := by
  refine Fits.filter [] h.fits fun r hr hlive q hq hdep => ?_
  rw [Bool.not_eq_true', ← Bool.not_eq_true, h.hangsOn_muteNames_iff hr] at hlive
  rw [Bool.not_eq_true', ← Bool.not_eq_true, h.hangsOn_muteNames_iff hq]
  exact fun hdead => hlive ((h.dead_iff hr).2 ⟨q.name, hdep, q, hq, rfl, Or.inr hdead⟩)

/-! ### No rule that matched last is mute -/

/-- **A dead rule is not tried** as long as the rule that matched last is not mute. -/
theorem not_eligible_of_dead (h : t.Indexed) (mem : r ∈ t.rules) (dead : t.Dead r)
    (awake : ∀ d, last = some d → ¬ t.Mute d) : r.eligible last = false := by
  obtain ⟨d, hdep, hmute⟩ := (h.dead_iff mem).1 dead
  rw [Rule.eligible, hdep]
  exact decide_eq_false fun hlast => awake d hlast hmute

/-- **A match leaves no mute name behind** as that of the rule that matched last. -/
theorem not_mute_of_contributes (h : t.Indexed) (mem : r ∈ t.rules)
    (eligible : r.eligible last = true) (awake : ∀ d, last = some d → ¬ t.Mute d) {m : Match}
    {out : List Token} (leaves : r.Contributes number last m out last') :
    ∀ d, last' = some d → ¬ t.Mute d := by
  -- the rule that matched is not dead, for else it would not have been tried
  have hdead : ¬ t.Dead r := fun hdead => by
    rw [h.not_eligible_of_dead mem hdead awake] at eligible
    exact absurd eligible (by simp)
  have hname : r.skips = false → ∀ d, some r.name = some d → ¬ t.Mute d := by
    rintro hskips _ ⟨⟩ ⟨q, hq, hname, hmute⟩
    obtain rfl := h.eq_of_name_eq hq mem hname
    rcases hmute with hskips' | hdead'
    · exact absurd (hskips.symm.trans hskips') (by simp)
    · exact hdead hdead'
  cases leaves with
  | skip => exact awake
  | keep hskips => exact hname hskips
  | replace hskips => exact hname hskips
  | suppress hskips => exact hname hskips

end Indexed

/-- **No run comes across a dead rule**, and none ends with a mute name as that of the rule that
matched last. -/
theorem Run.not_mute (h : t.Indexed) (hrun : t.Run number line s trace tokens s')
    (awake : ∀ d, s.last = some d → ¬ t.Mute d) :
    (∀ p ∈ trace, ¬ t.Dead p.1) ∧ ∀ d, s'.last = some d → ¬ t.Mute d := by
  induction hrun with
  | stop s => exact ⟨fun p hp => absurd hp List.not_mem_nil, awake⟩
  | @move s s' r m out tokens last trace hpicks hsome hleaves _ ih =>
    obtain ⟨heligible, -⟩ := hpicks.first.1
    obtain ⟨hrest, hend⟩ :=
      ih (h.not_mute_of_contributes hpicks.first.mem heligible awake hleaves)
    refine ⟨fun p hp => ?_, hend⟩
    rcases List.mem_cons.1 hp with rfl | hp
    · intro hdead
      rw [h.not_eligible_of_dead hpicks.first.mem hdead awake] at heligible
      exact absurd heligible (by simp)
    · exact hrest p hp

/-! ### Scans without the dead rules -/

/-- A cursor stands at some spot of some line. -/
theorem exists_line_at (cur : Cursor) : ∃ line s, cur.At line s :=
  ⟨List.replicate cur.column ' ' ++ cur.rest,
    ⟨Text.byteLength (List.replicate cur.column ' '), cur.last⟩,
    ⟨⟨_, rfl, (List.length_replicate ..).symm, rfl⟩, rfl⟩⟩

/-- **Without the dead rules the same match is found**, as long as the rule that matched last is not
mute. -/
theorem Indexed.firstMatch?_live (h : t.Indexed) (rules : t'.rules = t.live) {cur : Cursor}
    (awake : ∀ d, cur.last = some d → ¬ t.Mute d) : t'.firstMatch? cur = t.firstMatch? cur := by
  have hfilter : t'.rules.filter (·.eligible cur.last) = t.rules.filter (·.eligible cur.last) := by
    rw [rules, live, List.filter_filter]
    refine List.filter_congr fun r hr => ?_
    -- the rules that may be tried are not dead
    by_cases heligible : r.eligible cur.last = true
    · have hlive : ¬ hangsOn (muteNames [] t.rules) r = true := fun hhangs => by
        rw [h.not_eligible_of_dead hr ((h.hangsOn_muteNames_iff hr).1 hhangs) awake] at heligible
        exact absurd heligible (by simp)
      rw [heligible, Bool.true_and, Bool.not_eq_true', ← Bool.not_eq_true]
      exact hlive
    · rw [Bool.not_eq_true] at heligible
      rw [heligible, Bool.false_and]
  rw [firstMatch?, firstMatch?, hfilter]

/-- **Without the dead rules a text is scanned alike.** -/
theorem Indexed.scan_live (h : t.Indexed) (rules : t'.rules = t.live) (options options' : ScanOptions)
    (text : String) :
    Alike Eq Fault.Rewords (t.scan options text) (t'.scan options' text) := by
  refine scan_alike_of_invariant (P := fun cur => ∀ d, cur.last = some d → ¬ t.Mute d)
    (fun line _ d hd => absurd hd (by simp [Cursor.ofLine])) ?_ ?_
  · intro number cur token next hawake hstep
    obtain ⟨line, s, hat⟩ := exists_line_at cur
    obtain ⟨r, m, last, hpicks, -, hleaves, rfl⟩ := (step_eq_ok_iff hat).1 hstep
    rw [hat.last] at hawake
    exact h.not_mute_of_contributes hpicks.first.mem hpicks.first.1.1 hawake hleaves
  · intro number cur hawake _
    exact alike_step_of_firstMatch? (h.firstMatch?_live rules hawake) (fun _ => .same)
      (.unmatched (unmatched?_noMatch t options number cur)
        (unmatched?_noMatch t' options' number cur))

/-- **Dead rules.** In a table that changes build, a rule that depends, directly or through others,
on a rule that skips takes part in no run on any line, and does not match where a run has led. The
rules that are left without such rules, in their order, are taken by the empty table. And a table
that holds just these scans every text to the same tokens, or fails as the table does: with the
same fault where a rule matched, and for want of a match at the same line and column. -/
theorem scan_without_dead (changes : List Change) :
    ((built changes).live.Sublist (built changes).rules ∧
      ∀ r, r ∈ (built changes).live ↔ r ∈ (built changes).rules ∧ ¬ (built changes).Dead r) ∧
    (∀ number line trace tokens s, (built changes).Run number line .start trace tokens s →
      ∀ r ∈ (built changes).rules, (built changes).Dead r →
        (∀ p ∈ trace, p.1 ≠ r) ∧ ¬ Matches line s r) ∧
    (∃ t', empty.extend? (built changes).live = .ok t' ∧ t'.rules = (built changes).live) ∧
    ∀ t' : Table, t'.rules = (built changes).live → ∀ options options' text,
      Alike Eq Fault.Rewords ((built changes).scan options text) (t'.scan options' text) := by
  have h := indexed_built changes
  refine ⟨⟨List.filter_sublist, fun r => h.mem_live_iff⟩,
    fun number line trace tokens s hrun r hr hdead => ?_, ?_,
    fun t' hrules options options' text => h.scan_live hrules options options' text⟩
  · obtain ⟨htrace, hlast⟩ := hrun.not_mute h fun d hd => absurd hd (by simp [Spot.start])
    refine ⟨fun p hp hpr => htrace p hp (hpr ▸ hdead), fun ⟨heligible, _⟩ => ?_⟩
    rw [h.not_eligible_of_dead hr hdead hlast] at heligible
    exact absurd heligible (by simp)
  · obtain ⟨t', htakes⟩ := Indexed.empty.exists_extend?_iff.2 h.fits_live
    exact ⟨t', htakes, rules_of_extend (extend?_eq_ok_iff.1 htakes)⟩

/-- Blanks that are skipped, a letter that depends on them and describes failures, a mark that
depends on the letter, and a word with a digit that depends on it. -/
def spaced : List Change :=
  [.extend
    [{ name := "BLANK", pattern := .ofValid ["[ \t]+"] (by decide +kernel), skips := true },
     { name := "LETTER", pattern := .ofValid ["[xyz]"] (by decide +kernel),
       dependsOn := some "BLANK", descriptor := some ⟨"Letter", "expected a letter"⟩ },
     { name := "MARK", pattern := .ofValid ["!"] (by decide +kernel), dependsOn := some "LETTER" }],
   .add { name := "WORD", pattern := .ofValid ["[a-w]+"] (by decide +kernel) },
   .add
    { name := "DIGIT", pattern := .ofValid ["[1-9]"] (by decide +kernel), dependsOn := some "WORD" }]

/-- The letter and the mark are dead. Neither matches on a line with a blank and a mark, and without
them the failure in front of the mark is worded anew, at the same place. -/
theorem scan_without_dead_spaced :
    (∃ r ∈ (built spaced).rules, r.name = "MARK" ∧ (built spaced).Dead r ∧ r ∉ (built spaced).live ∧
      ∃ trace tokens s, (built spaced).Run 0 ['a', ' ', 'b'] .start trace tokens s ∧
        tokens = [⟨"WORD", "a", 0⟩, ⟨"WORD", "b", 0⟩] ∧
        (∀ p ∈ trace, p.1 ≠ r) ∧ ¬ Matches ['a', ' ', 'b'] s r) ∧
    ∃ t', empty.extend? (built spaced).live = .ok t' ∧ t'.names = ["BLANK", "WORD", "DIGIT"] ∧
      (built spaced).scan {} "a1 !" = .error (.described "Letter" "expected a letter" 0 3 "!") ∧
      ∃ fault', t'.scan {} "a1 !" = .error fault' ∧ fault'.unmatched? = some (0, 3) := by
  obtain ⟨⟨-, hlive⟩, hnever, ⟨t', htakes, hrules⟩, hscans⟩ := scan_without_dead spaced
  have hfails : (built spaced).scan {} "a1 !" =
      .error (.described "Letter" "expected a letter" 0 3 "!") := by decide +kernel
  have hline : (built spaced).scanLine {} 0 (.ofLine ['a', ' ', 'b']) =
      .ok [⟨"WORD", "a", 0⟩, ⟨"WORD", "b", 0⟩] := by decide +kernel
  have hmark : (built spaced).Depends "MARK" "LETTER" :=
    show ∃ r ∈ (built spaced).rules, r.name = "MARK" ∧ r.dependsOn = some "LETTER" by decide +kernel
  have hletter : (built spaced).Depends "LETTER" "BLANK" :=
    show ∃ r ∈ (built spaced).rules, r.name = "LETTER" ∧ r.dependsOn = some "BLANK" by
      decide +kernel
  have hblank : ∃ q ∈ (built spaced).rules, q.name = "BLANK" ∧ q.skips = true := by decide +kernel
  have hnames : (built spaced).live.map (·.name) = ["BLANK", "WORD", "DIGIT"] := by decide +kernel
  obtain ⟨r, hr, hname, -⟩ := id hmark
  have hdead : (built spaced).Dead r := by
    obtain ⟨q, hq, hqname, hskips⟩ := hblank
    exact ⟨q, hq, hskips, by rw [hname, hqname]; exact .head hmark (.single hletter)⟩
  obtain ⟨trace, last, hrun⟩ := (scanLine_eq_ok_iff (Cursor.at_ofLine _)).1 hline
  obtain ⟨htrace, hend⟩ := hnever _ _ _ _ _ hrun r hr hdead
  refine ⟨⟨r, hr, hname, hdead, fun hmem => ((hlive r).1 hmem).2 hdead, trace, _, _, hrun, rfl,
    htrace, hend⟩, t', htakes, by rw [names, hrules, hnames], hfails, ?_⟩
  have halike := hscans t' hrules {} {} "a1 !"
  rw [hfails] at halike
  generalize t'.scan {} "a1 !" = outcome at halike
  cases halike with
  | error hrewords =>
    cases hrewords with
    | same hmatched => exact absurd hmatched (by simp [Fault.unmatched?])
    | unmatched h h' => exact ⟨_, rfl, h'.trans h.symm⟩

end Table

end RuleLexer
