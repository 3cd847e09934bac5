import RuleLexer.Proofs.Scan.Locality
import RuleLexer.Proofs.Table.Index

/-!
# Dependencies in the stream of tokens

A rule that depends on another one is tried only after a match of that rule. Which rule matched last
is not to be seen from outside, but without callbacks it shows in the tokens: it is the rule that
the last token on the line is named after, matches of rules that skip aside
(`Table.Run.last_eq_kind`).

* `Table.Follows` — a token stands behind a token on the same line of the kind that its rule depends
  on, if its rule depends on one;
* `Table.Linked` — every token of a stream follows in this sense the one in front of it.

The invariant of a run is `Table.Precedes`: the token in front of a spot is named after the rule
that matched last. A match that counts at a spot is that of an eligible rule, and so its token
follows the one in front of the spot (`Table.Precedes.follows`); the tokens of a run are therefore
linked (`Table.Run.linked`), and so are those of all lines, since the first token of a line depends
on nothing. The main statement is `Table.follows_dependency`.
-/

namespace RuleLexer

namespace Table

variable {t : Table} {number : Nat} {line : List Char} {s s' : Spot}
  {trace : List (Rule × Match)} {tokens : List Token}

/-! ### What the tokens tell of the matches -/

/-- Without callbacks, tokens are named after the matches of rules that do not skip. -/
theorem Run.kinds_eq (quiet : t.Quiet) (h : t.Run number line s trace tokens s') :
    tokens.map (·.kind) = (trace.filter (!·.1.skips)).map (·.1.name) := by
  induction h with
  | stop s => rfl
  | @move s s' r m out tokens last trace hpicks hsome hleaves _ ih =>
    rcases hleaves.quiet_cases (quiet r hpicks.first.mem) with
      ⟨hskips, rfl, -⟩ | ⟨value, hskips, -, rfl, -⟩
    · rw [List.nil_append, ih, List.filter_cons_of_neg (by simp [hskips])]
    · rw [List.singleton_append, List.map_cons, ih, List.filter_cons_of_pos (by simp [hskips]),
        List.map_cons]

/-- Without callbacks, every token is named after a rule that does not skip. -/
theorem Covers.exists_rule (quiet : t.Quiet) (h : t.Covers (line, number) tokens) {token : Token}
    (mem : token ∈ tokens) : ∃ r ∈ t.rules, r.skips = false ∧ r.name = token.kind := by
  obtain ⟨trace, last, hrun⟩ := h
  have hkind : token.kind ∈ tokens.map (·.kind) := List.mem_map_of_mem mem
  rw [hrun.kinds_eq quiet] at hkind
  obtain ⟨p, hp, hname⟩ := List.mem_map.1 hkind
  obtain ⟨hmem, hskips⟩ := List.mem_filter.1 hp
  exact ⟨p.1, (hrun.of_mem_trace hmem).1, by simpa using hskips, hname⟩

/-- **The rule that matched last shows in the tokens**: it is the one that the last token is named
after; without a token, none matched but such as skip. -/
theorem Run.last_eq_kind (quiet : t.Quiet) (h : t.Run number line s trace tokens s') :
    s'.last = (tokens.getLast?.map (·.kind)).or s.last := by
  induction h with
  | stop s => rfl
  | @move s s' r m out tokens last trace hpicks hsome hleaves _ ih =>
    rcases hleaves.quiet_cases (quiet r hpicks.first.mem) with
      ⟨-, rfl, rfl⟩ | ⟨value, -, -, rfl, rfl⟩
    · exact ih
    · -- the token of this match is the last one unless there are more behind it
      rw [ih, List.singleton_append, List.getLast?_cons]
      cases tokens.getLast? with
      | none => rfl
      | some token => rfl

/-! ### Streams in which every token follows its dependency -/

/-- **A token follows its dependency**: if the rule that it is named after depends on another one,
the token in front of it, `before`, is of that kind and on the same line. -/
def Follows (t : Table) (before : Option Token) (token : Token) : Prop :=
  ∀ d, t.Depends token.kind d → ∃ b, before = some b ∧ b.kind = d ∧ b.line = token.line

/-- **Every token of a stream follows its dependency**, `before` being the token in front of the
stream, if there is one. -/
def Linked (t : Table) : Option Token → List Token → Prop
  | _, [] => True
  | before, token :: tokens => t.Follows before token ∧ t.Linked (some token) tokens

/-- Where nothing is in front of a stream, anything may be. -/
theorem Linked.weaken (h : t.Linked none tokens) (before : Option Token) :
    t.Linked before tokens := by
  cases tokens with
  | nil => exact trivial
  | cons token tokens =>
    obtain ⟨hfollows, hrest⟩ := h
    refine ⟨fun d hdep => ?_, hrest⟩
    obtain ⟨b, hb, -⟩ := hfollows d hdep
    exact absurd hb (by simp)

/-- A stream that may stand behind anything may stand behind another one. -/
theorem Linked.append {before : Option Token} {later : List Token} (h : t.Linked before tokens)
    (anywhere : ∀ b, t.Linked b later) : t.Linked before (tokens ++ later) := by
  induction tokens generalizing before with
  | nil => exact anywhere before
  | cons token tokens ih =>
    obtain ⟨hfollows, hrest⟩ := h
    exact ⟨hfollows, ih hrest⟩

theorem Linked.flatten {parts : List (List Token)} (h : ∀ part ∈ parts, t.Linked none part)
    (before : Option Token) : t.Linked before parts.flatten := by
  induction parts generalizing before with
  | nil => exact trivial
  | cons part parts ih =>
    -- each part would do at the start of the stream, and so behind any token
    have hpart : t.Linked before part := (h part List.mem_cons_self).weaken before
    exact hpart.append (ih fun p hp => h p (List.mem_cons_of_mem part hp))

/-- Every token of a linked stream follows the one in front of it. -/
theorem Linked.exists_follows {before : Option Token} (h : t.Linked before tokens) {i : Nat}
    {token : Token} (hi : tokens[i]? = some token) :
    ∃ b, (before :: tokens.map some)[i]? = some b ∧ t.Follows b token := by
  -- beside the token at `i` stands, in the stream with `before` put in front, its predecessor
  induction tokens generalizing before i with
  | nil => exact absurd hi (by simp)
  | cons first tokens ih =>
    obtain ⟨hfollows, hrest⟩ := h
    cases i with
    | zero =>
      obtain rfl := Option.some.inj hi
      exact ⟨before, rfl, hfollows⟩
    | succ i => exact ih hrest hi

/-- **A token whose rule depends on another one is not the first**, and the token in front of it is
of the kind that its rule depends on, and on the same line. -/
theorem Linked.exists_before (h : t.Linked none tokens) {i : Nat} {token : Token} {d : String}
    (hi : tokens[i]? = some token) (depends : t.Depends token.kind d) :
    ∃ j prev, i = j + 1 ∧ tokens[j]? = some prev ∧ prev.kind = d ∧ prev.line = token.line := by
  obtain ⟨b, hb, hfollows⟩ := h.exists_follows hi
  obtain ⟨prev, rfl, hkind, hline⟩ := hfollows d depends
  cases i with
  | zero => exact absurd hb (by simp)
  | succ j =>
    rw [List.getElem?_cons_succ, List.getElem?_map] at hb
    obtain ⟨prev', hprev, hsame⟩ := Option.map_eq_some_iff.1 hb
    obtain rfl := Option.some.inj hsame
    exact ⟨j, prev', rfl, hprev, hkind, hline⟩

/-! ### The tokens of a run -/

/-- **The token in front of a spot** of a line: it is on the line, and named after the rule that
matched last. Nothing is in front of a spot if no rule matched. -/
structure Precedes (number : Nat) (before : Option Token) (s : Spot) : Prop where
  /-- The rule that matched last is the one that it is named after. -/
  kind : before.map (·.kind) = s.last
  /-- It is on the line. -/
  line : ∀ b, before = some b → b.line = number

/-- **The token of a match that counts follows the one in front of the spot.** -/
theorem Precedes.follows (distinct : t.names.Nodup) {before : Option Token} {r : Rule} {m : Match}
    (h : Precedes number before s) (hpicks : t.Picks line s r m) (value : String) :
    t.Follows before ⟨r.name, value, number⟩ := by
  rintro d ⟨q, hq, hname, hdep⟩
  -- the rule of the name is the one that matched, and it was eligible
  obtain rfl := List.inj_on_of_nodup_map distinct hq hpicks.first.mem hname
  obtain ⟨heligible, -⟩ := hpicks.first.1
  rw [Rule.eligible, hdep] at heligible
  have hlast : s.last = some d := of_decide_eq_true heligible
  rw [← h.kind] at hlast
  obtain ⟨b, hb, hkind⟩ := Option.map_eq_some_iff.1 hlast
  exact ⟨b, hb, hkind, h.line b hb⟩

/-- **The tokens of a run are linked**, behind the token in front of the spot where it begins. -/
theorem Run.linked (distinct : t.names.Nodup) (quiet : t.Quiet)
    (h : t.Run number line s trace tokens s') {before : Option Token}
    (precedes : Precedes number before s) : t.Linked before tokens := by
  induction h generalizing before with
  | stop s => exact trivial
  | @move s s' r m out tokens last trace hpicks hsome hleaves _ ih =>
    rcases hleaves.quiet_cases (quiet r hpicks.first.mem) with
      ⟨-, rfl, rfl⟩ | ⟨value, -, -, rfl, rfl⟩
    · -- a match that is skipped leaves the token in front of it where it is
      exact ih ⟨precedes.kind, precedes.line⟩
    · refine ⟨precedes.follows distinct hpicks _, ih ⟨rfl, ?_⟩⟩
      rintro b ⟨⟩
      rfl

theorem Covers.linked (distinct : t.names.Nodup) (quiet : t.Quiet)
    (h : t.Covers (line, number) tokens) : t.Linked none tokens := by
  obtain ⟨trace, last, hrun⟩ := h
  exact hrun.linked distinct quiet ⟨rfl, fun b hb => absurd hb (by simp)⟩

/-- **Dependencies show in the stream of tokens.** If a table that changes build has no callbacks,
then in the tokens of a text each one whose rule depends on another rule stands behind a token of
that kind on the same line. So no token is named after a rule that depends on a rule that skips. And
on each line the tokens are named after the matches of the rules that do not skip, in their order,
and the rule that counts as the one that matched last is the one that the last token is named
after. -/
theorem follows_dependency (changes : List Change) (quiet : (built changes).Quiet)
    (options : ScanOptions) (text : String) {tokens : List Token}
    (scanned : (built changes).scan options text = .ok tokens) :
    (∀ i token d, tokens[i]? = some token → (built changes).Depends token.kind d →
      ∃ j prev, i = j + 1 ∧ tokens[j]? = some prev ∧ prev.kind = d ∧ prev.line = token.line) ∧
    (∀ r ∈ (built changes).rules, ∀ q ∈ (built changes).rules, r.dependsOn = some q.name →
      q.skips = true → ∀ token ∈ tokens, token.kind ≠ r.name) ∧
    ∀ number line trace out s, (built changes).Run number line .start trace out s →
      out.map (·.kind) = (trace.filter (!·.1.skips)).map (·.1.name) ∧
        s.last = out.getLast?.map (·.kind) := by
  have distinct : (built changes).names.Nodup := (indexed_built changes).distinct
  -- the part of each line is linked on its own, and the parts follow one another
  have hlinked : (built changes).Linked none tokens := by
    obtain ⟨parts, rfl, hparts⟩ := exists_parts scanned
    refine .flatten (fun part hpart => ?_) none
    obtain ⟨line, number, hcovers⟩ := hparts part hpart
    exact hcovers.linked distinct quiet
  have hbefore : ∀ i token d, tokens[i]? = some token → (built changes).Depends token.kind d →
      ∃ j prev, i = j + 1 ∧ tokens[j]? = some prev ∧ prev.kind = d ∧ prev.line = token.line :=
    fun i token d hi hdep => hlinked.exists_before hi hdep
  refine ⟨hbefore, fun r hr q hq hdep hskips token hmem hkind => ?_,
    fun number line trace out s hrun => ⟨hrun.kinds_eq quiet, ?_⟩⟩
  · obtain ⟨i, hi⟩ := List.mem_iff_getElem?.1 hmem
    obtain ⟨j, prev, -, hprev, hname, -⟩ := hbefore i token q.name hi ⟨r, hr, hkind.symm, hdep⟩
    -- the token in front would be named after the rule that skips
    obtain ⟨line, number, part, hcovers, hpart⟩ :=
      exists_covers_of_mem scanned (List.mem_of_getElem? hprev)
    obtain ⟨p, hp, hvisible, hpname⟩ := hcovers.exists_rule quiet hpart
    obtain rfl := List.inj_on_of_nodup_map distinct hp hq (hpname.trans hname)
    exact absurd (hvisible.symm.trans hskips) (by simp)
  · rw [hrun.last_eq_kind quiet]
    exact Option.or_none

/-- A keyword, blanks that are skipped, a name that depends on the keyword, and a letter that
depends on the blanks. -/
def declaring : List Change :=
  [.extend
    [{ name := "VAR", pattern := .ofValid ["var"] (by decide +kernel) },
     { name := "BLANK", pattern := .ofValid ["[ ]+"] (by decide +kernel), skips := true }],
   .add
    { name := "NAME", pattern := .ofValid ["[x-z]"] (by decide +kernel), dependsOn := some "VAR" },
   .add
    { name := "LETTER", pattern := .ofValid ["[x-z]"] (by decide +kernel),
      dependsOn := some "BLANK" }]

/-- The name on the second line stands behind a keyword, with a blank between them that leaves no
token, and no token is named after the rule that depends on blanks. -/
theorem follows_dependency_declaring :
    (built declaring).Quiet ∧ ∃ tokens, (built declaring).scan {} "varx\nvar y" = .ok tokens ∧
      tokens = [⟨"VAR", "var", 0⟩, ⟨"NAME", "x", 0⟩, ⟨"VAR", "var", 1⟩, ⟨"NAME", "y", 1⟩] ∧
      (built declaring).Depends "NAME" "VAR" ∧
      (∃ j prev, 3 = j + 1 ∧ tokens[j]? = some prev ∧ prev.kind = "VAR" ∧ prev.line = 1) ∧
      (∃ r ∈ (built declaring).rules, ∃ q ∈ (built declaring).rules, r.dependsOn = some q.name ∧
        q.skips = true ∧ ∀ token ∈ tokens, token.kind ≠ r.name) ∧
      ∃ trace out s, (built declaring).Run 1 ['v', 'a', 'r', ' ', 'y'] .start trace out s ∧
        out.map (·.kind) = (trace.filter (!·.1.skips)).map (·.1.name) ∧
        s.last = out.getLast?.map (·.kind) := by
  have hnone : (built declaring).rules.all (·.onMatch.isNone) = true := by decide +kernel
  have hquiet : (built declaring).Quiet := by
    intro r hr
    exact Option.isNone_iff_eq_none.1 (List.all_eq_true.1 hnone r hr)
  have hscan : (built declaring).scan {} "varx\nvar y" =
      .ok [⟨"VAR", "var", 0⟩, ⟨"NAME", "x", 0⟩, ⟨"VAR", "var", 1⟩, ⟨"NAME", "y", 1⟩] := by
    decide +kernel
  have hline : (built declaring).scanLine {} 1 (.ofLine ['v', 'a', 'r', ' ', 'y']) =
      .ok [⟨"VAR", "var", 1⟩, ⟨"NAME", "y", 1⟩] := by decide +kernel
  have hname : (built declaring).Depends "NAME" "VAR" :=
    show ∃ r ∈ (built declaring).rules, r.name = "NAME" ∧ r.dependsOn = some "VAR" by decide +kernel
  have hdead : ∃ r ∈ (built declaring).rules, ∃ q ∈ (built declaring).rules,
      r.dependsOn = some q.name ∧ q.skips = true := by decide +kernel
  obtain ⟨hbefore, hnever, hruns⟩ := follows_dependency declaring hquiet {} _ hscan
  obtain ⟨trace, last, hrun⟩ := (scanLine_eq_ok_iff (Cursor.at_ofLine _)).1 hline
  obtain ⟨r, hr, q, hq, hdep, hskips⟩ := hdead
  exact ⟨hquiet, _, hscan, rfl, hname, hbefore 3 ⟨"NAME", "y", 1⟩ "VAR" rfl hname,
    ⟨r, hr, q, hq, hdep, hskips, hnever r hr q hq hdep hskips⟩,
    trace, _, _, hrun, hruns _ _ _ _ _ hrun⟩

end Table

end RuleLexer
