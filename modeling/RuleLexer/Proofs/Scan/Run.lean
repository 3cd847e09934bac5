import Mathlib.Data.List.Forall2
import RuleLexer.Proofs.Outcome
import RuleLexer.Scan

/-!
# Runs of a scan

A scan of a line, told as a sequence of matches. A *spot* is a place on a line, in bytes, with the
name of the rule that matched last; a *run* leads from one spot to another by matches, each of which
is that of the first rule, in the order of priority, that is eligible and matches at the spot.

* `Table.Picks` — a rule and its match are the ones that count at a spot;
* `Rule.Contributes` — what a match leaves behind: the tokens and the rule that matched last;
* `Table.Run` — a sequence of such matches, each behind the one before it.

The scan itself moves a cursor that holds the rest of the line and counts characters. A cursor
*stands at* a spot (`Cursor.At`) when the characters that it has left behind take as many bytes as
the offset says. Along this relation, one step of the scan is one match of a run
(`Table.step_eq_ok_iff`), and so the scan of a line is a run from its start to its end
(`Table.scanLine_eq_ok_iff`). The main statement, `Table.scan_eq_ok_iff`, is the same for texts: the
scan gives some tokens exactly when every line has a run over all of it, and these are the tokens of
the runs, one line after the other.
-/

namespace RuleLexer

open Text (byteLength after?)

/-! ### Places in bytes -/

theorem Text.after?_append (start rest : List Char) :
    after? (start ++ rest) (byteLength start) = some rest :=
  after?_eq_some_iff.2 ⟨start, rfl, rfl⟩

theorem Text.byteLength_pos {cs : List Char} (h : cs ≠ []) : 0 < byteLength cs := by
  cases cs with
  | nil => exact absurd rfl h
  | cons c cs =>
    have hc := c.utf8Size_pos
    rw [byteLength_cons]
    omega

/-- A match takes a beginning of what follows the place. -/
theorem Regex.append_of_matchOn? {r : Regex} {rest : List Char} {m : Match}
    (h : r.matchOn? rest = some m) : ∃ tail, rest = m.skipped ++ m.text ++ tail := by
  unfold Regex.matchOn? at h
  obtain ⟨found, -, rfl⟩ := Option.map_eq_some_iff.1 h
  refine ⟨(rest.drop found.whole.start).drop (found.whole.stop - found.whole.start), ?_⟩
  rw [Span.of, List.append_assoc, List.take_append_drop, List.take_append_drop]

theorem Pattern.append_of_matchOn? {p : Pattern} {rest : List Char} {m : Match}
    (h : p.matchOn? rest = some m) : ∃ tail, rest = m.skipped ++ m.text ++ tail := by
  obtain ⟨a, -, ha⟩ := List.exists_of_findSome?_eq_some h
  exact Regex.append_of_matchOn? ha

/-! ### Spots and runs -/

/-- A place on a line in bytes, with the rule that matched last. -/
structure Spot where
  /-- The number of bytes before the place. -/
  offset : Nat
  /-- The name of the rule that matched last, matches of skipping rules aside. -/
  last : Option String
  deriving DecidableEq, Repr

/-- The spot at the start of a line. -/
def Spot.start : Spot := ⟨0, none⟩

namespace Table

/-- A rule is the first one, in the order of priority, of which something holds. -/
def First (t : Table) (P : Rule → Prop) (r : Rule) : Prop :=
  P r ∧ ∃ before after, t.rules = before ++ r :: after ∧ ∀ q ∈ before, ¬ P q

/-- A rule may be tried at a spot, and matches there. -/
def Matches (line : List Char) (s : Spot) (r : Rule) : Prop :=
  r.eligible s.last = true ∧ (r.pattern.matchAt? line s.offset).isSome = true

/-- **The rule that counts at a spot**, with its match there. -/
structure Picks (t : Table) (line : List Char) (s : Spot) (r : Rule) (m : Match) : Prop where
  /-- It is the first rule that is eligible and matches. -/
  first : t.First (Matches line s) r
  /-- It matches like that. -/
  found : r.pattern.matchAt? line s.offset = some m

end Table

/-- **What a match leaves behind** on a line of some number: the tokens, none or one, and the name
of the rule that matched last, which before the match was `last`. -/
inductive Rule.Contributes (r : Rule) (number : Nat) (last : Option String) (m : Match) :
    List Token → Option String → Prop
  /-- A rule that skips leaves everything as it was. -/
  | skip (skips : r.skips = true) : Contributes r number last m [] last
  /-- The token stays as it is: there is no callback, or it keeps the token. -/
  | keep {value : List Char} (skips : r.skips = false)
      (selected : m.group? (r.capture.getD 0) = some value)
      (kept : ∀ f, r.onMatch = some f → f ⟨r.name, String.ofList value, number⟩ = .ok .keep) :
      Contributes r number last m [⟨r.name, String.ofList value, number⟩] (some r.name)
  /-- The callback puts another token in its place. -/
  | replace {value : List Char} {f : Callback} {other : Token} (skips : r.skips = false)
      (selected : m.group? (r.capture.getD 0) = some value) (calls : r.onMatch = some f)
      (replaced : f ⟨r.name, String.ofList value, number⟩ = .ok (.replace other)) :
      Contributes r number last m [other] (some r.name)
  /-- The callback drops the token, and yet the rule has matched. -/
  | suppress {value : List Char} {f : Callback} (skips : r.skips = false)
      (selected : m.group? (r.capture.getD 0) = some value) (calls : r.onMatch = some f)
      (dropped : f ⟨r.name, String.ofList value, number⟩ = .ok .suppress) :
      Contributes r number last m [] (some r.name)

/-- **A run** on a line of some number: matches, each behind the one before it, with the tokens that
they leave behind. -/
inductive Table.Run (t : Table) (number : Nat) (line : List Char) :
    Spot → List (Rule × Match) → List Token → Spot → Prop
  /-- No match at all. -/
  | stop (s : Spot) : Run t number line s [] [] s
  /-- A match, and a run from behind it. -/
  | move {s s' : Spot} {r : Rule} {m : Match} {out tokens : List Token} {last : Option String}
      {trace : List (Rule × Match)} (picks : t.Picks line s r m) (some : m.text ≠ [])
      (leaves : r.Contributes number s.last m out last)
      (rest : Run t number line ⟨m.stopFrom s.offset, last⟩ trace tokens s') :
      Run t number line s ((r, m) :: trace) (out ++ tokens) s'

/-! ### Cursors at spots -/

/-- A cursor stands at a spot of a line: the characters before it take as many bytes as the offset
says, and the rest of the line is the rest of the cursor. -/
structure Cursor.At (line : List Char) (cur : Cursor) (s : Spot) : Prop where
  /-- The line is what was read and what is left. -/
  split : ∃ read, line = read ++ cur.rest ∧ cur.column = read.length ∧ s.offset = byteLength read
  /-- The same rule matched last. -/
  last : cur.last = s.last

namespace Cursor

theorem at_ofLine (line : List Char) : (ofLine line).At line .start where
  split := ⟨[], rfl, rfl, rfl⟩
  last := rfl

theorem At.after? {line : List Char} {cur : Cursor} {s : Spot} (h : cur.At line s) :
    after? line s.offset = some cur.rest := by
  obtain ⟨read, hline, -, hoff⟩ := h.split
  rw [hline, hoff]
  exact Text.after?_append read cur.rest

/-- Only one cursor stands at a spot. -/
theorem At.unique {line : List Char} {cur cur' : Cursor} {s : Spot} (h : cur.At line s)
    (h' : cur'.At line s) : cur = cur' := by
  obtain ⟨read, hline, hcol, -⟩ := h.split
  obtain ⟨read', hline', hcol', -⟩ := h'.split
  -- the offset determines what is left of the line, hence also what was read
  have hrest : cur.rest = cur'.rest := Option.some.inj (h.after?.symm.trans h'.after?)
  have hread : read = read' := by
    rw [hline', hrest] at hline
    exact (List.append_cancel_right hline).symm
  have hlast : cur.last = cur'.last := h.last.trans h'.last.symm
  rw [← hread] at hcol'
  have hcolumn : cur.column = cur'.column := hcol.trans hcol'.symm
  calc cur = ⟨cur.column, cur.rest, cur.last⟩ := rfl
    _ = ⟨cur'.column, cur'.rest, cur'.last⟩ := by rw [hcolumn, hrest, hlast]
    _ = cur' := rfl

/-- What a pattern matches at the spot is what it matches on the rest of the line. -/
theorem At.matchAt? {line : List Char} {cur : Cursor} {s : Spot} (h : cur.At line s)
    (p : Pattern) : p.matchAt? line s.offset = p.matchOn? cur.rest := by
  rw [Pattern.matchAt?, h.after?, Option.bind_some]

/-- The bytes of the line are those in front of the spot and those that are left. -/
theorem At.byteLength_eq {line : List Char} {cur : Cursor} {s : Spot} (h : cur.At line s) :
    byteLength line = s.offset + byteLength cur.rest := by
  obtain ⟨read, hline, -, hoff⟩ := h.split
  rw [hoff, hline, Text.byteLength_append]

/-- Where something is left of the line, the spot is in front of its end. -/
theorem At.offset_lt {line : List Char} {cur : Cursor} {s : Spot} (h : cur.At line s)
    (more : cur.rest ≠ []) : s.offset < byteLength line := by
  have hlen := h.byteLength_eq
  have hpos := Text.byteLength_pos more
  omega

/-- The rest of the line is empty at the end of the line alone. -/
theorem At.rest_eq_nil_iff {line : List Char} {cur : Cursor} {s : Spot} (h : cur.At line s) :
    cur.rest = [] ↔ s.offset = byteLength line := by
  constructor
  · intro hnil
    rw [h.byteLength_eq, hnil, Text.byteLength_nil, Nat.add_zero]
  · intro hend
    by_contra hne
    exact absurd hend (Nat.ne_of_lt (h.offset_lt hne))

/-- **Behind a match** the cursor stands where the match ends. -/
theorem At.past {line : List Char} {cur : Cursor} {s : Spot} {p : Pattern} {m : Match}
    (h : cur.At line s) (hm : p.matchOn? cur.rest = some m) (last : Option String) :
    Cursor.At line { cur.past m with last := last } ⟨m.stopFrom s.offset, last⟩ where
  split := by
    obtain ⟨read, hline, hcol, hoff⟩ := h.split
    obtain ⟨tail, hrest⟩ := Pattern.append_of_matchOn? hm
    have hextent : m.extent = (m.skipped ++ m.text).length := by
      rw [Match.extent, List.length_append]
    refine ⟨read ++ (m.skipped ++ m.text), ?_, ?_, ?_⟩
    · change line = read ++ (m.skipped ++ m.text) ++ cur.rest.drop m.extent
      rw [hline, hextent, hrest, List.drop_left]
      exact (List.append_assoc read (m.skipped ++ m.text) tail).symm
    · change cur.column + m.extent = (read ++ (m.skipped ++ m.text)).length
      rw [hcol, hextent, ← List.length_append]
    · rw [Match.stopFrom, Match.startFrom, hoff, Text.byteLength_append, Text.byteLength_append,
        Nat.add_assoc]
  last := rfl

end Cursor

/-! ### One match of a run is one step of the scan -/

namespace Table

theorem First.mem {t : Table} {P : Rule → Prop} {r : Rule} (h : t.First P r) : r ∈ t.rules := by
  obtain ⟨-, before, after, hrules, -⟩ := h
  rw [hrules]
  exact List.mem_append_right before List.mem_cons_self

/-- The first rule of which something holds is no other than the first one. -/
theorem First.unique {t : Table} {P : Rule → Prop} {r r' : Rule} (h : t.First P r)
    (h' : t.First P r') : r = r' := by
  obtain ⟨hr, before, after, hrules, hbefore⟩ := h
  obtain ⟨hr', before', after', hrules', hbefore'⟩ := h'
  rw [hrules] at hrules'
  rcases List.append_eq_append_iff.1 hrules' with ⟨mid, hmid, hcons⟩ | ⟨mid, hmid, hcons⟩
  · cases mid with
    | nil => exact (List.cons.inj hcons).1
    | cons q mid =>
      -- `r` would stand before `r'`
      obtain rfl : r = q := (List.cons.inj hcons).1
      exact absurd hr (hbefore' r (by rw [hmid]; exact List.mem_append_right _ List.mem_cons_self))
  · cases mid with
    | nil => exact (List.cons.inj hcons).1.symm
    | cons q mid =>
      obtain rfl : r' = q := (List.cons.inj hcons).1
      exact absurd hr' (hbefore r' (by rw [hmid]; exact List.mem_append_right _ List.mem_cons_self))

/-- Where rules are exchanged for ones of which the same holds, the first rule is exchanged too. -/
theorem first_map_iff {t : Table} {f : Rule → Rule} {P : Rule → Prop}
    (same : ∀ q, P (f q) ↔ P q) {r' : Rule} :
    First { t with rules := t.rules.map f } P r' ↔ ∃ r, r' = f r ∧ t.First P r := by
  constructor
  · rintro ⟨hr', before', after', hrules, hbefore'⟩
    obtain ⟨before, tail, ht, rfl, htail⟩ := List.map_eq_append_iff.1 hrules
    obtain ⟨r, after, rfl, rfl, rfl⟩ := List.map_eq_cons_iff.1 htail
    refine ⟨r, rfl, (same r).1 hr', before, after, ht, fun q hq hPq => ?_⟩
    exact hbefore' (f q) (List.mem_map_of_mem hq) ((same q).2 hPq)
  · rintro ⟨r, rfl, hr, before, after, hrules, hbefore⟩
    refine ⟨(same r).2 hr, before.map f, after.map f, ?_, fun q hq hPq => ?_⟩
    · change t.rules.map f = _
      rw [hrules, List.map_append, List.map_cons]
    · obtain ⟨p, hp, rfl⟩ := List.mem_map.1 hq
      exact hbefore p hp ((same p).1 hPq)

/-- Where rules are exchanged for ones with the same pattern and dependency, the match that is found
is the same, and that of the exchanged rule. -/
theorem firstMatch?_map {f : Rule → Rule} (pattern : ∀ r, (f r).pattern = r.pattern)
    (dependsOn : ∀ r, (f r).dependsOn = r.dependsOn) (t : Table) (cur : Cursor) :
    firstMatch? { t with rules := t.rules.map f } cur =
      (t.firstMatch? cur).map fun found => (f found.1, found.2) := by
  have heligible : (fun r : Rule => r.eligible cur.last) ∘ f = fun r => r.eligible cur.last := by
    funext r
    rw [Function.comp_apply, Rule.eligible, Rule.eligible, dependsOn]
  -- eligible rules are exchanged for eligible ones, and matching looks at the pattern only
  rw [firstMatch?, firstMatch?, List.filter_map, heligible, List.findSome?_map, List.map_findSome?]
  congr 1
  funext r
  rw [Function.comp_apply, Function.comp_apply, pattern, Option.map_map]
  rfl

/-- Searching what passes a test is searching everything and testing on the way. -/
theorem findSome?_filter {α : Type} (rules : List Rule) (p : Rule → Bool) (f : Rule → Option α) :
    (rules.filter p).findSome? f = rules.findSome? fun r => if p r = true then f r else none := by
  induction rules with
  | nil => rfl
  | cons q rules ih =>
    rw [List.findSome?_cons]
    by_cases hp : p q = true
    · rw [List.filter_cons_of_pos hp, List.findSome?_cons, if_pos hp, ih]
    · rw [List.filter_cons_of_neg hp, if_neg hp, ih]

/-- The first value that a search over the rules gives is that of the first rule that has one. -/
theorem findSome?_filter_eq_some_iff {α : Type} {t : Table} {p : Rule → Bool}
    {f : Rule → Option α} {a : α} :
    (t.rules.filter p).findSome? f = some a ↔
      ∃ r, t.First (fun q => p q = true ∧ (f q).isSome = true) r ∧ f r = some a := by
  rw [findSome?_filter, List.findSome?_eq_some_iff]
  constructor
  · rintro ⟨before, r, after, hrules, hr, hbefore⟩
    obtain ⟨hp, hf⟩ : p r = true ∧ f r = some a := by simpa using hr
    refine ⟨r, ⟨⟨hp, by rw [hf]; rfl⟩, before, after, hrules, ?_⟩, hf⟩
    rintro q hq ⟨hpq, hfq⟩
    have hnone := hbefore q hq
    rw [if_pos hpq] at hnone
    rw [hnone] at hfq
    exact absurd hfq (by simp)
  · rintro ⟨r, ⟨⟨hp, -⟩, before, after, hrules, hbefore⟩, hf⟩
    refine ⟨before, r, after, hrules, by rw [if_pos hp, hf], fun q hq => ?_⟩
    by_cases hpq : p q = true
    · rw [if_pos hpq]
      by_contra hne
      exact hbefore q hq ⟨hpq, Option.isSome_iff_ne_none.2 hne⟩
    · rw [if_neg hpq]

theorem findSome?_filter_eq_none_iff {α : Type} {t : Table} {p : Rule → Bool}
    {f : Rule → Option α} :
    (t.rules.filter p).findSome? f = none ↔
      ∀ r ∈ t.rules, ¬ (p r = true ∧ (f r).isSome = true) := by
  rw [List.findSome?_eq_none_iff]
  constructor
  · rintro hnone r hr ⟨hp, hf⟩
    rw [hnone r (List.mem_filter.2 ⟨hr, hp⟩)] at hf
    exact absurd hf (by simp)
  · intro hnone r hr
    obtain ⟨hr, hp⟩ := List.mem_filter.1 hr
    by_contra hne
    exact hnone r hr ⟨hp, Option.isSome_iff_ne_none.2 hne⟩

/-- Being eligible and matching, seen from a cursor and from its spot. -/
theorem matches_iff {line : List Char} {cur : Cursor} {s : Spot} (h : cur.At line s) (r : Rule) :
    (r.eligible cur.last = true ∧
        ((r.pattern.matchOn? cur.rest).map fun m => (r, m)).isSome = true) ↔ Matches line s r := by
  rw [Matches, h.matchAt?, h.last, Option.isSome_map]

/-- What the scan finds at a cursor is what counts at the spot. -/
theorem firstMatch?_eq_some_iff {t : Table} {line : List Char} {cur : Cursor} {s : Spot}
    {r : Rule} {m : Match} (h : cur.At line s) :
    t.firstMatch? cur = some (r, m) ↔ t.Picks line s r m := by
  rw [firstMatch?, findSome?_filter_eq_some_iff]
  simp only [matches_iff h, Option.map_eq_some_iff, Prod.mk.injEq]
  constructor
  · rintro ⟨q, hfirst, m', hm, rfl, rfl⟩
    exact ⟨hfirst, by rw [h.matchAt?]; exact hm⟩
  · rintro ⟨hfirst, hm⟩
    rw [h.matchAt?] at hm
    exact ⟨r, hfirst, m, hm, rfl, rfl⟩

theorem firstMatch?_eq_none_iff {t : Table} {line : List Char} {cur : Cursor} {s : Spot}
    (h : cur.At line s) :
    t.firstMatch? cur = none ↔ ∀ r ∈ t.rules, ¬ Matches line s r := by
  rw [firstMatch?, findSome?_filter_eq_none_iff]
  simp only [matches_iff h]

end Table

/-- A token is settled with some outcome exactly when that is what the rule leaves behind. -/
theorem Rule.contributes_iff_settle {r : Rule} {number : Nat} {last last' : Option String}
    {m : Match} {value : List Char} {token : Option Token} (skips : r.skips = false)
    (selected : m.group? (r.capture.getD 0) = some value) :
    r.Contributes number last m token.toList last' ↔
      settle r.onMatch ⟨r.name, String.ofList value, number⟩ = .ok token ∧ last' = some r.name := by
  constructor
  · intro h
    generalize htokens : token.toList = tokens at h
    cases h with
    | skip hskips => exact absurd (skips.symm.trans hskips) (by simp)
    | keep hskips hsel hkept =>
      obtain rfl := Option.some.inj (selected.symm.trans hsel)
      obtain rfl := Option.toList_eq_singleton_iff.1 htokens
      refine ⟨?_, rfl⟩
      cases hf : r.onMatch with
      | none => rfl
      | some f => simp only [settle, hkept f hf]
    | replace hskips hsel hcalls hreplaced =>
      obtain rfl := Option.some.inj (selected.symm.trans hsel)
      obtain rfl := Option.toList_eq_singleton_iff.1 htokens
      exact ⟨by simp only [settle, hcalls, hreplaced], rfl⟩
    | suppress hskips hsel hcalls hdropped =>
      obtain rfl := Option.some.inj (selected.symm.trans hsel)
      obtain rfl := Option.toList_eq_nil_iff.1 htokens
      exact ⟨by simp only [settle, hcalls, hdropped], rfl⟩
  · rintro ⟨hsettle, rfl⟩
    cases hf : r.onMatch with
    | none =>
      rw [hf] at hsettle
      obtain rfl := Except.ok.inj hsettle
      exact .keep skips selected fun f hf' => absurd (hf.symm.trans hf') (by simp)
    | some f =>
      rw [hf] at hsettle
      simp only [settle] at hsettle
      -- what the callback says decides
      split at hsettle
      · cases hsettle
      · next hsays =>
        obtain rfl := Except.ok.inj hsettle
        refine .keep skips selected fun g hg => ?_
        obtain rfl := Option.some.inj (hf.symm.trans hg)
        exact hsays
      · next hsays =>
        obtain rfl := Except.ok.inj hsettle
        exact .replace skips selected hf hsays
      · next hsays =>
        obtain rfl := Except.ok.inj hsettle
        exact .suppress skips selected hf hsays

/-- What a rule leaves behind is one token at most. -/
theorem Rule.Contributes.eq_toList {r : Rule} {number : Nat}
    {last last' : Option String} {m : Match} {out : List Token}
    (h : r.Contributes number last m out last') : ∃ token : Option Token, out = token.toList := by
  cases h with
  | skip => exact ⟨none, rfl⟩
  | keep => exact ⟨some _, rfl⟩
  | replace => exact ⟨some _, rfl⟩
  | suppress => exact ⟨none, rfl⟩

/-- **Without a callback** a match leaves nothing behind, if its rule skips, or the token of its
rule. -/
theorem Rule.Contributes.quiet_cases {r : Rule} {number : Nat} {last last' : Option String}
    {m : Match} {out : List Token} (h : r.Contributes number last m out last')
    (quiet : r.onMatch = none) :
    (r.skips = true ∧ out = [] ∧ last' = last) ∨
      ∃ value, r.skips = false ∧ m.group? (r.capture.getD 0) = some value ∧
        out = [⟨r.name, String.ofList value, number⟩] ∧ last' = some r.name := by
  cases h with
  | skip hskips => exact Or.inl ⟨hskips, rfl, rfl⟩
  | keep hskips hsel => exact Or.inr ⟨_, hskips, hsel, rfl, rfl⟩
  | replace _ _ hcalls => exact absurd (quiet.symm.trans hcalls) (by simp)
  | suppress _ _ hcalls => exact absurd (quiet.symm.trans hcalls) (by simp)

/-- A match is accepted with some token exactly when the rule leaves that token behind. -/
theorem Rule.accept_eq_ok_iff {r : Rule} {number : Nat} {cur next : Cursor} {m : Match}
    {token : Option Token} :
    r.accept number cur m = .ok (token, next) ↔ ∃ last,
      r.Contributes number cur.last m token.toList last ∧
        next = { cur.past m with last := last } := by
  unfold accept
  by_cases hskips : r.skips = true
  · rw [if_pos hskips]
    constructor
    · rintro ⟨⟩
      exact ⟨cur.last, .skip hskips, rfl⟩
    · rintro ⟨last, h, rfl⟩
      generalize htokens : token.toList = tokens at h
      cases h with
      | skip =>
        obtain rfl := Option.toList_eq_nil_iff.1 htokens
        rfl
      | keep h => exact absurd (h.symm.trans hskips) (by simp)
      | replace h => exact absurd (h.symm.trans hskips) (by simp)
      | suppress h => exact absurd (h.symm.trans hskips) (by simp)
  · -- the group that is selected decides first, then what the callback says
    have hskips' : r.skips = false := Bool.eq_false_iff.2 hskips
    rw [if_neg hskips]
    dsimp only
    cases hsel : m.group? (r.capture.getD 0) with
    | none =>
      constructor
      · rintro ⟨⟩
      · rintro ⟨last, h, -⟩
        generalize token.toList = tokens at h
        cases h with
        | skip h => exact absurd h hskips
        | keep _ h => exact absurd (hsel.symm.trans h) (by simp)
        | replace _ h => exact absurd (hsel.symm.trans h) (by simp)
        | suppress _ h => exact absurd (hsel.symm.trans h) (by simp)
    | some value =>
      simp only [contributes_iff_settle hskips' hsel]
      cases settle r.onMatch ⟨r.name, String.ofList value, number⟩ with
      | error e =>
        constructor
        · rintro ⟨⟩
        · rintro ⟨_, ⟨⟨⟩, _⟩, _⟩
      | ok token' =>
        constructor
        · rintro ⟨⟩
          exact ⟨_, ⟨rfl, rfl⟩, rfl⟩
        · rintro ⟨last, ⟨htoken, rfl⟩, rfl⟩
          obtain rfl := Except.ok.inj htoken
          rfl

namespace Table

/-- **One step of the scan is one match of a run**: it succeeds exactly when the match that counts
at the spot has a character, and gives what the rule leaves behind. -/
theorem step_eq_ok_iff {t : Table} {options : ScanOptions} {number : Nat} {line : List Char}
    {cur next : Cursor} {s : Spot} {token : Option Token} (h : cur.At line s) :
    t.step options number cur = .ok (token, next) ↔ ∃ r m last, t.Picks line s r m ∧ m.text ≠ [] ∧
      r.Contributes number s.last m token.toList last ∧
      next = { cur.past m with last := last } := by
  unfold step
  cases hfirst : t.firstMatch? cur with
  | none =>
    constructor
    · rintro ⟨⟩
    · rintro ⟨r, m, last, hpicks, -⟩
      rw [(firstMatch?_eq_some_iff h).2 hpicks] at hfirst
      exact absurd hfirst (by simp)
  | some found =>
    obtain ⟨r, m⟩ := found
    have hpicks := (firstMatch?_eq_some_iff h).1 hfirst
    -- the match that counts is the one that was found
    have hsame : ∀ {r' m'}, t.Picks line s r' m' → r' = r ∧ m' = m := by
      intro r' m' hpicks'
      rw [(firstMatch?_eq_some_iff h).2 hpicks'] at hfirst
      exact Prod.mk.inj (Option.some.inj hfirst)
    dsimp only
    by_cases hempty : m.text = []
    · rw [if_pos (List.isEmpty_iff.2 hempty)]
      constructor
      · rintro ⟨⟩
      · rintro ⟨r', m', last, hpicks', hne, -⟩
        obtain ⟨rfl, rfl⟩ := hsame hpicks'
        exact absurd hempty hne
    · rw [if_neg (fun hnil => hempty (List.isEmpty_iff.1 hnil)), Rule.accept_eq_ok_iff, h.last]
      constructor
      · rintro ⟨last, hleaves, rfl⟩
        exact ⟨r, m, last, hpicks, hempty, hleaves, rfl⟩
      · rintro ⟨r', m', last, hpicks', -, hleaves, rfl⟩
        obtain ⟨rfl, rfl⟩ := hsame hpicks'
        exact ⟨last, hleaves, rfl⟩

/-- The spot behind a match of a run is where the cursor then stands. -/
theorem Picks.at_past {t : Table} {line : List Char} {cur : Cursor} {s : Spot} {r : Rule}
    {m : Match} (hpicks : t.Picks line s r m) (h : cur.At line s) (last : Option String) :
    Cursor.At line { cur.past m with last := last } ⟨m.stopFrom s.offset, last⟩ := by
  have hfound := hpicks.found
  rw [h.matchAt?] at hfound
  exact h.past hfound last

/-! ### Lines and texts -/

/-- The scan of a line, one step unfolded. -/
theorem scanLine_eq (t : Table) (options : ScanOptions) (number : Nat) (cur : Cursor) :
    t.scanLine options number cur =
      if cur.rest = [] then .ok []
      else t.step options number cur >>= fun found =>
        (t.scanLine options number found.2).map (found.1.toList ++ ·) := by
  rw [scanLine]
  by_cases hend : cur.rest = []
  · rw [dif_pos hend, if_pos hend]
  · rw [dif_neg hend, if_neg hend]
    split
    · next hstep =>
      rw [hstep]
      rfl
    · next hstep =>
      dsimp only
      rw [hstep]
      rfl

/-- At the end of a line there is no match that has a character. -/
theorem Picks.rest_ne_nil {t : Table} {line : List Char} {cur : Cursor} {s : Spot} {r : Rule}
    {m : Match} (hpicks : t.Picks line s r m) (h : cur.At line s) (some : m.text ≠ []) :
    cur.rest ≠ [] := by
  intro hnil
  have hfound := hpicks.found
  rw [h.matchAt?] at hfound
  obtain ⟨tail, hrest⟩ := Pattern.append_of_matchOn? hfound
  rw [hnil] at hrest
  exact some (List.append_eq_nil_iff.1 (List.append_eq_nil_iff.1 hrest.symm).1).2

/-- A match of a run, as a step of the cursor. -/
theorem Picks.step_eq {t : Table} {options : ScanOptions} {number : Nat} {line : List Char}
    {cur : Cursor} {s : Spot} {r : Rule} {m : Match} {out : List Token} {last : Option String}
    (hpicks : t.Picks line s r m) (h : cur.At line s) (some : m.text ≠ [])
    (leaves : r.Contributes number s.last m out last) :
    ∃ token : Option Token, out = token.toList ∧
      t.step options number cur = .ok (token, { cur.past m with last := last }) := by
  obtain ⟨token, rfl⟩ := leaves.eq_toList
  exact ⟨token, rfl, (step_eq_ok_iff h).2 ⟨r, m, last, hpicks, some, leaves, rfl⟩⟩

/-- The matches of a run are those of rules of the table, and have a character each. -/
theorem Run.of_mem_trace {t : Table} {number : Nat} {line : List Char} {s s' : Spot}
    {trace : List (Rule × Match)} {tokens : List Token}
    (hrun : t.Run number line s trace tokens s') {p : Rule × Match} (mem : p ∈ trace) :
    p.1 ∈ t.rules ∧ p.2.text ≠ [] := by
  induction hrun with
  | stop s => exact absurd mem List.not_mem_nil
  | move hpicks hsome _ _ ih =>
    rcases List.mem_cons.1 mem with rfl | hmem
    · exact ⟨hpicks.first.mem, hsome⟩
    · exact ih hmem

/-- **Along a run** the scan of a line collects the tokens of the run, and goes on where it ends. -/
theorem Run.scanLine_eq {t : Table} {options : ScanOptions} {number : Nat} {line : List Char}
    {cur : Cursor} {s s' : Spot} {trace : List (Rule × Match)} {tokens : List Token}
    (hrun : t.Run number line s trace tokens s') (h : cur.At line s) :
    ∃ cur' : Cursor, cur'.At line s' ∧
      t.scanLine options number cur = (t.scanLine options number cur').map (tokens ++ ·) := by
  induction hrun generalizing cur with
  | stop s =>
    refine ⟨cur, h, ?_⟩
    cases t.scanLine options number cur <;> rfl
  | @move s s' r m out tokens last trace hpicks hsome hleaves hrest ih =>
    obtain ⟨token, rfl, hstep⟩ := hpicks.step_eq h hsome hleaves
    obtain ⟨cur', hat, hscan⟩ := ih (hpicks.at_past h last)
    refine ⟨cur', hat, ?_⟩
    rw [Table.scanLine_eq, if_neg (hpicks.rest_ne_nil h hsome), hstep]
    change (t.scanLine options number { cur.past m with last := last }).map (token.toList ++ ·) = _
    rw [hscan]
    cases t.scanLine options number cur' with
    | error fault => rfl
    | ok rest => exact congrArg Except.ok (List.append_assoc token.toList tokens rest).symm

/-- **The scan of a line is a run** from where the cursor stands to the end of the line. -/
theorem scanLine_eq_ok_iff {t : Table} {options : ScanOptions} {number : Nat} {line : List Char}
    {cur : Cursor} {s : Spot} {tokens : List Token} (h : cur.At line s) :
    t.scanLine options number cur = .ok tokens ↔
      ∃ trace last, t.Run number line s trace tokens ⟨byteLength line, last⟩ := by
  constructor
  · intro hscan
    -- every step leaves fewer characters
    induction hn : cur.rest.length using Nat.strongRecOn generalizing cur s tokens with
    | ind n ih =>
      subst hn
      rw [Table.scanLine_eq] at hscan
      by_cases hend : cur.rest = []
      · rw [if_pos hend] at hscan
        obtain rfl := Except.ok.inj hscan
        have hs : s = ⟨byteLength line, s.last⟩ := by rw [← h.rest_eq_nil_iff.1 hend]
        refine ⟨[], s.last, ?_⟩
        rw [← hs]
        exact .stop s
      · rw [if_neg hend] at hscan
        obtain ⟨⟨token, next⟩, hstep, hmap⟩ := bind_eq_ok_iff.1 hscan
        obtain ⟨tokens', hrest, rfl⟩ := map_eq_ok_iff.1 hmap
        have hlt := rest_step_lt hend hstep
        obtain ⟨r, m, last, hpicks, hsome, hleaves, rfl⟩ := (step_eq_ok_iff h).1 hstep
        obtain ⟨trace, last', hrun⟩ := ih _ hlt (hpicks.at_past h last) hrest rfl
        exact ⟨(r, m) :: trace, last', .move hpicks hsome hleaves hrun⟩
  · rintro ⟨trace, last, hrun⟩
    obtain ⟨cur', hat, hscan⟩ := hrun.scanLine_eq h
    have hend : cur'.rest = [] := hat.rest_eq_nil_iff.2 rfl
    rw [hscan, Table.scanLine_eq, if_pos hend]
    exact congrArg Except.ok (List.append_nil tokens)

/-- A line of some number has a run over all of it, which leaves some tokens behind. -/
def Covers (t : Table) (line : List Char × Nat) (tokens : List Token) : Prop :=
  ∃ trace last, t.Run line.2 line.1 .start trace tokens ⟨byteLength line.1, last⟩

theorem scanLines_eq_ok_iff {t : Table} {options : ScanOptions} {number : Nat}
    {lines : List (List Char)} {tokens : List Token} :
    t.scanLines options number lines = .ok tokens ↔
      ∃ parts, List.Forall₂ t.Covers (lines.zipIdx number) parts ∧ tokens = parts.flatten := by
  -- on the lines, each with its number
  induction lines generalizing number tokens with
  | nil =>
    rw [scanLines, List.zipIdx_nil]
    constructor
    · rintro ⟨⟩
      exact ⟨[], .nil, rfl⟩
    · rintro ⟨parts, ⟨⟩, rfl⟩
      rfl
  | cons line lines ih =>
    rw [scanLines, List.zipIdx_cons, bind_eq_ok_iff]
    constructor
    · rintro ⟨part, hline, hbind⟩
      obtain ⟨tokens', hrest, htokens⟩ := bind_eq_ok_iff.1 hbind
      obtain rfl := Except.ok.inj htokens
      obtain ⟨parts, hparts, rfl⟩ := ih.1 hrest
      have hcovers := (scanLine_eq_ok_iff (Cursor.at_ofLine line)).1 hline
      exact ⟨part :: parts, .cons hcovers hparts, rfl⟩
    · rintro ⟨parts, hparts, rfl⟩
      cases hparts with
      | cons hcovers hparts =>
        refine ⟨_, (scanLine_eq_ok_iff (Cursor.at_ofLine line)).2 hcovers, ?_⟩
        exact bind_eq_ok_iff.2 ⟨_, ih.2 ⟨_, hparts, rfl⟩, rfl⟩

/-- The tokens of a scan are those that runs leave behind on its lines. -/
theorem exists_parts {t : Table} {options : ScanOptions} {text : String} {tokens : List Token}
    (scanned : t.scan options text = .ok tokens) :
    ∃ parts : List (List Token), tokens = parts.flatten ∧
      ∀ part ∈ parts, ∃ line number, t.Covers (line, number) part := by
  obtain ⟨parts, hparts, rfl⟩ := scanLines_eq_ok_iff.1 scanned
  have hall : List.Forall₂ (fun part l => (∃ line number, t.Covers (line, number) part) ∧
      t.Covers l part) parts (Text.lines text.toList).zipIdx :=
    .flip (hparts.imp fun l part hcovers => ⟨⟨l.1, l.2, hcovers⟩, hcovers⟩)
  exact ⟨parts, rfl, ((List.forall₂_and_left _ _).1 hall).1⟩

/-- Every token of a scan is one that a run leaves behind on its line. -/
theorem exists_covers_of_mem {t : Table} {options : ScanOptions} {text : String}
    {tokens : List Token} {token : Token} (scanned : t.scan options text = .ok tokens)
    (mem : token ∈ tokens) :
    ∃ line number part, t.Covers (line, number) part ∧ token ∈ part := by
  obtain ⟨parts, rfl, hparts⟩ := exists_parts scanned
  obtain ⟨part, hpart, hmem⟩ := List.mem_flatten.1 mem
  obtain ⟨line, number, hcovers⟩ := hparts part hpart
  exact ⟨line, number, part, hcovers, hmem⟩

/-- **A scan succeeds exactly when every line has a run** from its start to its end, and gives the
tokens of the runs, one line after the other. -/
theorem scan_eq_ok_iff (t : Table) (options : ScanOptions) (text : String) (tokens : List Token) :
    t.scan options text = .ok tokens ↔
      ∃ parts, List.Forall₂ t.Covers (Text.lines text.toList).zipIdx parts ∧
        tokens = parts.flatten :=
  scanLines_eq_ok_iff

end Table

end RuleLexer
