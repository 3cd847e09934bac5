import RuleLexer.Regex.Search

/-!
# What an expression matches

The meaning of an expression, apart from any way of finding it: `e.Matches text i j` says that `e`
matches the stretch of a text between the places `i` and `j`, a place being the number of characters
in front of it. Preferences play no part here; they only choose between the stretches.

* `Expr.Matches` — the meaning, by recursion on the expression;
* `Expr.MatchesAll` — the same for the members of a sequence;
* `Expr.Numbered` — the groups of an expression have numbers from one on.

The first result is that `Expr.seq`, which opens up sequences and joins literals, keeps the meaning
(`Expr.matches_seq`). The others are that what is reckoned of an expression tells the truth: the mark
for being held to the start of the text (`Expr.Matches.eq_zero`) and the length of the shortest match
(`Expr.Matches.add_shortest_le`).
-/

namespace RuleLexer.Regex

/-! ### Places in a text -/

/-- The place in a text that `i` characters stand before. -/
def placeAt (text : List Char) (i : Nat) : Place :=
  ⟨i, if i = 0 then none else text[i - 1]?, text[i]?⟩

/-- A condition holds at a place of a text. -/
def Look.HoldsAt (l : Look) (text : List Char) (i : Nat) : Prop :=
  l.holds (placeAt text i).before (placeAt text i).after = true

theorem Look.eq_zero_of_textStart {text : List Char} {i : Nat} (h : Look.textStart.HoldsAt text i)
    (le : i ≤ text.length) : i = 0 := by
  rcases Nat.eq_zero_or_pos i with zero | pos
  · exact zero
  · have lt : i - 1 < text.length := by omega
    have before : (placeAt text i).before = some (text.get ⟨i - 1, lt⟩) := by
      rw [placeAt, if_neg (by omega), List.getElem?_eq_getElem lt, List.get_eq_getElem]
    rw [HoldsAt, before] at h
    exact absurd h (by simp [holds])

/-! ### Steps in a row -/

/-- A number of steps of a relation, one after the other. -/
def Iterated (R : Nat → Nat → Prop) : Nat → Nat → Nat → Prop
  | 0, i, j => i = j
  | n + 1, i, j => ∃ k, R i k ∧ Iterated R n k j

theorem iterated_add {R : Nat → Nat → Prop} {m n i j : Nat} :
    Iterated R (m + n) i j ↔ ∃ k, Iterated R m i k ∧ Iterated R n k j := by
  induction m generalizing i with
  | zero =>
    rw [Nat.zero_add]
    exact ⟨fun h => ⟨i, rfl, h⟩, fun ⟨_, hk, h⟩ => hk ▸ h⟩
  | succ m ih =>
    rw [Nat.succ_add]
    constructor
    · rintro ⟨k, hk, h⟩
      obtain ⟨l, hl, h⟩ := ih.1 h
      exact ⟨l, ⟨k, hk, hl⟩, h⟩
    · rintro ⟨l, ⟨k, hk, hl⟩, h⟩
      exact ⟨k, hk, ih.2 ⟨l, hl, h⟩⟩

theorem iterated_one {R : Nat → Nat → Prop} {i j : Nat} : Iterated R 1 i j ↔ R i j := by
  constructor
  · rintro ⟨k, h, rfl⟩
    exact h
  · intro h
    exact ⟨j, h, rfl⟩

/-- What every step keeps, steps in a row keep. -/
theorem Iterated.invariant {R P : Nat → Nat → Prop} (refl : ∀ i, P i i)
    (step : ∀ {i k j}, R i k → P k j → P i j) {n i j : Nat} (h : Iterated R n i j) : P i j := by
  induction n generalizing i with
  | zero =>
    obtain rfl : i = j := h
    exact refl i
  | succ n ih =>
    obtain ⟨k, hk, h⟩ := h
    exact step hk (ih h)

/-- Steps that each lead on by `m` places or more lead on by all of these together. -/
theorem Iterated.add_mul_le {R : Nat → Nat → Prop} {m : Nat} (step : ∀ {i k}, R i k → i + m ≤ k)
    {n i j : Nat} (h : Iterated R n i j) : i + m * n ≤ j := by
  induction n generalizing i with
  | zero => exact Nat.le_of_eq h
  | succ n ih =>
    obtain ⟨k, hk, h⟩ := h
    calc i + m * (n + 1)
        = i + m + m * n := by rw [Nat.mul_succ, Nat.add_comm (m * n), Nat.add_assoc]
      _ ≤ k + m * n := Nat.add_le_add_right (step hk) _
      _ ≤ j := ih h

namespace Expr

/-! ### The meaning -/

/-- **What an expression matches**: the stretch of the text from the place `i` to the place `j`. A
repetition whose bounds are the wrong way round is one of exactly `least` times. -/
def Matches (text : List Char) : Expr → Nat → Nat → Prop
  | .empty, i, j => i = j
  | .literal cs, i, j => j = i + cs.length ∧ cs <+: text.drop i
  | .set s, i, j => j = i + 1 ∧ ∃ c, text[i]? = some c ∧ s.contains c = true
  | .look l, i, j => i = j ∧ l.HoldsAt text i
  | .times body least most _, i, j =>
    ∃ n, least ≤ n ∧ (∀ m ∈ most, n ≤ max least m) ∧ Iterated (body.Matches text) n i j
  | .capture _ body, i, j => body.Matches text i j
  | .cat first rest, i, j => ∃ k, first.Matches text i k ∧ rest.Matches text k j
  | .alt first second, i, j => first.Matches text i j ∨ second.Matches text i j

/-- The expression matches somewhere in a text. -/
def Occurs (e : Expr) (text : List Char) : Prop := ∃ i ≤ text.length, ∃ j, e.Matches text i j

/-- The expression matches at the start of a text. -/
def Leads (e : Expr) (text : List Char) : Prop := ∃ j, e.Matches text 0 j

/-- A match does not end before it begins, and it ends within the text. -/
theorem Matches.bounds {text : List Char} {e : Expr} {i j : Nat} (h : e.Matches text i j) :
    i ≤ j ∧ (i ≤ text.length → j ≤ text.length) := by
  induction e generalizing i j with
  | empty =>
    obtain rfl : i = j := h
    exact ⟨Nat.le_refl i, id⟩
  | literal cs =>
    obtain ⟨rfl, hp⟩ := h
    have len := hp.length_le
    rw [List.length_drop] at len
    omega
  | set s =>
    obtain ⟨rfl, c, hc, -⟩ := h
    have lt := (List.getElem?_eq_some_iff.1 hc).1
    omega
  | look l =>
    obtain ⟨rfl, -⟩ := h
    exact ⟨Nat.le_refl i, id⟩
  | times body least most greedy ih =>
    obtain ⟨n, -, -, h⟩ := h
    -- both bounds hold of no copy at all, and survive one more copy
    refine h.invariant (P := fun i j => i ≤ j ∧ (i ≤ text.length → j ≤ text.length))
      (fun i => ⟨Nat.le_refl i, id⟩) fun hk later => ?_
    have first := ih hk
    exact ⟨Nat.le_trans first.1 later.1, fun le => later.2 (first.2 le)⟩
  | capture index body ih => exact ih h
  | cat first rest ihf ihr =>
    obtain ⟨k, hf, hr⟩ := h
    have first := ihf hf
    have later := ihr hr
    exact ⟨Nat.le_trans first.1 later.1, fun le => later.2 (first.2 le)⟩
  | alt first second ihf ihs =>
    rcases h with h | h
    · exact ihf h
    · exact ihs h

/-! ### Sequences -/

/-- What the members of a sequence match, one after the other. -/
def MatchesAll (text : List Char) : List Expr → Nat → Nat → Prop
  | [], i, j => i = j
  | e :: es, i, j => ∃ k, e.Matches text i k ∧ MatchesAll text es k j

section Sequences

variable {text : List Char} {i j : Nat}

theorem matchesAll_singleton {e : Expr} : MatchesAll text [e] i j ↔ e.Matches text i j := by
  constructor
  · rintro ⟨k, h, rfl⟩
    exact h
  · intro h
    exact ⟨j, h, rfl⟩

theorem matchesAll_append {es fs : List Expr} :
    MatchesAll text (es ++ fs) i j ↔
      ∃ k, MatchesAll text es i k ∧ MatchesAll text fs k j := by
  induction es generalizing i with
  | nil => exact ⟨fun h => ⟨i, rfl, h⟩, fun ⟨_, hk, h⟩ => hk ▸ h⟩
  | cons e es ih =>
    constructor
    · rintro ⟨k, hk, h⟩
      obtain ⟨l, hl, h⟩ := ih.1 h
      exact ⟨l, ⟨k, hk, hl⟩, h⟩
    · rintro ⟨l, ⟨k, hk, hl⟩, h⟩
      exact ⟨k, hk, ih.2 ⟨l, hl, h⟩⟩

theorem matches_ofMembers {es : List Expr} :
    (ofMembers es).Matches text i j ↔ MatchesAll text es i j := by
  induction es generalizing i with
  | nil => exact Iff.rfl
  | cons e es ih =>
    cases es with
    | nil => exact matchesAll_singleton.symm
    | cons f es => exact exists_congr fun k => and_congr_right fun _ => ih

theorem matchesAll_members {e : Expr} : MatchesAll text e.members i j ↔ e.Matches text i j := by
  induction e generalizing i with
  | empty => exact Iff.rfl
  | cat first rest _ ihr => exact exists_congr fun k => and_congr_right fun _ => ihr
  | literal | set | look | times | capture | alt => exact matchesAll_singleton

theorem matchesAll_flatMap_members {es : List Expr} :
    MatchesAll text (es.flatMap members) i j ↔ MatchesAll text es i j := by
  induction es generalizing i with
  | nil => exact Iff.rfl
  | cons e es ih =>
    rw [List.flatMap_cons, matchesAll_append]
    exact exists_congr fun k => and_congr matchesAll_members ih

/-- Two literals side by side are one. -/
theorem matches_literal_append {cs ds : List Char} :
    (literal (cs ++ ds)).Matches text i j ↔
      ∃ k, (literal cs).Matches text i k ∧ (literal ds).Matches text k j := by
  constructor
  · rintro ⟨rfl, tail, h⟩
    have hds : text.drop (i + cs.length) = ds ++ tail := by
      rw [← List.drop_drop, ← h, List.append_assoc, List.drop_left]
    refine ⟨i + cs.length, ⟨rfl, ds ++ tail, ?_⟩, ?_, tail, hds.symm⟩
    · rw [← h, List.append_assoc]
    · rw [List.length_append, Nat.add_assoc]
  · rintro ⟨k, ⟨rfl, tail, hc⟩, rfl, tail', hd⟩
    rw [← List.drop_drop, ← hc, List.drop_left] at hd
    refine ⟨by rw [List.length_append, Nat.add_assoc], tail', ?_⟩
    rw [← hc, ← hd, List.append_assoc]

theorem matchesAll_joinLiterals {es : List Expr} :
    MatchesAll text (joinLiterals es) i j ↔ MatchesAll text es i j := by
  fun_induction joinLiterals es generalizing i with
  | case1 => exact Iff.rfl
  | case2 cs es ds fs joined ih =>
    -- The rest starts with a literal of its own, which the first one is joined to.
    rw [joined] at ih
    constructor
    · rintro ⟨l, hl, h⟩
      obtain ⟨k, hk, hl⟩ := matches_literal_append.1 hl
      exact ⟨k, hk, ih.1 ⟨l, hl, h⟩⟩
    · rintro ⟨k, hk, h⟩
      obtain ⟨l, hl, h⟩ := ih.2 h
      exact ⟨l, matches_literal_append.2 ⟨k, hk, hl⟩, h⟩
  | case3 cs es _ ih => exact exists_congr fun k => and_congr_right fun _ => ih
  | case4 e es _ ih => exact exists_congr fun k => and_congr_right fun _ => ih

/-- **A sequence matches what its parts match**, one after the other. -/
theorem matches_seq {es : List Expr} :
    (seq es).Matches text i j ↔ MatchesAll text es i j := by
  rw [seq, matches_ofMembers, matchesAll_joinLiterals, matchesAll_flatMap_members]

end Sequences

/-! ### Expressions held to the start of the text -/

theorem Matches.eq_of_onlyEmpty {text : List Char} {e : Expr} (only : e.onlyEmpty = true)
    {i j : Nat} (h : e.Matches text i j) : i = j := by
  induction e generalizing i j with
  | empty => exact h
  | literal cs =>
    obtain rfl : cs = [] := List.isEmpty_iff.1 only
    exact h.1.symm
  | set s => exact absurd only (by simp [onlyEmpty])
  | look l => exact h.1
  | times body least most greedy ih =>
    obtain ⟨-, honly⟩ := Bool.and_eq_true_iff.1 only
    obtain ⟨n, -, -, h⟩ := h
    exact h.invariant (P := Eq) (fun _ => rfl) fun hk later => (ih honly hk).trans later
  | capture index body ih => exact ih only h
  | cat first rest ihf ihr =>
    obtain ⟨hf, hr⟩ := Bool.and_eq_true_iff.1 only
    obtain ⟨k, h1, h2⟩ := h
    exact (ihf hf h1).trans (ihr hr h2)
  | alt first second ihf ihs =>
    obtain ⟨hf, hs⟩ := Bool.and_eq_true_iff.1 only
    rcases h with h | h
    · exact ihf hf h
    · exact ihs hs h

/-- **An expression that is marked as held to the start** matches there only. -/
theorem Matches.eq_zero {text : List Char} {e : Expr} (held : e.anchored = true) {i j : Nat}
    (le : i ≤ text.length) (h : e.Matches text i j) : i = 0 := by
  induction e generalizing i j with
  | empty | literal | set => exact absurd held (by simp [anchored])
  | look l =>
    obtain rfl : l = .textStart := by simpa [anchored] using held
    exact Look.eq_zero_of_textStart h.2 le
  | times body least most greedy ih =>
    obtain ⟨pos, hbody⟩ : 0 < least ∧ body.anchored = true := by simpa [anchored] using held
    obtain ⟨n, hn, -, h⟩ := h
    -- there is a first copy, and it is held
    obtain ⟨m, rfl⟩ : ∃ m, n = m + 1 := ⟨n - 1, by omega⟩
    obtain ⟨k, hk, -⟩ := h
    exact ih hbody le hk
  | capture index body ih => exact ih held le h
  | cat first rest ihf ihr =>
    obtain ⟨k, hf, hr⟩ := h
    rcases Bool.or_eq_true_iff.1 held with held | held
    · exact ihf held le hf
    · -- the first part is empty, so the second one begins at the same place
      obtain ⟨only, held⟩ := Bool.and_eq_true_iff.1 held
      obtain rfl := hf.eq_of_onlyEmpty only
      exact ihr held le hr
  | alt first second ihf ihs =>
    obtain ⟨hf, hs⟩ := Bool.and_eq_true_iff.1 held
    rcases h with h | h
    · exact ihf hf le h
    · exact ihs hs le h

/-! ### Widths -/

/-- **A match is as long as the shortest one** that was reckoned for the expression, or longer. -/
theorem Matches.add_shortest_le {text : List Char} {e : Expr} {n : Nat}
    (shortest : e.shortest? = some n) {i j : Nat} (h : e.Matches text i j) : i + n ≤ j := by
  induction e generalizing n i j with
  | empty =>
    obtain rfl := Option.some.inj shortest
    exact Nat.le_of_eq h
  | look l =>
    obtain rfl := Option.some.inj shortest
    exact Nat.le_of_eq h.1
  | literal cs =>
    obtain rfl := Option.some.inj shortest
    exact Nat.le_of_eq h.1.symm
  | set s =>
    rw [shortest?] at shortest
    split at shortest
    · cases shortest
    · obtain rfl := Option.some.inj shortest
      exact Nat.le_of_eq h.1.symm
  | times body least most greedy ih =>
    obtain ⟨m, hm, rfl⟩ := Option.map_eq_some_iff.1 shortest
    obtain ⟨rounds, le, -, h⟩ := h
    -- every round is as long as the body at its shortest, and there are `least` rounds or more
    calc i + m * least
        ≤ i + m * rounds := Nat.add_le_add_left (Nat.mul_le_mul_left m le) i
      _ ≤ j := h.add_mul_le fun hk => ih hm hk
  | capture index body ih => exact ih shortest h
  | cat first rest ihf ihr =>
    obtain ⟨m, hm, shortest⟩ := Option.bind_eq_some_iff.1 shortest
    obtain ⟨m', hm', rfl⟩ := Option.map_eq_some_iff.1 shortest
    obtain ⟨k, hf, hr⟩ := h
    calc i + (m + m')
        = i + m + m' := (Nat.add_assoc i m m').symm
      _ ≤ k + m' := Nat.add_le_add_right (ihf hm hf) m'
      _ ≤ j := ihr hm' hr
  | alt first second ihf ihs =>
    obtain ⟨m, hm, shortest⟩ := Option.bind_eq_some_iff.1 shortest
    obtain ⟨m', hm', rfl⟩ := Option.map_eq_some_iff.1 shortest
    rcases h with h | h
    · exact Nat.le_trans (Nat.add_le_add_left (Nat.min_le_left m m') i) (ihf hm h)
    · exact Nat.le_trans (Nat.add_le_add_left (Nat.min_le_right m m') i) (ihs hm' h)

/-- A match of an expression that consumes has a character. -/
theorem Matches.lt_of_consumes {text : List Char} {e : Expr} (consumes : e.consumes = true)
    {i j : Nat} (h : e.Matches text i j) : i < j := by
  obtain ⟨n, shortest, pos⟩ := (Option.any_eq_true _ _).1 consumes
  calc i
      < i + n := Nat.lt_add_of_pos_right (of_decide_eq_true pos)
    _ ≤ j := h.add_shortest_le shortest

/-! ### Numbers of groups -/

/-- The groups of an expression have numbers from one on; the number zero is that of the whole
match. -/
def Numbered : Expr → Prop
  | .times body .. => body.Numbered
  | .capture index body => 0 < index ∧ body.Numbered
  | .cat first rest => first.Numbered ∧ rest.Numbered
  | .alt first second => first.Numbered ∧ second.Numbered
  | _ => True

end Expr

end RuleLexer.Regex
