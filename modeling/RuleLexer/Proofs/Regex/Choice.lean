import RuleLexer.Proofs.Regex.Preference

/-!
# What an expression prefers

`Expr.Matches` tells all stretches of a text that an expression matches. Which of them is found
depends on what the expression prefers: of two choices the first one, of a repetition the most
rounds or the fewest. What stands behind an expression has a say in it as well, since a choice from
which the end cannot be reached does not count.

* `Expr.Joins` — the expression leads from a place to a good one;
* `Expr.Chooses` — the way that an expression prefers from one point to another, given at which
  places it is good to arrive.

The code of an expression puts this into effect (`Expr.Chooses.prefers`): where it is good to arrive
is where control can come to an end from the exit of the code. So the search finds what the
expression prefers (`find?_of_chooses`). What a repetition over single characters prefers is told
without counting rounds: a run of these characters (`Expr.Chooses.run`).
-/

namespace RuleLexer.Regex

namespace Expr

/-! ### The preferred way -/

/-- An expression leads from a place to a good one. -/
def Joins (text : List Char) (e : Expr) (good : Nat → Prop) (i : Nat) : Prop :=
  ∃ j, e.Matches text i j ∧ good j

/-- **The way that an expression prefers** from one point to another, where `good` tells at which
places it is good to arrive. -/
inductive Chooses (text : List Char) : Expr → (Nat → Prop) → Point → Point → Prop
  | empty {good : Nat → Prop} {s : Point} : Chooses text .empty good s s
  | literal {cs : List Char} {good : Nat → Prop} {s : Point} {k : Nat} :
    (Expr.literal cs).Matches text s.place k → Chooses text (.literal cs) good s (s.moved k)
  | set {cs : CharSet} {good : Nat → Prop} {s : Point} {k : Nat} :
    (Expr.set cs).Matches text s.place k → Chooses text (.set cs) good s (s.moved k)
  | look {l : Look} {good : Nat → Prop} {s : Point} : l.HoldsAt text s.place →
    Chooses text (.look l) good s s
  /-- No round is made that need not be made; a greedy repetition stops only if no further round
  leads to a good place. -/
  | stop {body : Expr} {most : Option Nat} {greedy : Bool} {good : Nat → Prop} {s : Point} :
    (greedy = true → most ≠ some 0 →
      ¬ body.Joins text ((times body 0 (most.map (· - 1)) greedy).Joins text good) s.place) →
      Chooses text (.times body 0 most greedy) good s s
  /-- A round is made that must be made. -/
  | must {body : Expr} {least : Nat} {most : Option Nat} {greedy : Bool} {good : Nat → Prop}
    {s r t : Point} :
    Chooses text body ((times body least (most.map (· - 1)) greedy).Joins text good) s r →
      Chooses text (.times body least (most.map (· - 1)) greedy) good r t →
      Chooses text (.times body (least + 1) most greedy) good s t
  /-- A round is made that may be made; a repetition that is not greedy makes one only if it is not
  good to stop. -/
  | may {body : Expr} {most : Option Nat} {greedy : Bool} {good : Nat → Prop} {s r t : Point} :
    most ≠ some 0 → (greedy = false → ¬ good s.place) →
      Chooses text body ((times body 0 (most.map (· - 1)) greedy).Joins text good) s r →
      Chooses text (.times body 0 (most.map (· - 1)) greedy) good r t →
      Chooses text (.times body 0 most greedy) good s t
  /-- A group notes the place before its body and the one behind it. -/
  | capture {index : Nat} {body : Expr} {good : Nat → Prop} {s t : Point} :
    Chooses text body good (s.note (2 * index)) t →
      Chooses text (.capture index body) good s (t.note (2 * index + 1))
  /-- What stands behind the first part decides where it is good to arrive with it. -/
  | cat {first rest : Expr} {good : Nat → Prop} {s r t : Point} :
    Chooses text first (rest.Joins text good) s r → Chooses text rest good r t →
      Chooses text (.cat first rest) good s t
  | first {first second : Expr} {good : Nat → Prop} {s t : Point} :
    Chooses text first good s t → Chooses text (.alt first second) good s t
  /-- The second choice is taken only if the first one leads to no good place. -/
  | second {first second : Expr} {good : Nat → Prop} {s t : Point} :
    ¬ first.Joins text good s.place → Chooses text second good s t →
      Chooses text (.alt first second) good s t

/-- The preferred way is one of the ways. -/
theorem Chooses.captures {text : List Char} {e : Expr} {good : Nat → Prop} {s t : Point}
    (h : e.Chooses text good s t) : e.Captures text s t := by
  induction h with
  | empty => exact .empty
  | literal matched => exact .literal matched
  | set matched => exact .set matched
  | look holds => exact .look holds
  | stop => exact .stop
  | must _ _ ihb ih => exact .must ihb ih
  | may some _ _ _ ihb ih => exact .may some ihb ih
  | capture _ ih => exact .capture ih
  | cat _ _ ihf ihr => exact .cat ihf ihr
  | first _ ih => exact .first ih
  | second _ _ ih => exact .second ih

/-! ### Repetitions without counting -/

section Repetitions

variable {text : List Char} {body : Expr} {greedy : Bool} {good : Nat → Prop} {s : Point}

/-- **What a repetition prefers**: words that its body takes one after the other, up to a place
where no further round can be made, or, if it is not greedy, up to the first place that is good. -/
theorem Chooses.rounds {words : List (List Char)} {rest : List Char}
    (here : text.drop s.place = words.flatten ++ rest)
    (round : ∀ w ∈ words, ∀ (good : Nat → Prop) (s : Point), w <+: text.drop s.place →
      body.Chooses text good s (s.moved (s.place + w.length)))
    (lazy : greedy = false → ∀ before w after, words = before ++ w :: after →
      ¬ good (s.place + before.flatten.length))
    (ends : greedy = true → ∀ j, ¬ body.Matches text (s.place + words.flatten.length) j) :
    (times body 0 none greedy).Chooses text good s (s.moved (s.place + words.flatten.length)) := by
  -- on the words; the first one is a round, behind which the others are left
  induction words generalizing s with
  | nil =>
    refine .stop fun greedy _ => ?_
    rintro ⟨j, matched, -⟩
    exact ends greedy j matched
  | cons w words ih =>
    rw [List.flatten_cons, List.append_assoc] at here
    have first := round w List.mem_cons_self
      ((times body 0 none greedy).Joins text good) s ⟨_, here.symm⟩
    have behind : text.drop (s.place + w.length) = words.flatten ++ rest := by
      rw [← List.drop_drop, here, List.drop_left]
    have length : s.place + (w :: words).flatten.length =
        s.place + w.length + words.flatten.length := by
      rw [List.flatten_cons, List.length_append, Nat.add_assoc]
    rw [length] at ends ⊢
    have more := ih (s := s.moved (s.place + w.length)) behind
      (fun v hv => round v (List.mem_cons_of_mem w hv))
      (fun stays before v after split => by
        have later := lazy stays (w :: before) v after (by rw [split]; rfl)
        rwa [List.flatten_cons, List.length_append, ← Nat.add_assoc] at later) ends
    exact .may nofun (fun stays => lazy stays [] w words rfl) first more

/-- **A repetition over single characters** prefers the longest run of these characters, or, if it
is not greedy, the shortest one behind which it is good to arrive. -/
theorem Chooses.run {cs : CharSet} {run rest : List Char}
    (here : text.drop s.place = run ++ rest) (all : ∀ c ∈ run, cs.contains c = true)
    (lazy : greedy = false → ∀ m < run.length, ¬ good (s.place + m))
    (ends : greedy = true → ∀ c ∈ rest.head?, cs.contains c = false) :
    (times (.set cs) 0 none greedy).Chooses text good s (s.moved (s.place + run.length)) := by
  have singles (run : List Char) : (run.map ([·])).flatten = run := by
    rw [← List.flatMap_def, List.flatMap_singleton']
  have split : text.drop s.place = (run.map ([·])).flatten ++ rest := by rwa [singles]
  rw [← singles run]
  refine Chooses.rounds split ?_ ?_ ?_
  · -- every character of the run is a round
    intro w hw good s hprefix
    obtain ⟨c, hc, rfl⟩ := List.mem_map.1 hw
    obtain ⟨tail, htail⟩ := hprefix
    have at_s : text[s.place]? = some c := by
      rw [← List.head?_drop, ← htail]
      rfl
    exact .set ⟨rfl, c, at_s, all c hc⟩
  · intro stays before w after split
    obtain ⟨run₁, run₂, rfl, rfl, hafter⟩ := List.map_eq_append_iff.1 split
    obtain ⟨c, run₃, rfl, -, -⟩ := List.map_eq_cons_iff.1 hafter
    rw [singles]
    refine lazy stays run₁.length ?_
    rw [List.length_append, List.length_cons]
    omega
  · intro greedy j
    rw [singles]
    rintro ⟨-, c, hc, contains⟩
    have head : c ∈ rest.head? := by
      rwa [← List.head?_drop, ← List.drop_drop, here, List.drop_left] at hc
    rw [ends greedy c head] at contains
    cases contains

/-- One round or more over single characters. -/
theorem Chooses.run_plus {cs : CharSet} {c : Char} {run rest : List Char}
    (here : text.drop s.place = c :: run ++ rest) (all : ∀ d ∈ c :: run, cs.contains d = true)
    (ends : ∀ d ∈ rest.head?, cs.contains d = false) :
    (times (.set cs) 1 none true).Chooses text good s (s.moved (s.place + (c :: run).length)) := by
  have at_s : text[s.place]? = some c := by
    rw [← List.head?_drop, here]
    rfl
  have behind : text.drop (s.place + 1) = run ++ rest := by
    rw [← List.drop_drop, here]
    rfl
  have first : (Expr.set cs).Chooses text ((times (.set cs) 0 none true).Joins text good) s
      (s.moved (s.place + 1)) := .set ⟨rfl, c, at_s, all c List.mem_cons_self⟩
  have more : (times (.set cs) 0 none true).Chooses text good (s.moved (s.place + 1))
      (s.moved (s.place + 1 + run.length)) :=
    Chooses.run (s := s.moved (s.place + 1)) behind
      (fun d hd => all d (List.mem_cons_of_mem c hd)) nofun fun _ => ends
  rw [List.length_cons, Nat.add_comm run.length, ← Nat.add_assoc]
  exact .must first more

end Repetitions

/-! ### Code round by round

The code of a repetition begins with that of one round, and what follows is the code of a repetition
with one round less. -/

section Rounds

variable {body : Expr} {greedy : Bool} {base exit least most : Nat}

theorem add_succ_mul (base i width : Nat) : base + (i + 1) * width = base + width + i * width := by
  rw [Nat.succ_mul, Nat.add_comm (i * width), Nat.add_assoc]

/-- The copies of a body behind the first one. -/
theorem copies_succ (n : Nat) :
    ((List.range (n + 1)).flatMap fun i =>
      body.code (base + i * body.width) (base + (i + 1) * body.width)) =
    body.code base (base + body.width) ++ (List.range n).flatMap fun i =>
      body.code (base + body.width + i * body.width)
        (base + body.width + (i + 1) * body.width) := by
  rw [List.range_succ_eq_map, List.flatMap_cons, List.flatMap_map]
  simp only [Nat.succ_eq_add_one, add_succ_mul, Nat.zero_mul, Nat.zero_add, Nat.one_mul,
    Nat.add_zero]

theorem code_times_succ_some :
    (times body (least + 1) (some most) greedy).code base exit =
      body.code base (base + body.width) ++
        (times body least (some (most - 1)) greedy).code (base + body.width) exit := by
  have fewer : most - (least + 1) = most - 1 - least := by omega
  have start := add_succ_mul base least body.width
  simp only [code, copies_succ, start, fewer, List.append_assoc]

theorem code_times_succ_none :
    (times body (least + 2) none greedy).code base exit =
      body.code base (base + body.width) ++
        (times body (least + 1) none greedy).code (base + body.width) exit := by
  have start := add_succ_mul base least body.width
  simp only [code, copies_succ, start, List.append_assoc]

theorem code_times_zero_some :
    (times body 0 (some (most + 1)) greedy).code base exit =
      .prefer greedy (base + 1) exit :: (body.code (base + 1) (base + 1 + body.width) ++
        (times body 0 (some most) greedy).code (base + 1 + body.width) exit) := by
  have next (i : Nat) : base + (i + 1) * (body.width + 1) =
      base + 1 + body.width + i * (body.width + 1) := by
    rw [add_succ_mul, Nat.add_comm body.width, ← Nat.add_assoc]
  simp only [code, Nat.zero_mul, Nat.add_zero, Nat.sub_zero, List.range_zero, List.flatMap_nil,
    List.nil_append, List.range_succ_eq_map, List.flatMap_cons, List.flatMap_map,
    Nat.succ_eq_add_one, next, List.cons_append, List.append_assoc]

end Rounds

end Expr

namespace Program

variable {p : Program} {text : List Char}

/-- **An expression is laid out** from one address to another: as its code, or, if it is a
repetition of any number of rounds, as a way into a loop whose split stands elsewhere. -/
inductive Laid (p : Program) : Expr → Nat → Nat → Prop
  | code {e : Expr} {base exit : Nat} : p.Has base (e.code base exit) → Laid p e base exit
  | loop {body : Expr} {greedy : Bool} {x back base exit : Nat} :
    p.instrs[base]? = some (.prefer greedy x exit) →
      p.instrs[back]? = some (.prefer greedy x exit) → p.Has x (body.code x back) →
      Laid p (.times body 0 none greedy) base exit

section Laid

variable {e body : Expr} {greedy : Bool} {base exit least : Nat} {most : Option Nat}

/-- A repetition of which a round must be made is a round and a repetition. -/
theorem Laid.must (h : p.Laid (.times body (least + 1) most greedy) base exit) :
    ∃ back, p.Laid body base back ∧
      p.Laid (.times body least (most.map (· - 1)) greedy) back exit := by
  obtain ⟨has⟩ := h
  cases most with
  | some most =>
    rw [Expr.code_times_succ_some] at has
    have behind := has.right
    rw [body.length_code] at behind
    exact ⟨base + body.width, .code has.left, .code behind⟩
  | none =>
    cases least with
    | zero =>
      -- the split behind the round leads back to it
      rw [Expr.code] at has
      have here : p.Has base (body.code base (base + body.width) ++
          [.prefer greedy base exit]) := by
        simpa using has
      have behind := here.right
      rw [body.length_code] at behind
      exact ⟨base + body.width, .code here.left, .loop behind.head behind.head here.left⟩
    | succ least =>
      rw [Expr.code_times_succ_none] at has
      have behind := has.right
      rw [body.length_code] at behind
      exact ⟨base + body.width, .code has.left, .code behind⟩

/-- A repetition of which a round may be made is a split between the exit and a round, which leads
to a repetition again. -/
theorem Laid.may (h : p.Laid (.times body 0 most greedy) base exit) (some : most ≠ some 0) :
    ∃ x back, p.instrs[base]? = .some (.prefer greedy x exit) ∧ p.Laid body x back ∧
      p.Laid (.times body 0 (most.map (· - 1)) greedy) back exit := by
  rcases h with has | ⟨at_base, at_back, has⟩
  · rcases most with _ | _ | most
    · by_cases consumes : body.consumes
      · rw [Expr.code, if_pos consumes] at has
        exact ⟨base + 1, base, has.head, .code has.tail, .loop has.head has.head has.tail⟩
      · rw [Expr.code, if_neg consumes] at has
        have back := has.tail.right
        rw [body.length_code] at back
        exact ⟨base + 1, base + 1 + body.width, has.head, .code has.tail.left,
          .loop back.head back.head has.tail.left⟩
    · exact absurd rfl some
    · rw [Expr.code_times_zero_some] at has
      have behind := has.tail.right
      rw [body.length_code] at behind
      exact ⟨base + 1, base + 1 + body.width, has.head, .code has.tail.left, .code behind⟩
  · exact ⟨_, _, at_base, .code has, .loop at_back at_back has⟩

/-- A repetition of which no round may be made only goes to the exit. -/
theorem Laid.exhausted (h : p.Laid (.times body 0 (some 0) greedy) base exit) :
    p.instrs[base]? = some (.jump exit) := by
  obtain ⟨has⟩ := h
  have here : p.Has base [.jump exit] := by
    simpa [Expr.code] using has
  exact here.head

/-- An expression that is laid out is a block for what it matches. -/
theorem Laid.block (h : p.Laid e base exit) : p.Block text base exit (e.Matches text) := by
  cases h with
  | code has => exact block_code has
  | @loop body _ x back _ _ at_base at_back has =>
    -- a round is entered from outside of the loop
    have round : p.Block text x back (body.Matches text) := block_code has
    have plus := block_plus round at_back
    refine (Block.split at_base plus (Block.refl p text exit)).congr fun i j => ⟨?_, ?_⟩
    · rintro (⟨n, rounds⟩ | rfl)
      · exact ⟨n + 1, Nat.zero_le _, fun m hm => (Option.not_mem_none m hm).elim, rounds⟩
      · exact ⟨0, Nat.zero_le _, fun m hm => (Option.not_mem_none m hm).elim, rfl⟩
    · rintro ⟨n, -, -, rounds⟩
      cases n with
      | zero => exact Or.inr rounds
      | succ n => exact Or.inl ⟨n, rounds⟩

/-- It is good to arrive where control can come to an end. -/
theorem Laid.joins_iff (h : p.Laid e base exit) {good : Nat → Prop}
    (can : ∀ k, good k ↔ p.CanEnd text exit k) (i : Nat) :
    e.Joins text good i ↔ p.CanEnd text base i := by
  constructor
  · rintro ⟨k, matched, hk⟩
    obtain ⟨m, j, ends⟩ := (can k).1 hk
    obtain ⟨n, ends⟩ := h.block.complete matched ends
    exact ⟨n, j, ends⟩
  · rintro ⟨n, j, ends⟩
    obtain ⟨k, m, -, matched, ends⟩ := h.block.sound ends
    exact ⟨k, matched, (can k).2 ⟨m, j, ends⟩⟩

end Laid

/-! ### Code does what the expression prefers -/

section Prefer

variable {n a b x y : Nat} {s t : Point} {greedy : Bool}

/-! Where there is no split, there is one way on. -/

theorem Prefers.jump (at_a : p.instrs[a]? = some (.jump b)) (h : p.Prefers text n b s t) :
    p.Prefers text (n + 1) a s t := .step at_a (fun _ _ => Instr.noConfusion) ⟨rfl, rfl⟩ h

theorem Prefers.save {slot : Nat} (at_a : p.instrs[a]? = some (.save slot b))
    (h : p.Prefers text n b (s.note slot) t) : p.Prefers text (n + 1) a s t :=
  .step at_a (fun _ _ => Instr.noConfusion) ⟨rfl, rfl⟩ h

theorem Prefers.look {l : Look} (at_a : p.instrs[a]? = some (.look l b))
    (holds : l.HoldsAt text s.place) (h : p.Prefers text n b s t) : p.Prefers text (n + 1) a s t :=
  .step at_a (fun _ _ => Instr.noConfusion) ⟨rfl, holds, rfl⟩ h

theorem Prefers.char {cs : CharSet} {k : Nat} (at_a : p.instrs[a]? = some (.char cs b))
    (matched : (Expr.set cs).Matches text s.place k) (h : p.Prefers text n b (s.moved k) t) :
    p.Prefers text (n + 1) a s t :=
  .step at_a (fun _ _ => Instr.noConfusion) ⟨rfl, k, matched, rfl⟩ h

/-- A split goes inside unless it prefers the outside, from where control can come to an end. -/
theorem Prefers.inside (at_a : p.instrs[a]? = some (.prefer greedy x y))
    (dead : greedy = false → ¬ p.CanEnd text y s.place) (h : p.Prefers text n x s t) :
    p.Prefers text (n + 1) a s t := by
  cases greedy with
  | true => exact .first at_a h
  | false => exact .second at_a (dead rfl) h

theorem Prefers.outside (at_a : p.instrs[a]? = some (.prefer greedy x y))
    (dead : greedy = true → ¬ p.CanEnd text x s.place) (h : p.Prefers text n y s t) :
    p.Prefers text (n + 1) a s t := by
  cases greedy with
  | true => exact .second at_a (dead rfl) h
  | false => exact .first at_a h

end Prefer

theorem prefers_literalCode {cs : List Char} {base exit m k : Nat} {s u : Point}
    (has : p.Has base (Expr.literalCode base exit cs))
    (matched : (Expr.literal cs).Matches text s.place k)
    (rest : p.Prefers text m exit (s.moved k) u) : ∃ n, p.Prefers text n base s u := by
  fun_induction Expr.literalCode base exit cs generalizing s m with
  | case1 =>
    obtain ⟨rfl, -⟩ := matched
    exact ⟨m + 1, .jump has.head rest⟩
  | case2 => exact ⟨m + 1, .char has.head (matches_char.1 matched) rest⟩
  | case3 base c cs ne ih =>
    obtain ⟨i, first, later⟩ := (@Expr.matches_literal_append text _ _ [c] cs).1 matched
    obtain ⟨n, prefers⟩ := ih (s := s.moved i) has.tail later rest
    exact ⟨n + 1, .char has.head (matches_char.1 first) prefers⟩

end Program

open Program (Laid Prefers CanEnd)

section Find

variable {text : List Char} {e : Expr} {good : Nat → Prop} {s t u : Point}

/-- **An expression that is laid out does what the expression prefers**, good places being those
from which control can come to an end at the exit. -/
theorem Expr.Chooses.prefers {p : Program} (h : e.Chooses text good s t) {base exit m : Nat}
    (laid : p.Laid e base exit) (can : ∀ k, good k ↔ p.CanEnd text exit k)
    (rest : p.Prefers text m exit t u) : ∃ n, p.Prefers text n base s u := by
  -- along the preferred way, from its end back to its beginning
  induction h generalizing base exit m with
  | empty =>
    obtain ⟨has⟩ := laid
    exact ⟨m + 1, .jump has.head rest⟩
  | literal matched =>
    obtain ⟨has⟩ := laid
    exact Program.prefers_literalCode has matched rest
  | set matched =>
    obtain ⟨has⟩ := laid
    exact ⟨m + 1, .char has.head matched rest⟩
  | look holds =>
    obtain ⟨has⟩ := laid
    exact ⟨m + 1, .look has.head holds rest⟩
  | @stop body most greedy good s ends =>
    by_cases none_left : most = some 0
    · subst none_left
      exact ⟨m + 1, .jump laid.exhausted rest⟩
    · obtain ⟨x, back, at_base, round, again⟩ := laid.may none_left
      -- could a round come to an end, it would lead to a good place
      refine ⟨m + 1, .outside at_base (fun greedy can_round => ?_) rest⟩
      exact ends greedy none_left ((round.joins_iff (again.joins_iff can) s.place).2 can_round)
  | must _ _ ihb ih =>
    -- behind the round, a repetition with one round less is laid out
    obtain ⟨back, round, again⟩ := laid.must
    obtain ⟨n, prefers⟩ := ih again can rest
    exact ihb round (again.joins_iff can) prefers
  | may some stays _ _ ihb ih =>
    obtain ⟨x, back, at_base, round, again⟩ := laid.may some
    obtain ⟨n, prefers⟩ := ih again can rest
    obtain ⟨n', prefers⟩ := ihb round (again.joins_iff can) prefers
    exact ⟨n' + 1, .inside at_base (fun lazy ends => stays lazy ((can _).2 ends)) prefers⟩
  | @capture index body good s t _ ih =>
    obtain ⟨has⟩ := laid
    have last := has.tail.right
    rw [Expr.length_code] at last
    have closing : p.Prefers text (m + 1) (base + 1 + body.width) t u :=
      .save last.head rest
    -- noting the place behind the body does not decide whether control can come to an end
    have can' (k : Nat) : good k ↔ p.CanEnd text (base + 1 + body.width) k := by
      rw [can]
      refine ⟨fun h => h.step last.head ⟨rfl, rfl⟩, ?_⟩
      rintro ⟨n, j, ends⟩
      obtain ⟨n', b, i, -, ⟨rfl, rfl⟩, behind⟩ :=
        (Program.ends_iff last.head Instr.noConfusion).1 ends
      exact ⟨n', j, behind⟩
    obtain ⟨n, prefers⟩ := ih (.code has.tail.left) can' closing
    exact ⟨n + 1, .save has.head prefers⟩
  | @cat first rest' good s r t _ _ ihf ihr =>
    obtain ⟨has⟩ := laid
    have behind := has.right
    rw [Expr.length_code] at behind
    -- behind the first part, it is good to arrive where the second one leads on
    have second : p.Laid rest' _ exit := .code behind
    obtain ⟨n, prefers⟩ := ihr second can rest
    exact ihf (.code has.left) (second.joins_iff can) prefers
  | first _ ih =>
    obtain ⟨has⟩ := laid
    obtain ⟨n, prefers⟩ := ih (.code has.tail.left) can rest
    exact ⟨n + 1, .first has.head prefers⟩
  | @second first second good s t none_good _ ih =>
    obtain ⟨has⟩ := laid
    have behind := has.tail.right
    rw [Expr.length_code] at behind
    have one : p.Laid first _ exit := .code has.tail.left
    obtain ⟨n, prefers⟩ := ih (.code behind) can rest
    exact ⟨n + 1, .second has.head (fun ends => none_good ((one.joins_iff can _).2 ends)) prefers⟩

/-- What an expression prefers from the start of a text is preferred by its program. -/
theorem Expr.Chooses.search? (h : e.Chooses text (fun _ => True) (e.opening 0) t) :
    e.program.search? text = some (t.note 1).slots := by
  have has := Program.has_program e
  have last := has.tail.right
  rw [e.length_code] at last
  have accept := last.tail.head
  rw [show 1 + e.width + 1 = 2 + e.width by omega] at accept
  -- behind the expression, control comes to an end wherever it is
  have closing : e.program.Prefers text 1 (1 + e.width) t (t.note 1) :=
    .save last.head (.accept accept)
  have can (k : Nat) : True ↔ e.program.CanEnd text (1 + e.width) k :=
    ⟨fun _ => ⟨1, k, .step last.head ⟨rfl, rfl⟩ (.accept accept)⟩, fun _ => trivial⟩
  obtain ⟨n, prefers⟩ := h.prefers (.code has.tail.left) can closing
  exact Program.search?_of_prefers (.save has.head prefers)

/-- **What is found at the start of a text** is what the expression prefers from there. -/
theorem find?_of_chooses (numbered : e.Numbered)
    (h : e.Chooses text (fun _ => True) (e.opening 0) t) :
    find? ⟨e.program, e.groups⟩ text =
      some ⟨⟨0, t.place⟩, (List.range e.groups).map fun k => spanAt? t.slots (k + 1)⟩ := by
  have groups : ((List.range e.groups).map fun k => spanAt? (t.note 1).slots (k + 1)) =
      (List.range e.groups).map fun k => spanAt? t.slots (k + 1) := by
    refine List.map_congr_left fun k _ => spanAt?_note ?_
    omega
  simp only [find?, h.search?, Option.bind_eq_bind, Option.bind_some,
    h.captures.span_whole numbered, groups]
  rfl

end Find

end RuleLexer.Regex
