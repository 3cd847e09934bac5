import RuleLexer.Proofs.Regex.Language

/-!
# Code does what it was laid out for

An instruction passes control on from one place of a text to the same place or the next one, and a
program has come to an end when control is at an instruction that ends a match. `Program.Ends` tells
of the ways in which that happens, without the slots, the preferences and the order in which a
search follows them.

A part of a program works as a *block* for a relation between places when control that enters it at
its first address is bound to leave it at its exit, having moved on by the relation
(`Program.Block`). Blocks are put together as code is: one after the other, as the two ways of a
split, and as the body of a loop. The main statement, `Program.block_code`, says that the code of an
expression is a block for what the expression matches, wherever it stands in a program.
-/

namespace RuleLexer.Regex

/-! ### Passing control on -/

/-- An instruction passes control from the place `i` on to the address `b` and the place `j`. -/
def Instr.Passes (text : List Char) (i : Nat) : Instr → Nat → Nat → Prop
  | .char s next, b, j => b = next ∧ j = i + 1 ∧ ∃ c, text[i]? = some c ∧ s.contains c = true
  | .look l next, b, j => b = next ∧ j = i ∧ l.HoldsAt text i
  | .split first second, b, j => (b = first ∨ b = second) ∧ j = i
  | .save _ next, b, j => b = next ∧ j = i
  | .jump next, b, j => b = next ∧ j = i
  | .accept, _, _ => False

theorem Instr.passes_prefer {text : List Char} {greedy : Bool} {x y i b j : Nat} :
    (Instr.prefer greedy x y).Passes text i b j ↔ (b = x ∨ b = y) ∧ j = i := by
  cases greedy with
  | true => exact Iff.rfl
  | false => exact and_congr_left fun _ => or_comm

theorem Instr.prefer_ne_accept {greedy : Bool} {x y : Nat} : Instr.prefer greedy x y ≠ .accept := by
  cases greedy <;> exact Instr.noConfusion

namespace Program

/-- **Coming to an end**: control gets from the address `a` at the place `i` to the end of a match
at the place `j` in `n` steps. -/
inductive Ends (p : Program) (text : List Char) : Nat → Nat → Nat → Nat → Prop
  | accept {a i : Nat} : p.instrs[a]? = some .accept → Ends p text 0 a i i
  | step {n a i b k j : Nat} {instr : Instr} :
    p.instrs[a]? = some instr → instr.Passes text i b k → Ends p text n b k j →
      Ends p text (n + 1) a i j

section Blocks

variable {p : Program} {text : List Char}

/-- Control that is at an instruction goes on by it. -/
theorem ends_iff {n a i j : Nat} {instr : Instr} (at_a : p.instrs[a]? = some instr)
    (ne : instr ≠ .accept) :
    p.Ends text n a i j ↔
      ∃ m b k, n = m + 1 ∧ instr.Passes text i b k ∧ p.Ends text m b k j := by
  constructor
  · rintro (accept | ⟨at_a', pass, h⟩)
    · rw [at_a] at accept
      exact absurd (Option.some.inj accept) ne
    · rw [at_a] at at_a'
      obtain rfl := Option.some.inj at_a'
      exact ⟨_, _, _, rfl, pass, h⟩
  · rintro ⟨m, b, k, rfl, pass, h⟩
    exact .step at_a pass h

/-! ### Blocks -/

/-- **A block**: control that enters it at `base` leaves it at `exit`, having moved on by the
relation, and all moves of the relation are possible. -/
structure Block (p : Program) (text : List Char) (base exit : Nat) (R : Nat → Nat → Prop) :
    Prop where
  /-- Whoever comes to an end from `base` gets through `exit`. -/
  sound : ∀ {n i j : Nat}, p.Ends text n base i j →
    ∃ k m, m ≤ n ∧ R i k ∧ p.Ends text m exit k j
  /-- Whoever comes to an end from `exit` can do so from `base`. -/
  complete : ∀ {m i k j : Nat}, R i k → p.Ends text m exit k j → ∃ n, p.Ends text n base i j

namespace Block

variable {a base mid exit : Nat} {R S : Nat → Nat → Prop}

theorem congr (h : p.Block text base exit R) (iff : ∀ i j, R i j ↔ S i j) :
    p.Block text base exit S where
  sound ends :=
    let ⟨k, m, le, hR, rest⟩ := h.sound ends
    ⟨k, m, le, (iff _ _).1 hR, rest⟩
  complete hS rest := h.complete ((iff _ _).2 hS) rest

/-- A block without instructions. -/
theorem refl (p : Program) (text : List Char) (a : Nat) : p.Block text a a Eq where
  sound ends := ⟨_, _, Nat.le_refl _, rfl, ends⟩
  complete := by
    rintro m i k j rfl rest
    exact ⟨m, rest⟩

/-- One block after the other. -/
theorem trans (first : p.Block text base mid R) (second : p.Block text mid exit S) :
    p.Block text base exit fun i j => ∃ k, R i k ∧ S k j where
  sound ends := by
    obtain ⟨k, m, le, hR, ends⟩ := first.sound ends
    obtain ⟨l, m', le', hS, ends⟩ := second.sound ends
    exact ⟨l, m', Nat.le_trans le' le, ⟨k, hR, hS⟩, ends⟩
  complete := by
    rintro m i l j ⟨k, hR, hS⟩ ends
    obtain ⟨n, ends⟩ := second.complete hS ends
    exact first.complete hR ends

/-- A block of one instruction that only goes to the exit. -/
theorem single {instr : Instr} (at_a : p.instrs[a]? = some instr) (ne : instr ≠ .accept)
    (passes : ∀ i b j, instr.Passes text i b j ↔ b = exit ∧ R i j) : p.Block text a exit R where
  sound ends := by
    obtain ⟨m, b, k, rfl, pass, rest⟩ := (ends_iff at_a ne).1 ends
    obtain ⟨rfl, hR⟩ := (passes _ _ _).1 pass
    exact ⟨k, m, Nat.le_succ m, hR, rest⟩
  complete hR ends := ⟨_, .step at_a ((passes _ _ _).2 ⟨rfl, hR⟩) ends⟩

/-- Two blocks behind a split. -/
theorem split {greedy : Bool} {x y : Nat} (at_a : p.instrs[a]? = some (.prefer greedy x y))
    (first : p.Block text x exit R) (second : p.Block text y exit S) :
    p.Block text a exit fun i j => R i j ∨ S i j where
  sound ends := by
    obtain ⟨m, b, k, rfl, pass, rest⟩ := (ends_iff at_a Instr.prefer_ne_accept).1 ends
    obtain ⟨rfl | rfl, rfl⟩ := Instr.passes_prefer.1 pass
    · obtain ⟨l, m', le, hR, rest⟩ := first.sound rest
      exact ⟨l, m', Nat.le_succ_of_le le, Or.inl hR, rest⟩
    · obtain ⟨l, m', le, hS, rest⟩ := second.sound rest
      exact ⟨l, m', Nat.le_succ_of_le le, Or.inr hS, rest⟩
  complete := by
    rintro m i k j (hR | hS) ends
    · obtain ⟨n, ends⟩ := first.complete hR ends
      exact ⟨n + 1, .step at_a (Instr.passes_prefer.2 ⟨Or.inl rfl, rfl⟩) ends⟩
    · obtain ⟨n, ends⟩ := second.complete hS ends
      exact ⟨n + 1, .step at_a (Instr.passes_prefer.2 ⟨Or.inr rfl, rfl⟩) ends⟩

/-- **A loop.** A split either enters a block that leads back to it or goes to the exit. -/
theorem loop {greedy : Bool} {x : Nat} (at_a : p.instrs[a]? = some (.prefer greedy x exit))
    (body : p.Block text x a R) :
    p.Block text a exit fun i j => ∃ n, Iterated R n i j where
  sound := by
    -- Every round takes a step at the split, so that the number of steps left gets smaller.
    intro n
    induction n using Nat.strongRecOn with
    | ind n ih =>
      intro i j ends
      obtain ⟨m, b, k, rfl, pass, rest⟩ := (ends_iff at_a Instr.prefer_ne_accept).1 ends
      obtain ⟨rfl | rfl, rfl⟩ := Instr.passes_prefer.1 pass
      · obtain ⟨l, m', le, hR, rest⟩ := body.sound rest
        obtain ⟨o, m'', le', ⟨rounds, hrounds⟩, rest⟩ := ih m' (Nat.lt_succ_of_le le) rest
        exact ⟨o, m'', by omega, ⟨rounds + 1, l, hR, hrounds⟩, rest⟩
      · exact ⟨k, m, Nat.le_succ m, ⟨0, rfl⟩, rest⟩
  complete := by
    rintro m i k j ⟨rounds, h⟩ ends
    induction rounds generalizing i with
    | zero =>
      obtain rfl : i = k := h
      exact ⟨m + 1, .step at_a (Instr.passes_prefer.2 ⟨Or.inr rfl, rfl⟩) ends⟩
    | succ rounds ih =>
      obtain ⟨l, hR, h⟩ := h
      obtain ⟨n, ends⟩ := ih h
      obtain ⟨n, ends⟩ := body.complete hR ends
      exact ⟨n + 1, .step at_a (Instr.passes_prefer.2 ⟨Or.inl rfl, rfl⟩) ends⟩

end Block

end Blocks

/-! ### Code in a program -/

theorem length_copies {f : Nat → List Instr} {w : Nat} (len : ∀ i, (f i).length = w) (n : Nat) :
    ((List.range n).flatMap f).length = n * w := by
  induction n with
  | zero => rw [List.range_zero, List.flatMap_nil, List.length_nil, Nat.zero_mul]
  | succ n ih =>
    rw [List.range_succ, List.flatMap_append, List.flatMap_singleton, List.length_append, ih, len,
      Nat.succ_mul]

/-- Some code stands in a program from the address `base` on. -/
def Has (p : Program) (base : Nat) (code : List Instr) : Prop := code <+: p.instrs.toList.drop base

namespace Has

variable {p : Program} {base : Nat} {instr : Instr} {code code' : List Instr}

theorem left (h : p.Has base (code ++ code')) : p.Has base code :=
  (List.prefix_append code code').trans h

theorem right (h : p.Has base (code ++ code')) : p.Has (base + code.length) code' := by
  obtain ⟨tail, ht⟩ := h
  refine ⟨tail, ?_⟩
  rw [← List.drop_drop, ← ht, List.append_assoc, List.drop_left]

theorem head (h : p.Has base (instr :: code)) : p.instrs[base]? = some instr := by
  obtain ⟨tail, ht⟩ := h
  have first : (p.instrs.toList.drop base)[0]? = some instr := by rw [← ht]; rfl
  rwa [List.getElem?_drop, Nat.add_zero, Array.getElem?_toList] at first

theorem tail (h : p.Has base (instr :: code)) : p.Has (base + 1) code := by
  have h : p.Has base ([instr] ++ code) := h
  exact h.right

/-- A copy among copies of the same length. -/
theorem copy {f : Nat → List Instr} {w n : Nat} (len : ∀ i, (f i).length = w)
    (h : p.Has base ((List.range n).flatMap f)) {i : Nat} (lt : i < n) :
    p.Has (base + i * w) (f i) := by
  induction n with
  | zero => exact absurd lt (Nat.not_lt_zero i)
  | succ n ih =>
    rw [List.range_succ, List.flatMap_append, List.flatMap_singleton] at h
    rcases Nat.lt_succ_iff_lt_or_eq.1 lt with lt | rfl
    · exact ih h.left lt
    · rw [← length_copies len i]
      exact h.right

end Has

end Program

namespace Expr

theorem length_literalCode (base exit : Nat) (cs : List Char) :
    (literalCode base exit cs).length = max 1 cs.length := by
  fun_induction literalCode base exit cs with
  | case1 | case2 => rfl
  | case3 base c cs ne ih =>
    have pos := List.length_pos_iff.2 ne
    rw [List.length_cons, List.length_cons, ih]
    omega

/-- The code of an expression has the size that was reckoned for it. -/
theorem length_code (e : Expr) (base exit : Nat) : (e.code base exit).length = e.width := by
  induction e generalizing base exit with
  | empty | set | look => rfl
  | literal cs => exact length_literalCode base exit cs
  | times body least most greedy ih =>
    -- copies of the body have one size, wherever they are put
    have copies (n : Nat) (f g : Nat → Nat) :
        ((List.range n).flatMap fun i => body.code (f i) (g i)).length = n * body.width :=
      Program.length_copies (fun i => ih (f i) (g i)) n
    cases most with
    | some most =>
      -- an optional copy has one more instruction, which chooses whether to enter it
      have optional (n : Nat) (f g h : Nat → Nat) :
          ((List.range n).flatMap fun i =>
            .prefer greedy (h i) exit :: body.code (f i) (g i)).length = n * (body.width + 1) :=
        Program.length_copies (fun i => by rw [List.length_cons, ih]) n
      simp only [code, width, List.length_append, List.length_singleton, copies, optional]
      omega
    | none =>
      cases least with
      | zero =>
        by_cases consumes : body.consumes
        · simp only [code, width, if_pos consumes, List.length_cons, ih]
        · simp only [code, width, if_neg consumes, List.length_cons, List.length_append, ih]
          rfl
      | succ least =>
        simp only [code, width, List.length_append, List.length_cons, List.length_nil, copies, ih]
  | capture index body ih =>
    simp only [code, width, List.length_cons, List.length_append, ih]
    rfl
  | cat first rest ihf ihr => rw [code, width, List.length_append, ihf, ihr]
  | alt first second ihf ihs =>
    rw [code, width, List.length_cons, List.length_append, ihf, ihs]

end Expr

namespace Program

variable {p : Program} {text : List Char}

/-! ### The code of an expression -/

/-- Blocks of the same size, one after the other. -/
theorem block_copies {base w n : Nat} {R : Nat → Nat → Prop}
    (copy : ∀ i < n, p.Block text (base + i * w) (base + (i + 1) * w) R) :
    p.Block text base (base + n * w) (Iterated R n) := by
  induction n with
  | zero =>
    rw [Nat.zero_mul]
    exact Block.refl p text base
  | succ n ih =>
    have before := ih fun i lt => copy i (Nat.lt_succ_of_lt lt)
    refine (before.trans (copy n (Nat.lt_succ_self n))).congr fun i j => ?_
    rw [iterated_add]
    exact exists_congr fun k => and_congr_right fun _ => iterated_one.symm

/-- Blocks of the same size, each behind a split that can leave them all. -/
theorem block_optional {base exit w n : Nat} {greedy : Bool} {R : Nat → Nat → Prop}
    (fork : ∀ i < n, p.instrs[base + i * (w + 1)]? =
      some (.prefer greedy (base + i * (w + 1) + 1) exit))
    (copy : ∀ i < n, p.Block text (base + i * (w + 1) + 1) (base + (i + 1) * (w + 1)) R)
    (last : p.instrs[base + n * (w + 1)]? = some (.jump exit)) :
    p.Block text base exit fun i j => ∃ m ≤ n, Iterated R m i j := by
  -- Backwards from the last copy: from the copy `n - m` on, up to `m` rounds are possible.
  have rounds (m : Nat) (le : m ≤ n) : p.Block text (base + (n - m) * (w + 1)) exit
      fun i j => ∃ l ≤ m, Iterated R l i j := by
    induction m with
    | zero =>
      refine (Block.single last Instr.noConfusion fun i b j => Iff.rfl).congr fun i j => ?_
      constructor
      · rintro rfl
        exact ⟨0, Nat.le_refl 0, rfl⟩
      · rintro ⟨l, hl, h⟩
        obtain rfl := Nat.le_zero.1 hl
        exact h.symm
    | succ m ih =>
      have lt : n - (m + 1) < n := by omega
      have next : n - (m + 1) + 1 = n - m := by omega
      have body := copy _ lt
      rw [next] at body
      have more := body.trans (ih (Nat.le_of_succ_le le))
      refine (Block.split (fork _ lt) more (Block.refl p text exit)).congr fun i j => ?_
      constructor
      · rintro (⟨k, hR, l, hl, h⟩ | rfl)
        · exact ⟨l + 1, Nat.succ_le_succ hl, k, hR, h⟩
        · exact ⟨0, Nat.zero_le _, rfl⟩
      · rintro ⟨l, hl, h⟩
        cases l with
        | zero => exact Or.inr h
        | succ l =>
          obtain ⟨k, hR, h⟩ := h
          exact Or.inl ⟨k, hR, l, Nat.le_of_succ_le_succ hl, h⟩
  have all := rounds n (Nat.le_refl n)
  rwa [Nat.sub_self, Nat.zero_mul] at all

/-- A loop around a block that is entered before its split is reached. -/
theorem block_plus {base mid exit : Nat} {greedy : Bool} {R : Nat → Nat → Prop}
    (body : p.Block text base mid R) (fork : p.instrs[mid]? = some (.prefer greedy base exit)) :
    p.Block text base exit fun i j => ∃ n, Iterated R (n + 1) i j := by
  refine (body.trans (Block.loop fork body)).congr fun i j => ?_
  constructor
  · rintro ⟨k, hR, n, h⟩
    exact ⟨n, k, hR, h⟩
  · rintro ⟨n, k, hR, h⟩
    exact ⟨k, hR, n, h⟩

/-- A literal of one character matches as the set of that character does. -/
theorem matches_char {c : Char} {i j : Nat} :
    (Expr.literal [c]).Matches text i j ↔
      j = i + 1 ∧ ∃ d, text[i]? = some d ∧ (CharSet.single c).contains d = true := by
  refine and_congr_right fun _ => ⟨?_, ?_⟩
  · rintro ⟨tail, h⟩
    refine ⟨c, ?_, CharSet.mem_single.2 rfl⟩
    rw [← List.head?_drop, ← h]
    rfl
  · rintro ⟨d, hd, single⟩
    obtain rfl : d = c := CharSet.mem_single.1 single
    obtain ⟨lt, hd⟩ := List.getElem?_eq_some_iff.1 hd
    refine ⟨text.drop (i + 1), ?_⟩
    rw [List.drop_eq_getElem_cons lt, hd]
    rfl

theorem block_literalCode {base exit : Nat} {cs : List Char}
    (has : p.Has base (Expr.literalCode base exit cs)) :
    p.Block text base exit ((Expr.literal cs).Matches text) := by
  fun_induction Expr.literalCode base exit cs with
  | case1 =>
    refine Block.single has.head Instr.noConfusion fun i b j => and_congr_right fun _ => ?_
    exact ⟨fun h => ⟨h, List.nil_prefix⟩, fun h => h.1⟩
  | case2 =>
    refine Block.single has.head Instr.noConfusion fun i b j => and_congr_right fun _ => ?_
    exact matches_char.symm
  | case3 base c cs ne ih =>
    have first : p.Block text base (base + 1) ((Expr.literal [c]).Matches text) := by
      refine Block.single has.head Instr.noConfusion fun i b j => and_congr_right fun _ => ?_
      exact matches_char.symm
    refine (first.trans (ih has.tail)).congr fun i j => ?_
    exact (@Expr.matches_literal_append text i j [c] cs).symm

/-- Rounds that must be made and rounds that may be made are rounds of one repetition. -/
theorem iterated_rounds {R : Nat → Nat → Prop} {P : Nat → Prop} {least i j : Nat} :
    (∃ k, Iterated R least i k ∧ ∃ m, P m ∧ Iterated R m k j) ↔
      ∃ n, least ≤ n ∧ P (n - least) ∧ Iterated R n i j := by
  refine ⟨?_, ?_⟩
  · rintro ⟨k, first, m, hm, more⟩
    refine ⟨least + m, Nat.le_add_right least m, ?_, iterated_add.2 ⟨k, first, more⟩⟩
    rwa [Nat.add_sub_cancel_left]
  · rintro ⟨n, le, hn, h⟩
    rw [← Nat.add_sub_cancel' le] at h
    obtain ⟨k, first, more⟩ := iterated_add.1 h
    exact ⟨k, first, n - least, hn, more⟩

section Repetitions

variable {body : Expr} {greedy : Bool} {base exit : Nat}

theorem length_bodies (base n : Nat) : ((List.range n).flatMap fun i =>
    body.code (base + i * body.width) (base + (i + 1) * body.width)).length = n * body.width :=
  length_copies (fun _ => body.length_code _ _) n

variable (inner : ∀ {base exit : Nat}, p.Has base (body.code base exit) →
  p.Block text base exit (body.Matches text))

include inner

/-- The copies of the body that a repetition starts with. -/
theorem block_bodies {n : Nat}
    (has : p.Has base ((List.range n).flatMap fun i =>
      body.code (base + i * body.width) (base + (i + 1) * body.width))) :
    p.Block text base (base + n * body.width) (Iterated (body.Matches text) n) :=
  block_copies fun _ lt => inner (has.copy (fun _ => body.length_code _ _) lt)

/-- A repetition with an upper bound: the rounds that must be made, and those that may be. -/
theorem block_between {least most : Nat}
    (has : p.Has base ((Expr.times body least (some most) greedy).code base exit)) :
    p.Block text base exit ((Expr.times body least (some most) greedy).Matches text) := by
  have more := has.right
  rw [length_bodies] at more
  have last := more.right
  rw [length_copies (fun i => by rw [List.length_cons, body.length_code])] at last
  have optional := more.left
  have copy {i : Nat} (lt : i < most - least) :=
    optional.copy (fun i => by rw [List.length_cons, body.length_code]) lt
  have rounds : p.Block text (base + least * body.width) exit
      fun i j => ∃ m ≤ most - least, Iterated (body.Matches text) m i j := by
    refine block_optional (fun i lt => (copy lt).head) (fun i lt => ?_) last.head
    have next : base + least * body.width + i * (body.width + 1) + 1 + body.width =
        base + least * body.width + (i + 1) * (body.width + 1) := by
      rw [Nat.succ_mul]
      omega
    rw [← next]
    exact inner (copy lt).tail
  refine ((block_bodies inner has.left).trans rounds).congr fun i j => ?_
  rw [iterated_rounds (P := (· ≤ most - least))]
  -- With the bounds the wrong way round there are no further rounds, as `Matches` has it.
  refine exists_congr fun n => and_congr_right fun le => and_congr_left fun _ => ?_
  refine ⟨fun h m hm => ?_, fun h => ?_⟩
  · obtain rfl := Option.some.inj hm
    omega
  · have := h most rfl
    omega

/-- A repetition of any number of rounds. A body that can match nothing stands before its split, so
that a round is entered from outside of the loop. -/
theorem block_star
    (has : p.Has base ((Expr.times body 0 none greedy).code base exit)) :
    p.Block text base exit fun i j => ∃ n, Iterated (body.Matches text) n i j := by
  by_cases consumes : body.consumes
  · rw [Expr.code, if_pos consumes] at has
    exact Block.loop has.head (inner has.tail)
  · rw [Expr.code, if_neg consumes] at has
    have back := has.tail.right
    rw [body.length_code] at back
    have plus := block_plus (inner has.tail.left) back.head
    refine (Block.split has.head plus (Block.refl p text exit)).congr fun i j => ⟨?_, ?_⟩
    · rintro (⟨n, h⟩ | rfl)
      · exact ⟨n + 1, h⟩
      · exact ⟨0, rfl⟩
    · rintro ⟨n, h⟩
      cases n with
      | zero => exact Or.inr h
      | succ n => exact Or.inl ⟨n, h⟩

/-- A repetition of one round or more: copies of the body, the last of them in a loop. -/
theorem block_atLeast {least : Nat}
    (has : p.Has base ((Expr.times body (least + 1) none greedy).code base exit)) :
    p.Block text base exit fun i j =>
      ∃ n, least + 1 ≤ n ∧ Iterated (body.Matches text) n i j := by
  have rest := has.right
  rw [length_bodies] at rest
  have back := rest.right
  rw [body.length_code] at back
  have plus := block_plus (inner rest.left) back.head
  refine ((block_bodies inner has.left).trans plus).congr fun i j => ⟨?_, ?_⟩
  · rintro ⟨k, first, n, more⟩
    exact ⟨least + (n + 1), by omega, iterated_add.2 ⟨k, first, more⟩⟩
  · rintro ⟨n, le, h⟩
    obtain ⟨m, rfl⟩ : ∃ m, n = least + (m + 1) := ⟨n - least - 1, by omega⟩
    obtain ⟨k, first, more⟩ := iterated_add.1 h
    exact ⟨k, first, m, more⟩

/-- **The code of a repetition**, given that of its body. -/
theorem block_times {least : Nat} {most : Option Nat}
    (has : p.Has base ((Expr.times body least most greedy).code base exit)) :
    p.Block text base exit ((Expr.times body least most greedy).Matches text) := by
  cases most with
  | some most => exact block_between inner has
  | none =>
    cases least with
    | zero =>
      refine (block_star inner has).congr fun i j => exists_congr fun n => ?_
      exact ⟨fun h => ⟨Nat.zero_le n, fun _ => nofun, h⟩, fun h => h.2.2⟩
    | succ least =>
      refine (block_atLeast inner has).congr fun i j => exists_congr fun n => ?_
      exact and_congr_right fun _ => ⟨fun h => ⟨fun _ => nofun, h⟩, fun h => h.2⟩

end Repetitions

/-- **The code of an expression is a block for what the expression matches.** -/
theorem block_code {e : Expr} {base exit : Nat} (has : p.Has base (e.code base exit)) :
    p.Block text base exit (e.Matches text) := by
  induction e generalizing base exit with
  | empty =>
    exact Block.single has.head Instr.noConfusion fun i b j => and_congr_right fun _ => eq_comm
  | literal cs => exact block_literalCode has
  | set s => exact Block.single has.head Instr.noConfusion fun i b j => Iff.rfl
  | look l =>
    refine Block.single has.head Instr.noConfusion fun i b j => and_congr_right fun _ => ?_
    exact and_congr_left fun _ => eq_comm
  | times body least most greedy ih => exact block_times ih has
  | capture index body ih =>
    -- an instruction that notes the start, the body, and one that notes the end
    have last := has.tail.right
    rw [Expr.length_code] at last
    have opened : p.Block text base (base + 1) Eq :=
      Block.single has.head Instr.noConfusion fun i b j => and_congr_right fun _ => eq_comm
    have closed : p.Block text (base + 1 + body.width) exit Eq :=
      Block.single last.head Instr.noConfusion fun i b j => and_congr_right fun _ => eq_comm
    refine ((opened.trans (ih has.tail.left)).trans closed).congr fun i j => ⟨?_, ?_⟩
    · rintro ⟨k, ⟨l, rfl, h⟩, rfl⟩
      exact h
    · intro h
      exact ⟨j, ⟨i, rfl, h⟩, rfl⟩
  | cat first rest ihf ihr =>
    -- the second block begins where the first one exits
    have hr := has.right
    rw [Expr.length_code] at hr
    exact (ihf has.left).trans (ihr hr)
  | alt first second ihf ihs =>
    have hs := has.tail.right
    rw [Expr.length_code] at hs
    -- both blocks have the same exit
    have fork : p.instrs[base]? = some (.prefer true (base + 1) (base + 1 + first.width)) :=
      has.head
    exact Block.split fork (ihf has.tail.left) (ihs hs)

/-! ### Whole programs -/

theorem has_program (e : Expr) :
    e.program.Has 0 (.save 0 1 :: (e.code 1 (1 + e.width) ++
      [.save 1 (2 + e.width), .accept])) :=
  List.prefix_refl _

theorem block_program (e : Expr) (text : List Char) :
    e.program.Block text 1 (1 + e.width) (e.Matches text) :=
  block_code (has_program e).tail.left

/-- **From its first instruction on, a program comes to an end where the expression matches.** -/
theorem ends_program_iff {e : Expr} {text : List Char} {i j : Nat} :
    (∃ n, e.program.Ends text n 0 i j) ↔ e.Matches text i j := by
  have start := (has_program e).head
  have last := (has_program e).tail.right
  rw [e.length_code] at last
  have closing := last.head
  have accept := last.tail.head
  rw [show 1 + e.width + 1 = 2 + e.width by omega] at accept
  refine ⟨?_, ?_⟩
  · rintro ⟨n, ends⟩
    obtain ⟨m, b, k, -, ⟨rfl, rfl⟩, inside⟩ := (ends_iff start Instr.noConfusion).1 ends
    obtain ⟨l, n', -, matched, outside⟩ := (block_program e text).sound inside
    obtain ⟨m', b, o, -, ⟨rfl, rfl⟩, rest⟩ := (ends_iff closing Instr.noConfusion).1 outside
    rcases rest with _ | ⟨at_accept, pass, -⟩
    · exact matched
    · rw [accept] at at_accept
      obtain rfl := Option.some.inj at_accept
      exact pass.elim
  · intro matched
    obtain ⟨n, h⟩ := (block_program e text).complete matched
      (.step closing ⟨rfl, rfl⟩ (.accept accept))
    exact ⟨n + 1, .step start ⟨rfl, rfl⟩ h⟩

end Program

/-! ### Where code can go

The code of an expression passes control on within its block and to its exit only, and it leaves the
first two slots alone, which are those of the whole match. -/

/-- An instruction goes on to addresses from `low` to `high` only and notes nothing in the slots of
the whole match. -/
def Instr.Inside (low high : Nat) : Instr → Prop
  | .char _ next | .look _ next | .jump next => low ≤ next ∧ next ≤ high
  | .split first second => (low ≤ first ∧ first ≤ high) ∧ low ≤ second ∧ second ≤ high
  | .save slot next => 2 ≤ slot ∧ low ≤ next ∧ next ≤ high
  | .accept => False

theorem Instr.inside_prefer {low high x y : Nat} {greedy : Bool} (hx : low ≤ x ∧ x ≤ high)
    (hy : low ≤ y ∧ y ≤ high) : (Instr.prefer greedy x y).Inside low high := by
  cases greedy with
  | true => exact ⟨hx, hy⟩
  | false => exact ⟨hy, hx⟩

namespace Expr

theorem inside_literalCode {low high base exit : Nat} {cs : List Char} (start : low ≤ base)
    (fits : base + max 1 cs.length ≤ high) (leave : low ≤ exit ∧ exit ≤ high) :
    ∀ instr ∈ literalCode base exit cs, instr.Inside low high := by
  fun_induction literalCode base exit cs with
  | case1 | case2 =>
    intro instr hi
    obtain rfl := List.mem_singleton.1 hi
    exact leave
  | case3 base c cs ne ih =>
    have pos := List.length_pos_iff.2 ne
    rw [List.length_cons] at fits
    intro instr hi
    rcases List.mem_cons.1 hi with rfl | hi
    · show low ≤ base + 1 ∧ base + 1 ≤ high
      omega
    · exact ih (by omega) (by omega) instr hi

/-- A copy of a body among `n` copies of size `w` stands within all of them. -/
theorem copy_fits {i n w : Nat} (lt : i < n) : i * w + w ≤ n * w := by
  rw [← Nat.succ_mul]
  exact Nat.mul_le_mul_right w lt

theorem inside_code {e : Expr} (numbered : e.Numbered) {low high base exit : Nat}
    (start : low ≤ base) (fits : base + e.width ≤ high) (leave : low ≤ exit ∧ exit ≤ high) :
    ∀ instr ∈ e.code base exit, instr.Inside low high := by
  induction e generalizing base exit with
  | empty | set | look =>
    intro instr hi
    obtain rfl := List.mem_singleton.1 hi
    exact leave
  | literal cs => exact inside_literalCode start fits leave
  | times body least most greedy ih =>
    -- Wherever a copy of the body stands, it is within the bounds if it fits in.
    have copy {base exit : Nat} (start : low ≤ base) (fits : base + body.width ≤ high)
        (leave : low ≤ exit ∧ exit ≤ high) : ∀ instr ∈ body.code base exit, instr.Inside low high :=
      ih numbered start fits leave
    have copies {n : Nat} (fits : base + n * body.width ≤ high) :
        ∀ instr ∈ (List.range n).flatMap fun i =>
          body.code (base + i * body.width) (base + (i + 1) * body.width),
        instr.Inside low high := by
      intro instr hi
      obtain ⟨i, hn, hi⟩ := List.mem_flatMap.1 hi
      have le := copy_fits (w := body.width) (List.mem_range.1 hn)
      have next : (i + 1) * body.width = i * body.width + body.width := Nat.succ_mul i _
      exact copy (by omega) (by omega) (by omega) instr hi
    cases most with
    | some most =>
      rw [width] at fits
      intro instr hi
      rcases List.mem_append.1 hi with hi | hi
      · exact copies (by omega) instr hi
      · rcases List.mem_append.1 hi with hi | hi
        · obtain ⟨i, hn, hi⟩ := List.mem_flatMap.1 hi
          have le := copy_fits (w := body.width + 1) (List.mem_range.1 hn)
          rcases List.mem_cons.1 hi with rfl | hi
          · exact Instr.inside_prefer (by omega) leave
          · exact copy (by omega) (by omega) (by omega) instr hi
        · obtain rfl := List.mem_singleton.1 hi
          exact leave
    | none =>
      cases least with
      | zero =>
        by_cases consumes : body.consumes
        · simp only [width, if_pos consumes] at fits
          rw [code, if_pos consumes]
          intro instr hi
          rcases List.mem_cons.1 hi with rfl | hi
          · exact Instr.inside_prefer (by omega) leave
          · exact copy (by omega) (by omega) (by omega) instr hi
        · simp only [width, if_neg consumes] at fits
          rw [code, if_neg consumes]
          intro instr hi
          rcases List.mem_cons.1 hi with rfl | hi
          · exact Instr.inside_prefer (by omega) leave
          · rcases List.mem_append.1 hi with hi | hi
            · exact copy (by omega) (by omega) (by omega) instr hi
            · obtain rfl := List.mem_singleton.1 hi
              exact Instr.inside_prefer (by omega) leave
      | succ least =>
        rw [width] at fits
        intro instr hi
        rcases List.mem_append.1 hi with hi | hi
        · exact copies (by omega) instr hi
        · rcases List.mem_append.1 hi with hi | hi
          · exact copy (by omega) (by omega) (by omega) instr hi
          · obtain rfl := List.mem_singleton.1 hi
            exact Instr.inside_prefer (by omega) leave
  | capture index body ih =>
    obtain ⟨pos, numbered⟩ := numbered
    rw [width] at fits
    intro instr hi
    rcases List.mem_cons.1 hi with rfl | hi
    · show 2 ≤ 2 * index ∧ low ≤ base + 1 ∧ base + 1 ≤ high
      omega
    · rcases List.mem_append.1 hi with hi | hi
      · exact ih numbered (by omega) (by omega) (by omega) instr hi
      · obtain rfl := List.mem_singleton.1 hi
        exact ⟨by omega, leave⟩
  | cat first rest ihf ihr =>
    rw [width] at fits
    intro instr hi
    rcases List.mem_append.1 hi with hi | hi
    · exact ihf numbered.1 (by omega) (by omega) (by omega) instr hi
    · exact ihr numbered.2 (by omega) (by omega) leave instr hi
  | alt first second ihf ihs =>
    rw [width] at fits
    intro instr hi
    rcases List.mem_cons.1 hi with rfl | hi
    · exact ⟨by omega, by omega⟩
    · rcases List.mem_append.1 hi with hi | hi
      · exact ihf numbered.1 (by omega) (by omega) leave instr hi
      · exact ihs numbered.2 (by omega) (by omega) leave instr hi

end Expr

/-- **The instructions of a program**, by address: one that notes where the match begins, the code
of the expression, one that notes where the match ends, and the end. -/
theorem Program.instr_cases {e : Expr} (numbered : e.Numbered) {a : Nat} {instr : Instr}
    (at_a : e.program.instrs[a]? = some instr) :
    (a = 0 ∧ instr = .save 0 1) ∨ (0 < a ∧ a ≤ e.width ∧ instr.Inside 1 (1 + e.width)) ∨
      (a = 1 + e.width ∧ instr = .save 1 (2 + e.width)) ∨ (a = 2 + e.width ∧ instr = .accept) := by
  rw [Expr.program, List.getElem?_toArray] at at_a
  cases a with
  | zero => exact Or.inl ⟨rfl, (Option.some.inj at_a).symm⟩
  | succ a =>
    rw [List.getElem?_cons_succ] at at_a
    by_cases lt : a < e.width
    · -- within the code of the expression
      rw [List.getElem?_append_left (by rwa [e.length_code])] at at_a
      have inside : ∀ instr ∈ e.code 1 (1 + e.width), instr.Inside 1 (1 + e.width) :=
        Expr.inside_code numbered (Nat.le_refl 1) (Nat.le_refl _) ⟨by omega, Nat.le_refl _⟩
      exact Or.inr (Or.inl ⟨by omega, by omega, inside instr (List.mem_of_getElem? at_a)⟩)
    · -- behind it
      rw [List.getElem?_append_right (by rw [e.length_code]; omega), e.length_code] at at_a
      obtain ⟨b, rfl⟩ : ∃ b, a = e.width + b := ⟨a - e.width, by omega⟩
      rw [Nat.add_sub_cancel_left] at at_a
      rcases b with _ | _ | b
      · exact Or.inr (Or.inr (Or.inl ⟨by omega, (Option.some.inj at_a).symm⟩))
      · exact Or.inr (Or.inr (Or.inr ⟨by omega, (Option.some.inj at_a).symm⟩))
      · cases at_a

end RuleLexer.Regex
