import Mathlib.Data.List.Find
import RuleLexer.Proofs.Regex.Leftmost
import RuleLexer.Proofs.Regex.Tidy

/-!
# Searching at the start of a text only

An expression behind a mark for the start of the text has the program of the expression with one
instruction more, behind which all other ones stand one address further on. A search with it finds
what the expression finds on its own, provided that this begins at the start of the text, and it
finds it by the same path, so that the groups capture the same.

* `Expr.code_shift` — where code is laid out shows in the addresses only;
* `Program.Marked` — how the two programs are related;
* `Program.Marked.exists_carries` — carrying threads on is alike in both;
* `Program.Beside` — what is known of two searches side by side: the threads of the marked program
  are the first ones of the other, and the threads behind them, which began later, are dropped as
  soon as anything is found.

The main statements are `find?_marked` and, for expressions as they come out of reading,
`find?_seq_marked`.
-/

namespace RuleLexer.Regex

/-! ### Code at another address -/

/-- The addresses that an instruction goes on at. -/
def Instr.targets : Instr → List Nat
  | .char _ next | .look _ next | .save _ next | .jump next => [next]
  | .split first second => [first, second]
  | .accept => []

/-- The same instruction with all addresses `d` further on. -/
def Instr.shift (d : Nat) : Instr → Instr
  | .char s next => .char s (next + d)
  | .look l next => .look l (next + d)
  | .split first second => .split (first + d) (second + d)
  | .save slot next => .save slot (next + d)
  | .jump next => .jump (next + d)
  | .accept => .accept

theorem Instr.Inside.le_target {low high b : Nat} {instr : Instr} (h : instr.Inside low high)
    (hb : b ∈ instr.targets) : low ≤ b := by
  cases instr with
  | char | look | jump =>
    obtain rfl := List.mem_singleton.1 hb
    exact h.1
  | save =>
    obtain rfl := List.mem_singleton.1 hb
    exact h.2.1
  | split first second =>
    rcases List.mem_cons.1 hb with rfl | hb
    · exact h.1.1
    · obtain rfl := List.mem_singleton.1 hb
      exact h.2.1
  | accept => exact h.elim

theorem Instr.shift_prefer (d : Nat) (greedy : Bool) (inside outside : Nat) :
    (Instr.prefer greedy inside outside).shift d =
      .prefer greedy (inside + d) (outside + d) := by
  cases greedy <;> rfl

/-- The thread one address further on. -/
def Thread.shift (t : Thread) : Thread := { t with address := t.address + 1 }

namespace Expr

theorem literalCode_shift (d base exit : Nat) (cs : List Char) :
    literalCode (base + d) (exit + d) cs = (literalCode base exit cs).map (Instr.shift d) := by
  fun_induction literalCode base exit cs with
  | case1 | case2 => rfl
  | case3 base c cs ne ih =>
    rw [literalCode.eq_3 _ _ _ _ ne, Nat.add_right_comm, ih]
    rfl

/-- **Code laid out elsewhere** is the same code with other addresses. -/
theorem code_shift (d : Nat) (e : Expr) (base exit : Nat) :
    e.code (base + d) (exit + d) = (e.code base exit).map (Instr.shift d) := by
  -- every address in the code of a part is reckoned from the first one of the whole
  have behind (a b : Nat) : a + d + b = a + b + d := Nat.add_right_comm a d b
  induction e generalizing base exit with
  | empty | set | look => rfl
  | literal cs => exact literalCode_shift d base exit cs
  | capture index body ih =>
    simp only [code, behind, ih, List.map_cons, List.map_append, List.map_nil, Instr.shift]
  | cat first rest ihf ihr => simp only [code, behind, ihf, ihr, List.map_append]
  | alt first second ihf ihs =>
    simp only [code, behind, ihf, ihs, List.map_cons, List.map_append, Instr.shift]
  | times body least most greedy ih =>
    cases most with
    | some most =>
      simp only [code, behind, ih, List.map_cons, List.map_append, List.map_nil, List.map_flatMap,
        Instr.shift_prefer]
      rfl
    | none =>
      cases least with
      | zero =>
        simp only [code, behind, ih]
        split
        · simp only [List.map_cons, Instr.shift_prefer]
        · simp only [List.map_cons, List.map_append, List.map_nil, Instr.shift_prefer]
      | succ least =>
        simp only [code, behind, ih, List.map_append, List.map_cons, List.map_nil,
          List.map_flatMap, Instr.shift_prefer]

end Expr

/-! ### A program behind a mark -/

namespace Program

/-- **A program behind a mark**: the instructions of `p` are the first one of `q`, a mark for the
start of the text, and the others of `q`, one address further on. -/
structure Marked (p q : Program) : Prop where
  /-- The place where a match begins is noted first. -/
  first : p.instrs[0]? = some (.save 0 1)
  /-- This is so without the mark, too. -/
  bare : q.instrs[0]? = some (.save 0 1)
  /-- Only at the start of the text control gets past the mark. -/
  mark : p.instrs[1]? = some (.look .textStart 2)
  /-- The other instructions are the same, but for their addresses. -/
  same : ∀ a, 0 < a → p.instrs[a + 1]? = (q.instrs[a]?).map (Instr.shift 1)
  /-- None of them goes back to the first one. -/
  onward : ∀ a instr, 0 < a → q.instrs[a]? = some instr → ∀ b ∈ instr.targets, 0 < b
  /-- The same places are noted. -/
  slots : p.slots = q.slots
  /-- A match begins at the start of the text. -/
  anchored : p.anchored = true

/-- **An expression behind a mark** has its program behind a mark. -/
theorem marked_cat {e : Expr} (numbered : e.Numbered) :
    Marked (Expr.cat (.look .textStart) e).program e.program where
  first := rfl
  bare := rfl
  mark := rfl
  same a pos := by
    obtain ⟨a, rfl⟩ : ∃ b, a = b + 1 := ⟨a - 1, by omega⟩
    have code : e.code 2 (1 + (1 + e.width)) ++ [.save 1 (2 + (1 + e.width)), .accept] =
        (e.code 1 (1 + e.width) ++ [Instr.save 1 (2 + e.width), .accept]).map
          (Instr.shift 1) := by
      rw [List.map_append, ← e.code_shift, Nat.add_comm 1 (1 + e.width), Nat.add_left_comm 2 1,
        Nat.add_comm 1 (2 + e.width)]
      rfl
    rw [Expr.program, Expr.program, List.getElem?_toArray, List.getElem?_toArray,
      List.getElem?_cons_succ, List.getElem?_cons_succ, ← List.getElem?_map, ← code]
    rfl
  onward a instr pos at_a b hb := by
    rcases instr_cases numbered at_a with ⟨zero, -⟩ | ⟨-, -, inside⟩ | ⟨-, rfl⟩ | ⟨-, rfl⟩
    · omega
    · exact inside.le_target hb
    · obtain rfl := List.mem_singleton.1 hb
      omega
    · exact absurd hb List.not_mem_nil
  slots := by
    show 2 * (max 0 e.groups + 1) = 2 * (e.groups + 1)
    rw [Nat.zero_max]
  anchored := rfl

section Shift

variable {p q : Program} {place : Place}

namespace Marked

variable (marked : Marked p q) {t : Thread}

include marked

/-- A thread stands at the same instruction in both programs. -/
theorem instr_shift (pos : 0 < t.address) :
    p.instrs[t.shift.address]? = (q.instrs[t.address]?).map (Instr.shift 1) :=
  marked.same t.address pos

/-- A thread goes on alike in both programs. -/
theorem advance?_shift (pos : 0 < t.address) :
    p.advance? place t.shift = (q.advance? place t).map (List.map Thread.shift) := by
  unfold advance?
  rw [marked.instr_shift pos]
  cases q.instrs[t.address]? with
  | none => rfl
  | some instr =>
    cases instr with
    | look l next =>
      simp only [Option.map_some, Instr.shift]
      split <;> rfl
    | char | split | save | jump | accept => rfl

theorem take?_shift (pos : 0 < t.address) (c : Char) :
    p.take? c t.shift = (q.take? c t).map Thread.shift := by
  unfold take?
  rw [marked.instr_shift pos]
  cases q.instrs[t.address]? with
  | none => rfl
  | some instr =>
    cases instr with
    | char s next =>
      simp only [Option.map_some, Instr.shift]
      split <;> rfl
    | look | split | save | jump | accept => rfl

theorem accepts_shift (pos : 0 < t.address) : p.accepts t.shift = q.accepts t := by
  unfold accepts
  rw [marked.instr_shift pos]
  cases q.instrs[t.address]? with
  | none => rfl
  | some instr => cases instr <;> rfl

end Marked

/-- A thread that goes on does so at an address of its instruction. -/
theorem exists_target_of_advance? {t u : Thread} {next : List Thread}
    (h : q.advance? place t = some next) (hu : u ∈ next) :
    ∃ instr, q.instrs[t.address]? = some instr ∧ u.address ∈ instr.targets := by
  unfold advance? at h
  cases hinstr : q.instrs[t.address]? with
  | none =>
    rw [hinstr] at h
    obtain rfl := Option.some.inj h
    exact absurd hu List.not_mem_nil
  | some instr =>
    rw [hinstr] at h
    refine ⟨instr, rfl, ?_⟩
    cases instr with
    | char | accept => cases h
    | jump | save =>
      obtain rfl := Option.some.inj h
      obtain rfl := List.mem_singleton.1 hu
      exact List.mem_singleton.2 rfl
    | split first second =>
      obtain rfl := Option.some.inj h
      exact List.mem_map_of_mem (f := Thread.address) hu
    | look l next =>
      obtain rfl := Option.some.inj h
      split at hu
      · obtain rfl := List.mem_singleton.1 hu
        exact List.mem_singleton.2 rfl
      · exact absurd hu List.not_mem_nil

theorem exists_target_of_take? {t u : Thread} {c : Char} (h : q.take? c t = some u) :
    ∃ instr, q.instrs[t.address]? = some instr ∧ u.address ∈ instr.targets := by
  unfold take? at h
  split at h
  · next s next at_t =>
    split at h
    · obtain rfl := Option.some.inj h
      exact ⟨_, at_t, List.mem_singleton.2 rfl⟩
    · cases h
  · cases h

/-! ### Carrying on -/

/-- What was gathered in a marked program, beside what was gathered in the bare one. -/
structure Gathered.Shifted (g g' : Gathered) : Prop where
  /-- The addresses that were entered stand one further on. -/
  seen : ∀ a, g'.seen.testBit (a + 1) = g.seen.testBit a
  /-- So do the threads that wait. -/
  waiting : g'.waiting = g.waiting.map Thread.shift

theorem Gathered.Shifted.enter {g g' : Gathered} (h : g.Shifted g') (a : Nat) :
    (g.enter a).Shifted (g'.enter (a + 1)) where
  seen b := by
    rw [Bool.eq_iff_iff, testBit_enter, testBit_enter, h.seen, Nat.add_right_cancel_iff]
  waiting := h.waiting

theorem Gathered.Shifted.add {g g' : Gathered} (h : g.Shifted g') (t : Thread) :
    (g.add t).Shifted (g'.add t.shift) where
  seen := (h.enter t.address).seen
  waiting := congrArg (t.shift :: ·) h.waiting

namespace Marked

variable (marked : Marked p q) {work : List Thread}

include marked

/-- **Threads are carried on alike** in both programs. -/
theorem exists_carries {g g' k : Gathered} (h : q.Carries place work g g')
    (pos : ∀ t ∈ work, 0 < t.address) (shifted : g.Shifted k) :
    ∃ k', p.Carries place (work.map Thread.shift) k k' ∧ g'.Shifted k' := by
  induction h generalizing k with
  | done => exact ⟨k, .done, shifted⟩
  | again old _ ih =>
    obtain ⟨-, pos⟩ := List.forall_mem_cons.1 pos
    obtain ⟨k', carries, shifted'⟩ := ih pos shifted
    exact ⟨k', .again ((shifted.seen _).trans old) carries, shifted'⟩
  | @on t work next g g' fresh advance _ ih =>
    obtain ⟨first, pos⟩ := List.forall_mem_cons.1 pos
    have onward : ∀ u ∈ next ++ work, 0 < u.address := by
      refine List.forall_mem_append.2 ⟨fun u hu => ?_, pos⟩
      obtain ⟨instr, at_t, target⟩ := exists_target_of_advance? advance hu
      exact marked.onward _ instr first at_t _ target
    obtain ⟨k', carries, shifted'⟩ := ih onward (shifted.enter t.address)
    rw [List.map_append] at carries
    refine ⟨k', .on ((shifted.seen _).trans fresh) ?_ carries, shifted'⟩
    rw [marked.advance?_shift first, advance]
    rfl
  | @wait t work g g' fresh stays _ ih =>
    obtain ⟨first, pos⟩ := List.forall_mem_cons.1 pos
    obtain ⟨k', carries, shifted'⟩ := ih pos (shifted.add t)
    refine ⟨k', .wait ((shifted.seen _).trans fresh) ?_ carries, shifted'⟩
    rw [marked.advance?_shift first, stays]
    rfl

/-- No thread waits at the first instruction. -/
theorem pos_of_mem_waiting {t : Thread} (ht : t ∈ q.waiting place work) : 0 < t.address := by
  refine Nat.pos_of_ne_zero fun zero => ?_
  rcases waits_of_mem_waiting ht with ⟨s, next, at_t⟩ | at_t
  all_goals
    rw [zero, marked.bare] at at_t
    cases at_t

theorem waiting_shift (pos : ∀ t ∈ work, 0 < t.address) :
    p.waiting place (work.map Thread.shift) = (q.waiting place work).map Thread.shift := by
  obtain ⟨g, carries, eq⟩ := q.carries_waiting place work
  have none : Gathered.Shifted ⟨0, []⟩ ⟨0, []⟩ := ⟨fun a => by simp, rfl⟩
  obtain ⟨k, carries', shifted⟩ := marked.exists_carries carries pos none
  rw [eq, carries'.waiting_eq, shifted.waiting, List.map_reverse]

/-- Behind the start of the text, no match begins. -/
theorem starters_eq_nil {index : Nat} (pos : 0 < index) (found : Option Slots) :
    starters p index found = [] := by
  rw [starters, marked.anchored, decide_eq_true pos]
  exact if_neg (by simp)

/-- The first thread that ends a match is the same one. -/
theorem find?_shift (pos : ∀ t ∈ work, 0 < t.address) :
    (work.map Thread.shift).find? p.accepts = (work.find? q.accepts).map Thread.shift := by
  rw [List.find?_map]
  exact congrArg _ (List.find?_congr fun t ht => marked.accepts_shift (pos t ht))

theorem takeWhile_shift (pos : ∀ t ∈ work, 0 < t.address) :
    (work.map Thread.shift).takeWhile (!p.accepts ·) =
      (work.takeWhile (!q.accepts ·)).map Thread.shift := by
  induction work with
  | nil => rfl
  | cons t work ih =>
    obtain ⟨first, pos⟩ := List.forall_mem_cons.1 pos
    rw [List.map_cons, List.takeWhile_cons, List.takeWhile_cons, marked.accepts_shift first,
      ih pos]
    split <;> rfl

/-- The threads that take a character are the same ones, and none gets to the first instruction. -/
theorem filterMap_shift (pos : ∀ t ∈ work, 0 < t.address) (c : Char) :
    (work.map Thread.shift).filterMap (p.take? c) =
        (work.filterMap (q.take? c)).map Thread.shift ∧
      ∀ t ∈ work.filterMap (q.take? c), 0 < t.address := by
  refine ⟨?_, fun u hu => ?_⟩
  · rw [List.filterMap_map, List.map_filterMap]
    exact List.filterMap_congr fun t ht => marked.take?_shift (pos t ht) c
  · obtain ⟨t, ht, take⟩ := List.mem_filterMap.1 hu
    obtain ⟨instr, at_t, target⟩ := exists_target_of_take? take
    exact marked.onward _ instr (pos t ht) at_t _ target

/-- **At the start of the text** the thread that starts a match gets past the mark. -/
theorem waiting_start (start : place.before = none) :
    p.waiting place [p.start] = (q.waiting place [q.start]).map Thread.shift := by
  obtain ⟨g, carries, eq⟩ := q.carries_waiting place [q.start]
  -- on its own, the thread notes the place and stands at the second instruction
  let slots := (List.replicate q.slots none).set 0 (some place.index)
  have noted : q.advance? place q.start = some [⟨1, slots⟩] := by
    rw [advance?, show q.start.address = 0 from rfl, marked.bare]
    rfl
  have inside : q.Carries place [⟨1, slots⟩] (Gathered.enter ⟨0, []⟩ 0) g := by
    cases carries with
    | again old => exact absurd old (by simp)
    | on _ advance carries =>
      obtain rfl := Option.some.inj (noted.symm.trans advance)
      exact carries
    | wait _ stays => cases noted.symm.trans stays
  -- behind the mark, it does so one instruction later
  have noted' : p.advance? place p.start = some [⟨1, slots⟩] := by
    rw [advance?, show p.start.address = 0 from rfl, marked.first]
    show some [Thread.mk 1 ((List.replicate p.slots none).set 0 (some place.index))] = _
    rw [marked.slots]
  have past : p.advance? place ⟨1, slots⟩ = some [⟨2, slots⟩] := by
    rw [advance?, marked.mark, start]
    rfl
  have first : Gathered.Shifted ⟨0, []⟩ (Gathered.enter ⟨0, []⟩ 0) :=
    ⟨fun a => by rw [Bool.eq_iff_iff, Gathered.testBit_enter]; simp, rfl⟩
  obtain ⟨k, carries', shifted⟩ := marked.exists_carries inside
    (List.forall_mem_singleton.2 Nat.one_pos) (first.enter 0)
  have fresh : (Gathered.enter ⟨0, []⟩ 0).seen.testBit 1 = false := by decide
  have whole : p.Carries place [p.start] ⟨0, []⟩ k :=
    .on (Nat.zero_testBit 0) noted' (.on fresh past carries')
  rw [eq, whole.waiting_eq, shifted.waiting, List.map_reverse]

end Marked

/-! ### Searches side by side -/

/-- What is left of a run at a place, given the threads that wait there. -/
def runFrom (p : Program) (index : Nat) (rest : List Char) (waiting : List Thread)
    (found : Option Slots) : Option Slots :=
  let found := (waiting.find? p.accepts).map (·.slots) <|> found
  match rest with
  | [] => found
  | c :: cs =>
    let next := (waiting.takeWhile (!p.accepts ·)).filterMap (p.take? c)
    if next.isEmpty && (found.isSome || p.anchored) then found
    else p.run (index + 1) (some c) cs next found

theorem run_eq_runFrom (p : Program) (index : Nat) (before : Option Char) (rest : List Char)
    (threads : List Thread) (found : Option Slots) :
    p.run index before rest threads found = p.runFrom index rest
      (p.waiting ⟨index, before, rest.head?⟩ (threads ++ starters p index found)) found := by
  cases rest with
  | nil =>
    rw [run, threads_append_starters]
    rfl
  | cons c cs =>
    rw [run, threads_append_starters]
    rfl

/-- **Two searches side by side**, the one with the threads `ahead` in the program behind the mark
and the other with the threads `ahead ++ behind`: what the first one has found, the other one has,
which has no further threads then. -/
structure Beside (ahead behind : List Thread) (found found' : Option Slots) : Prop where
  /-- No thread stands at the first instruction. -/
  pos : ∀ t ∈ ahead, 0 < t.address
  /-- What was found is the same. -/
  same : ∀ f ∈ found', found = some f ∧ behind = []

namespace Beside

variable {ahead behind : List Thread} {found found' : Option Slots}

/-- **The threads that wait are looked through**: what ends a match in front of all others is the
same in both searches. -/
theorem settle (marked : Marked p q) (h : Beside ahead behind found found') :
    ∃ later, (ahead ++ behind).takeWhile (!q.accepts ·) =
        ahead.takeWhile (!q.accepts ·) ++ later ∧
      Beside (ahead.takeWhile (!q.accepts ·)) later
        (((ahead ++ behind).find? q.accepts).map (·.slots) <|> found)
        (((ahead.map Thread.shift).find? p.accepts).map (·.slots) <|> found') := by
  rw [marked.find?_shift h.pos, List.find?_append, List.takeWhile_append]
  cases hfind : ahead.find? q.accepts with
  | none =>
    -- no thread ahead ends a match: all of them are left, and those behind may have found one
    rw [takeWhile_eq_self_iff.2 hfind]
    refine ⟨_, if_pos rfl, h.pos, fun f hf => ?_⟩
    obtain ⟨rfl, rfl⟩ := h.same f hf
    exact ⟨rfl, rfl⟩
  | some v =>
    -- the match is found by both searches, which drop all threads behind it
    have dropped : ¬ (ahead.takeWhile (!q.accepts ·)).length = ahead.length := by
      intro length
      have all := (List.takeWhile_prefix (!q.accepts ·)).eq_of_length length
      cases hfind.symm.trans (takeWhile_eq_self_iff.1 all)
    rw [if_neg dropped]
    refine ⟨[], (List.append_nil _).symm, fun t ht => ?_, fun f hf => ⟨hf, rfl⟩⟩
    exact h.pos t ((List.takeWhile_sublist _).subset ht)

/-- The threads that are left take a character, and are carried on at the place behind it. -/
theorem move (marked : Marked p q) (h : Beside ahead behind found found') (index : Nat) (c : Char)
    (place : Place) :
    ∃ more, q.waiting place ((ahead ++ behind).filterMap (q.take? c) ++ starters q index found) =
        q.waiting place (ahead.filterMap (q.take? c)) ++ more ∧
      Beside (q.waiting place (ahead.filterMap (q.take? c))) more found found' := by
  rw [List.filterMap_append, List.append_assoc]
  obtain ⟨more, eq, none⟩ := exists_waiting_append q place (ahead.filterMap (q.take? c))
    (behind.filterMap (q.take? c) ++ starters q index found)
  refine ⟨more, eq, fun t ht => marked.pos_of_mem_waiting ht, fun f hf => ?_⟩
  obtain ⟨rfl, rfl⟩ := h.same f hf
  exact ⟨rfl, none rfl⟩

/-- **What the search behind the mark finds**, the other one finds. -/
theorem runFrom_eq (marked : Marked p q) {index : Nat} {rest : List Char}
    (h : Beside ahead behind found found') {s : Slots}
    (hp : p.runFrom index rest (ahead.map Thread.shift) found' = some s) :
    q.runFrom index rest (ahead ++ behind) found = some s := by
  induction rest generalizing index ahead behind found found' with
  | nil =>
    obtain ⟨later, -, settled⟩ := h.settle marked
    exact (settled.same s hp).1
  | cons c cs ih =>
    obtain ⟨later, eq, settled⟩ := h.settle marked
    rw [runFrom] at hp ⊢
    rw [marked.takeWhile_shift h.pos] at hp
    rw [eq]
    generalize (((ahead ++ behind).find? q.accepts).map (·.slots) <|> found) = f at settled ⊢
    generalize (((ahead.map Thread.shift).find? p.accepts).map (·.slots) <|> found') = f'
      at settled hp
    generalize ahead.takeWhile (!q.accepts ·) = left at settled hp ⊢
    obtain ⟨taken, pos⟩ := marked.filterMap_shift settled.pos c
    rw [taken, marked.anchored, Bool.or_true, Bool.and_true] at hp
    split at hp
    · -- the search behind the mark stops, and so it has found something
      next stops =>
      obtain ⟨rfl, rfl⟩ := settled.same s hp
      have none : left.filterMap (q.take? c) = [] :=
        List.map_eq_nil_iff.1 (List.isEmpty_iff.1 stops)
      rw [List.append_nil, none]
      rfl
    · -- both searches go on
      next goes_on =>
      have some_left : ¬ (((left ++ later).filterMap (q.take? c)).isEmpty &&
          (f.isSome || q.anchored)) = true := by
        intro stops
        have none := List.isEmpty_iff.1 (Bool.and_eq_true_iff.1 stops).1
        rw [List.filterMap_append] at none
        rw [(List.append_eq_nil_iff.1 none).1] at goes_on
        exact goes_on rfl
      rw [if_neg some_left, run_eq_runFrom]
      rw [run_eq_runFrom, marked.starters_eq_nil (Nat.succ_pos index), List.append_nil,
        marked.waiting_shift pos] at hp
      obtain ⟨more, eq, beside⟩ := settled.move marked (index + 1) c ⟨index + 1, some c, cs.head?⟩
      rw [eq]
      exact ih beside hp

end Beside

/-- **What a search behind a mark finds, a search without it finds.** -/
theorem Marked.search?_eq (marked : Marked p q) {text : List Char} {s : Slots}
    (hp : p.search? text = some s) : q.search? text = some s := by
  rw [search?, run_eq_runFrom, List.nil_append] at hp ⊢
  have starts (r : Program) : starters r 0 none = [r.start] := by simp [starters]
  rw [starts, marked.waiting_start rfl] at hp
  rw [starts, ← List.append_nil (q.waiting _ _)]
  exact Beside.runFrom_eq marked
    ⟨fun t ht => marked.pos_of_mem_waiting ht, fun f hf => absurd hf (Option.not_mem_none f)⟩ hp

end Shift

end Program

/-! ### Compiled expressions behind a mark -/

section Find

variable {e : Expr} {text : List Char}

theorem Expr.matches_marked {i j : Nat} (le : i ≤ text.length) :
    (Expr.cat (.look .textStart) e).Matches text i j ↔ i = 0 ∧ e.Matches text 0 j := by
  constructor
  · rintro ⟨k, ⟨rfl, here⟩, matched⟩
    obtain rfl := Look.eq_zero_of_textStart here le
    exact ⟨rfl, matched⟩
  · rintro ⟨rfl, matched⟩
    exact ⟨0, ⟨rfl, rfl⟩, matched⟩

/-- **An expression behind a mark for the start of the text** finds what the expression finds there
on its own, and nothing where this begins later. -/
theorem find?_marked (numbered : e.Numbered) :
    find? ⟨(Expr.cat (.look .textStart) e).program, (Expr.cat (.look .textStart) e).groups⟩ text =
      (find? ⟨e.program, e.groups⟩ text).filter (·.whole.start = 0) := by
  have numbered' : (Expr.cat (.look .textStart) e).Numbered := ⟨trivial, numbered⟩
  have groups : (Expr.cat (.look .textStart) e).groups = e.groups := Nat.zero_max e.groups
  cases found : find? ⟨(Expr.cat (.look .textStart) e).program, _⟩ text with
  | none =>
    -- what the expression finds on its own does not begin at the start of the text
    have never := (find?_eq_none_iff numbered').1 found
    refine (Option.filter_eq_none_iff.2 fun m hm => ?_).symm
    rw [decide_eq_true_iff]
    intro zero
    obtain ⟨le, matched, -⟩ := matches_of_find? numbered hm
    rw [zero] at le matched
    exact never ⟨0, le, _, (Expr.matches_marked le).2 ⟨rfl, matched⟩⟩
  | some m =>
    obtain ⟨le, matched, -⟩ := matches_of_find? numbered' found
    have zero : m.whole.start = 0 := ((Expr.matches_marked le).1 matched).1
    have bare : find? ⟨e.program, e.groups⟩ text = some m := by
      obtain ⟨slots, searched, hm⟩ := Option.bind_eq_some_iff.1 found
      have searched' := (Program.marked_cat numbered).search?_eq searched
      refine Option.bind_eq_some_iff.2 ⟨slots, searched', ?_⟩
      rw [← groups]
      exact hm
    rw [bare, Option.filter_some, decide_eq_true zero]
    rfl

/-- What matches nothing but the empty text at the start of a text finds this, if it has no
groups. -/
theorem find?_eq_start (numbered : e.Numbered) (groups : e.groups = 0) (lead : e.Matches text 0 0)
    (only : ∀ j, e.Matches text 0 j → j = 0) :
    find? ⟨e.program, e.groups⟩ text = some ⟨⟨0, 0⟩, []⟩ := by
  cases found : find? ⟨e.program, e.groups⟩ text with
  | none => exact absurd ⟨0, Nat.zero_le _, 0, lead⟩ ((find?_eq_none_iff numbered).1 found)
  | some m =>
    obtain ⟨-, matched, first⟩ := matches_of_find? numbered found
    obtain ⟨slots, -, hm⟩ := Option.bind_eq_some_iff.1 found
    obtain ⟨⟨start, stop⟩, -, hm⟩ := Option.bind_eq_some_iff.1 hm
    obtain rfl := Option.some.inj hm
    obtain rfl : start = 0 := Nat.le_zero.1 (first 0 (Nat.zero_le _) 0 lead)
    obtain rfl : stop = 0 := only stop matched
    show some (Found.mk ⟨0, 0⟩ ((List.range e.groups).map _)) = _
    rw [groups]
    rfl

/-- An expression behind a mark for the start of the text, in the sequence that is the whole. -/
def Expr.marked (e : Expr) : Expr := .seq [.seq [.look .textStart, e]]

/-- **The same of expressions as they come out of reading**, which are put behind the mark as
sequences. -/
theorem find?_seq_marked {parts : List Expr} (tidy : ∀ e ∈ parts, e.Tidy)
    (numbered : (Expr.seq parts).Numbered) :
    find? ⟨(Expr.seq parts).marked.program, (Expr.seq parts).marked.groups⟩ text =
      (find? ⟨(Expr.seq parts).program, (Expr.seq parts).groups⟩ text).filter
        (·.whole.start = 0) := by
  rcases Expr.seq_behind_look tidy .textStart with ⟨empty, eq⟩ | eq
  · -- of nothing, the mark alone is left
    have mark : find? ⟨(Expr.look .textStart).program, 0⟩ text = some ⟨⟨0, 0⟩, []⟩ :=
      find?_eq_start (e := .look .textStart) trivial rfl ⟨rfl, rfl⟩ fun j h => h.1.symm
    have bare : find? ⟨Expr.empty.program, 0⟩ text = some ⟨⟨0, 0⟩, []⟩ :=
      find?_eq_start (e := .empty) trivial rfl rfl fun j h => Eq.symm h
    rw [Expr.marked, eq, empty]
    show find? ⟨(Expr.look .textStart).program, 0⟩ text =
      (find? ⟨Expr.empty.program, 0⟩ text).filter _
    rw [mark, bare]
    rfl
  · rw [Expr.marked, eq]
    exact find?_marked numbered

end Find

end RuleLexer.Regex
