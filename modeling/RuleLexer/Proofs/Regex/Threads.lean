import Mathlib.Data.Finset.Card
import Mathlib.Logic.Relation
import RuleLexer.Proofs.Regex.Code

/-!
# The threads that wait at a place

Between two characters, a search carries its threads on until each of them waits at an instruction
that takes a character or ends a match, and enters every address once. What comes out is settled
here, once for all programs:

* `Program.Carries` — carrying on as a relation, in which nothing runs out;
  `Program.carries_waiting` says that the search has enough fuel to follow it;
* `Program.exists_waiting_append` — threads behind others only add to what waits;
* `Program.waiting_keeps` — what a thread cannot lose on the way, the waiting threads have;
* `Program.waiting_inOrder` — the order of the threads is kept;
* `Program.exists_mem_waiting` — an address at which some thread could come to wait is one at which
  a thread does wait, and one that is no later in the order.

The last of them is where entering an address once only has to be justified: whoever entered it
before came from a thread that stands further in front.
-/

namespace RuleLexer.Regex.Program

/-! ### Going on without a character -/

/-- Control slides from one address to another without taking a character. -/
def Slides (p : Program) (text : List Char) (i a b : Nat) : Prop :=
  ∃ instr, p.instrs[a]? = some instr ∧ instr.Passes text i b i

/-- An address at which a thread waits. -/
def Waits (p : Program) (a : Nat) : Prop :=
  (∃ s next, p.instrs[a]? = some (.char s next)) ∨ p.instrs[a]? = some .accept

section Advance

variable {p : Program} {text : List Char} {i : Nat} {t : Thread}

theorem advance?_eq_none_iff {place : Place} : p.advance? place t = none ↔ p.Waits t.address := by
  unfold advance? Waits
  cases p.instrs[t.address]? with
  | none => simp
  | some instr => cases instr <;> simp

theorem slides_iff {a b : Nat} {instr : Instr} (at_a : p.instrs[a]? = some instr) :
    p.Slides text i a b ↔ instr.Passes text i b i := by
  refine ⟨?_, fun pass => ⟨instr, at_a, pass⟩⟩
  rintro ⟨instr', at_a', pass⟩
  rw [at_a] at at_a'
  obtain rfl := Option.some.inj at_a'
  exact pass

/-- A thread that goes on turns into one thread for each address that it slides to. -/
theorem slides_iff_of_advance? {next : List Thread}
    (h : p.advance? (placeAt text i) t = some next) {b : Nat} :
    p.Slides text i t.address b ↔ ∃ u ∈ next, u.address = b := by
  unfold advance? at h
  cases hinstr : p.instrs[t.address]? with
  | none =>
    rw [hinstr] at h
    obtain rfl := Option.some.inj h
    refine ⟨?_, fun ⟨u, hu, _⟩ => absurd hu List.not_mem_nil⟩
    rintro ⟨instr, hinstr', -⟩
    rw [hinstr] at hinstr'
    cases hinstr'
  | some instr =>
    rw [hinstr] at h
    rw [slides_iff hinstr]
    -- both sides are read off the instruction
    cases instr with
    | char | accept => cases h
    | jump next | save slot next =>
      obtain rfl := Option.some.inj h
      simp only [Instr.Passes, List.mem_singleton, exists_eq_left, and_true]
      exact eq_comm
    | split first second =>
      obtain rfl := Option.some.inj h
      simp only [Instr.Passes, List.mem_cons, List.not_mem_nil, or_false, exists_eq_or_imp,
        exists_eq_left, and_true]
      exact or_congr eq_comm eq_comm
    | look l next =>
      obtain rfl := Option.some.inj h
      simp only [Instr.Passes, Look.HoldsAt, true_and]
      split
      · next holds =>
        simp only [holds, List.mem_singleton, exists_eq_left, and_true]
        exact eq_comm
      · next fails => simp [fails]

theorem length_le_of_advance? {place : Place} {next : List Thread}
    (h : p.advance? place t = some next) : next.length ≤ 2 := by
  unfold advance? at h
  split at h
  all_goals first
    | cases h; done
    | obtain rfl := Option.some.inj h
      try split
      all_goals simp

/-- From an address at which a thread waits, control does not slide. -/
theorem Waits.not_slides {a b : Nat} (waits : p.Waits a) : ¬ p.Slides text i a b := by
  rcases waits with ⟨s, next, at_a⟩ | at_a
  · rw [slides_iff at_a]
    rintro ⟨-, same, -⟩
    exact absurd same (Nat.ne_of_lt (Nat.lt_succ_self i))
  · rw [slides_iff at_a]
    exact id

/-- Control that comes to an end slides to an address at which a thread waits, and goes on there. -/
theorem Ends.exists_waits {n a j : Nat} (h : p.Ends text n a i j) :
    ∃ b m, Relation.ReflTransGen (p.Slides text i) a b ∧ p.Waits b ∧ p.Ends text m b i j := by
  induction h with
  | accept at_a => exact ⟨_, 0, .refl, Or.inr at_a, .accept at_a⟩
  | @step n a i b k j instr at_a pass h ih =>
    obtain ⟨c, m, reach, waits, rest⟩ := ih
    have slides (same : k = i) :
        ∃ b m, Relation.ReflTransGen (p.Slides text i) a b ∧ p.Waits b ∧ p.Ends text m b i j := by
      subst same
      exact ⟨c, m, .head ⟨instr, at_a, pass⟩ reach, waits, rest⟩
    cases instr with
    | char s next => exact ⟨a, _, .refl, Or.inl ⟨s, next, at_a⟩, .step at_a pass h⟩
    | look l next => exact slides pass.2.1
    | split first second | save slot next | jump next => exact slides pass.2
    | accept => exact pass.elim

end Advance

/-! ### Carrying on -/

/-- What was gathered at a place so far. -/
structure Gathered where
  /-- The addresses that were entered. -/
  seen : Seen
  /-- The threads that wait, the last one first. -/
  waiting : List Thread

/-- An address is entered. -/
def Gathered.enter (g : Gathered) (a : Nat) : Gathered := { g with seen := g.seen ||| 1 <<< a }

/-- A thread waits at an address that it has entered. -/
def Gathered.add (g : Gathered) (t : Thread) : Gathered :=
  { g.enter t.address with waiting := t :: g.waiting }

theorem Gathered.testBit_enter {g : Gathered} {a b : Nat} :
    (g.enter a).seen.testBit b = true ↔ g.seen.testBit b = true ∨ b = a := by
  rw [enter, Nat.testBit_or, Nat.one_shiftLeft, Nat.testBit_two_pow, Bool.or_eq_true,
    decide_eq_true_iff, eq_comm (a := a)]

/-- **Carrying threads on**, from the first one on, until none is left that could move. -/
inductive Carries (p : Program) (place : Place) : List Thread → Gathered → Gathered → Prop
  | done {g : Gathered} : Carries p place [] g g
  | again {t : Thread} {work : List Thread} {g g' : Gathered} :
    g.seen.testBit t.address = true → Carries p place work g g' → Carries p place (t :: work) g g'
  | on {t : Thread} {work next : List Thread} {g g' : Gathered} :
    g.seen.testBit t.address = false → p.advance? place t = some next →
      Carries p place (next ++ work) (g.enter t.address) g' → Carries p place (t :: work) g g'
  | wait {t : Thread} {work : List Thread} {g g' : Gathered} :
    g.seen.testBit t.address = false → p.advance? place t = none →
      Carries p place work (g.add t) g' → Carries p place (t :: work) g g'

section Fuel

variable {p : Program} {place : Place}

/-- The addresses of a program that were not entered. -/
def unseen (p : Program) (seen : Seen) : Finset Nat :=
  (Finset.range p.instrs.size).filter fun a => seen.testBit a = false

theorem mem_unseen {seen : Seen} {a : Nat} :
    a ∈ p.unseen seen ↔ a < p.instrs.size ∧ seen.testBit a = false := by
  rw [unseen, Finset.mem_filter, Finset.mem_range]

theorem unseen_enter_subset (g : Gathered) (a : Nat) :
    p.unseen (g.enter a).seen ⊆ p.unseen g.seen := by
  intro b hb
  obtain ⟨lt, new⟩ := mem_unseen.1 hb
  refine mem_unseen.2 ⟨lt, ?_⟩
  by_contra old
  have seen : g.seen.testBit b = true := Bool.eq_true_of_not_eq_false old
  have entered := Gathered.testBit_enter (a := a).2 (Or.inl seen)
  rw [new] at entered
  exact absurd entered Bool.false_ne_true

theorem card_unseen_enter_lt {g : Gathered} {a : Nat} (lt : a < p.instrs.size)
    (fresh : g.seen.testBit a = false) :
    (p.unseen (g.enter a).seen).card < (p.unseen g.seen).card := by
  refine Finset.card_lt_card (Finset.ssubset_iff_of_subset (unseen_enter_subset g a) |>.2 ?_)
  refine ⟨a, mem_unseen.2 ⟨lt, fresh⟩, fun ha => ?_⟩
  have entered := Gathered.testBit_enter (g := g) (b := a).2 (Or.inr rfl)
  rw [(mem_unseen.1 ha).2] at entered
  exact absurd entered Bool.false_ne_true

/-- Entering an address adds two threads at most, so that it uses up fuel. -/
theorem fuel_enter {g : Gathered} {t : Thread} {next : List Thread}
    (fresh : g.seen.testBit t.address = false) (h : p.advance? place t = some next) :
    2 * (p.unseen (g.enter t.address).seen).card + next.length ≤ 2 * (p.unseen g.seen).card := by
  by_cases lt : t.address < p.instrs.size
  · have less := card_unseen_enter_lt lt fresh
    have le := length_le_of_advance? h
    omega
  -- Entering an address outside the program makes nothing less, but no thread comes of it.
  · have gone : p.instrs[t.address]? = none := Array.getElem?_eq_none (Nat.le_of_not_lt lt)
    have nothing : p.advance? place t = some [] := by rw [advance?, gone]
    rw [nothing] at h
    obtain rfl := Option.some.inj h
    have le := Finset.card_le_card (unseen_enter_subset (p := p) g t.address)
    rw [List.length_nil]
    omega

/-- With enough fuel, threads are carried on to the end. -/
theorem carries_carryOn {fuel : Nat} {work : List Thread} {g : Gathered}
    (enough : 2 * (p.unseen g.seen).card + work.length < fuel) :
    ∃ g', p.Carries place work g g' ∧
      p.carryOn place fuel work g.seen g.waiting = g'.waiting.reverse := by
  -- Each of the three cases lowers the measure: an address entered before takes a thread from the
  -- work, a new one that goes on is paid for by `fuel_enter`, and one to wait at does both.
  induction fuel generalizing work g with
  | zero => exact absurd enough (Nat.not_lt_zero _)
  | succ fuel ih =>
    cases work with
    | nil => exact ⟨g, .done, rfl⟩
    | cons t work =>
      rw [List.length_cons] at enough
      rw [carryOn]
      by_cases old : g.seen.testBit t.address = true
      · have enough' : 2 * (p.unseen g.seen).card + work.length < fuel := by omega
        obtain ⟨g', carries, eq⟩ := ih enough'
        rw [if_pos old]
        exact ⟨g', .again old carries, eq⟩
      · have fresh : g.seen.testBit t.address = false := Bool.eq_false_of_not_eq_true old
        rw [if_neg old]
        cases h : p.advance? place t with
        | some next =>
          have less := fuel_enter fresh h
          have enough' : 2 * (p.unseen (g.enter t.address).seen).card + (next ++ work).length <
              fuel := by
            rw [List.length_append]
            omega
          obtain ⟨g', carries, eq⟩ := ih enough'
          exact ⟨g', .on fresh h carries, eq⟩
        | none =>
          have le := Finset.card_le_card (unseen_enter_subset (p := p) g t.address)
          have enough' : 2 * (p.unseen (g.add t).seen).card + work.length < fuel := by
            show 2 * (p.unseen (g.enter t.address).seen).card + work.length < fuel
            omega
          obtain ⟨g', carries, eq⟩ := ih enough'
          exact ⟨g', .wait fresh h carries, eq⟩

/-- **The threads that wait** are those that are left when all are carried on. -/
theorem carries_waiting (p : Program) (place : Place) (work : List Thread) :
    ∃ g, p.Carries place work ⟨0, []⟩ g ∧ p.waiting place work = g.waiting.reverse := by
  refine carries_carryOn (g := ⟨0, []⟩) ?_
  have le : (p.unseen 0).card ≤ p.instrs.size :=
    calc (p.unseen 0).card ≤ (Finset.range p.instrs.size).card := Finset.card_filter_le _ _
      _ = p.instrs.size := Finset.card_range _
  show 2 * (p.unseen 0).card + work.length < 2 * p.instrs.size + work.length + 1
  omega

end Fuel

/-! ### What carrying on keeps -/

section Invariants

variable {p : Program} {place : Place}

/-- There is one way of carrying threads on. -/
theorem Carries.unique {work : List Thread} {g g' g'' : Gathered} (h : p.Carries place work g g')
    (h' : p.Carries place work g g'') : g' = g'' := by
  induction h with
  | done =>
    cases h'
    rfl
  | again old _ ih =>
    cases h' with
    | again _ h' => exact ih h'
    | on fresh | wait fresh => exact absurd (old.symm.trans fresh) Bool.noConfusion
  | on fresh advance _ ih =>
    cases h' with
    | again old => exact absurd (old.symm.trans fresh) Bool.noConfusion
    | on _ advance' h' =>
      obtain rfl := Option.some.inj (advance.symm.trans advance')
      exact ih h'
    | wait _ stays => cases advance.symm.trans stays
  | wait fresh stays _ ih =>
    cases h' with
    | again old => exact absurd (old.symm.trans fresh) Bool.noConfusion
    | on _ advance => cases advance.symm.trans stays
    | wait _ _ h' => exact ih h'

/-- A property of threads that going on keeps. -/
def Kept (p : Program) (place : Place) (P : Thread → Prop) : Prop :=
  ∀ {t : Thread} {next : List Thread}, P t → p.advance? place t = some next → ∀ u ∈ next, P u

/-- What all threads have at the start, the waiting threads have. -/
theorem Carries.keeps {P : Thread → Prop} (kept : p.Kept place P) {work : List Thread}
    {g g' : Gathered} (h : p.Carries place work g g') (all : ∀ t ∈ work, P t)
    (waiting : ∀ t ∈ g.waiting, P t) : ∀ t ∈ g'.waiting, P t := by
  induction h with
  | done => exact waiting
  | again _ _ ih => exact ih (fun t ht => all t (List.mem_cons_of_mem _ ht)) waiting
  | on _ advance _ ih =>
    refine ih (fun u hu => ?_) waiting
    rcases List.mem_append.1 hu with hu | hu
    · exact kept (all _ List.mem_cons_self) advance u hu
    · exact all u (List.mem_cons_of_mem _ hu)
  | wait _ _ _ ih =>
    refine ih (fun t ht => all t (List.mem_cons_of_mem _ ht)) fun u hu => ?_
    rcases List.mem_cons.1 hu with rfl | hu
    · exact all u List.mem_cons_self
    · exact waiting u hu

/-- A rank of threads that going on does not change. -/
def Ranked (p : Program) (place : Place) (P : Thread → Prop) (rank : Thread → Nat) : Prop :=
  ∀ {t : Thread} {next : List Thread}, P t → p.advance? place t = some next →
    ∀ u ∈ next, rank u = rank t

/-- Threads are in the order of their rank. -/
def InOrder (rank : Thread → Nat) (threads : List Thread) : Prop :=
  threads.Pairwise (rank · ≤ rank ·)

/-- Two threads at most stand in for one, and have its rank. -/
theorem InOrder.replace {rank : Thread → Nat} {before next after : List Thread} {t : Thread}
    (same : ∀ u ∈ next, rank u = rank t) (h : InOrder rank (before ++ t :: after)) :
    InOrder rank (before ++ (next ++ after)) := by
  obtain ⟨hb, hta, cross⟩ := List.pairwise_append.1 h
  obtain ⟨ht, ha⟩ := List.pairwise_cons.1 hta
  refine List.pairwise_append.2 ⟨hb, List.pairwise_append.2 ⟨?_, ha, ?_⟩, ?_⟩
  · refine List.pairwise_of_forall_mem_list fun u hu v hv => ?_
    rw [same u hu, same v hv]
  · intro u hu v hv
    rw [same u hu]
    exact ht v hv
  · intro u hu v hv
    rcases List.mem_append.1 hv with hv | hv
    · rw [same v hv]
      exact cross u hu t List.mem_cons_self
    · exact cross u hu v (List.mem_cons_of_mem t hv)

/-- Carrying on keeps the order: the threads that wait stand in front of those left to carry on. -/
theorem Carries.inOrder {P : Thread → Prop} {rank : Thread → Nat} (kept : p.Kept place P)
    (ranked : p.Ranked place P rank) {work : List Thread} {g g' : Gathered}
    (h : p.Carries place work g g') (all : ∀ t ∈ work, P t)
    (order : InOrder rank (g.waiting.reverse ++ work)) : InOrder rank g'.waiting.reverse := by
  induction h with
  | done =>
    rw [List.append_nil] at order
    exact order
  | again _ _ ih =>
    refine ih (fun t ht => all t (List.mem_cons_of_mem _ ht)) ?_
    exact order.sublist ((List.sublist_cons_self _ _).append_left _)
  | on _ advance _ ih =>
    have ht := all _ List.mem_cons_self
    refine ih (fun u hu => ?_) (order.replace (ranked ht advance))
    rcases List.mem_append.1 hu with hu | hu
    · exact kept ht advance u hu
    · exact all u (List.mem_cons_of_mem _ hu)
  | @wait t work g g' _ _ _ ih =>
    refine ih (fun t ht => all t (List.mem_cons_of_mem _ ht)) ?_
    show InOrder rank ((t :: g.waiting).reverse ++ work)
    rw [List.reverse_cons, List.append_assoc]
    exact order

/-- Threads in front are carried on before those behind them. -/
theorem Carries.split {front back : List Thread} {g g' : Gathered}
    (h : p.Carries place (front ++ back) g g') :
    ∃ mid, p.Carries place front g mid ∧ p.Carries place back mid g' := by
  -- The induction is on how all threads are carried on; a new thread always comes in front.
  generalize hw : front ++ back = work at h
  induction h generalizing front with
  | done =>
    obtain ⟨rfl, rfl⟩ := List.append_eq_nil_iff.1 hw
    exact ⟨_, .done, .done⟩
  | @again t work g g' old h ih =>
    cases front with
    | nil =>
      obtain rfl : back = t :: work := hw
      exact ⟨g, .done, .again old h⟩
    | cons u front =>
      obtain ⟨rfl, rfl⟩ := List.cons.inj hw
      obtain ⟨mid, first, second⟩ := ih rfl
      exact ⟨mid, .again old first, second⟩
  | @on t work next g g' fresh advance h ih =>
    cases front with
    | nil =>
      obtain rfl : back = t :: work := hw
      exact ⟨g, .done, .on fresh advance h⟩
    | cons u front =>
      obtain ⟨rfl, rfl⟩ := List.cons.inj hw
      obtain ⟨mid, first, second⟩ := ih (List.append_assoc next front back)
      exact ⟨mid, .on fresh advance first, second⟩
  | @wait t work g g' fresh advance h ih =>
    cases front with
    | nil =>
      obtain rfl : back = t :: work := hw
      exact ⟨g, .done, .wait fresh advance h⟩
    | cons u front =>
      obtain ⟨rfl, rfl⟩ := List.cons.inj hw
      obtain ⟨mid, first, second⟩ := ih rfl
      exact ⟨mid, .wait fresh advance first, second⟩

/-- Threads come to wait behind those that wait already. -/
theorem Carries.grows {work : List Thread} {g g' : Gathered} (h : p.Carries place work g g') :
    ∃ new, g'.waiting = new ++ g.waiting := by
  induction h with
  | done => exact ⟨[], rfl⟩
  | again _ _ ih => exact ih
  | on _ _ _ ih => exact ih
  | wait _ _ _ ih =>
    obtain ⟨new, eq⟩ := ih
    exact ⟨new ++ [_], eq.trans (List.append_cons _ _ _)⟩

/-- A thread that waits goes on waiting. -/
theorem Carries.mem {work : List Thread} {g g' : Gathered} (h : p.Carries place work g g')
    {t : Thread} (ht : t ∈ g.waiting) : t ∈ g'.waiting := by
  obtain ⟨new, eq⟩ := h.grows
  rw [eq]
  exact List.mem_append_right new ht

/-- A thread comes to wait only where threads wait. -/
theorem Carries.waits {work : List Thread} {g g' : Gathered} (h : p.Carries place work g g')
    (waiting : ∀ t ∈ g.waiting, p.Waits t.address) : ∀ t ∈ g'.waiting, p.Waits t.address := by
  induction h with
  | done => exact waiting
  | again _ _ ih => exact ih waiting
  | on _ _ _ ih => exact ih waiting
  | wait _ advance _ ih =>
    refine ih fun u hu => ?_
    rcases List.mem_cons.1 hu with rfl | hu
    · exact advance?_eq_none_iff.1 advance
    · exact waiting u hu

end Invariants

/-! ### Every address is reached -/

section Reach

variable {p : Program} {text : List Char} {i : Nat}

/-- Everything that can be done from the addresses entered so far has been done, or is left to the
threads `work`. -/
structure Settled (p : Program) (text : List Char) (i : Nat) (work : List Thread) (g : Gathered) :
    Prop where
  /-- Where control slides to was entered, or a thread stands there. -/
  slides : ∀ {a b : Nat}, g.seen.testBit a = true → p.Slides text i a b →
    g.seen.testBit b = true ∨ ∃ t ∈ work, t.address = b
  /-- Where threads wait, one waits. -/
  waits : ∀ {a : Nat}, g.seen.testBit a = true → p.Waits a → ∃ t ∈ g.waiting, t.address = a

theorem settled_start (work : List Thread) : p.Settled text i work ⟨0, []⟩ where
  slides seen := absurd seen (by simp)
  waits seen := absurd seen (by simp)

/-- When no thread is left, everything was entered that control can slide to. -/
theorem Settled.reach {g : Gathered} (h : p.Settled text i [] g) {a b : Nat}
    (seen : g.seen.testBit a = true) (reach : Relation.ReflTransGen (p.Slides text i) a b) :
    g.seen.testBit b = true := by
  induction reach with
  | refl => exact seen
  | tail _ slides ih =>
    rcases h.slides ih slides with seen | ⟨t, ht, -⟩
    · exact seen
    · exact absurd ht List.not_mem_nil

/-- Carrying on leaves nothing undone, and enters the addresses of all its threads. -/
theorem Carries.settled {work : List Thread} {g g' : Gathered}
    (h : p.Carries (placeAt text i) work g g') (settled : p.Settled text i work g) :
    p.Settled text i [] g' ∧ (∀ {a : Nat}, g.seen.testBit a = true → g'.seen.testBit a = true) ∧
      ∀ t ∈ work, g'.seen.testBit t.address = true := by
  induction h with
  | done => exact ⟨settled, id, fun t ht => absurd ht List.not_mem_nil⟩
  | @again t work g g' old h ih =>
    obtain ⟨done, grows, enters⟩ := ih
      { waits := settled.waits
        slides := fun seen slides => by
          rcases settled.slides seen slides with seen | ⟨u, hu, rfl⟩
          · exact Or.inl seen
          · rcases List.mem_cons.1 hu with rfl | hu
            · exact Or.inl old
            · exact Or.inr ⟨u, hu, rfl⟩ }
    refine ⟨done, grows, fun u hu => ?_⟩
    rcases List.mem_cons.1 hu with rfl | hu
    · exact grows old
    · exact enters u hu
  | @on t work next g g' fresh advance h ih =>
    -- What slides from the address of `t` is now left to the threads that `t` turns into.
    have entered {a : Nat} (ha : g.seen.testBit a = true ∨ a = t.address) :
        (g.enter t.address).seen.testBit a = true := Gathered.testBit_enter.2 ha
    obtain ⟨done, grows, enters⟩ := ih
      { waits := fun seen waits => by
          rcases Gathered.testBit_enter.1 seen with seen | rfl
          · exact settled.waits seen waits
          · have stays : p.advance? (placeAt text i) t = none := advance?_eq_none_iff.2 waits
            rw [advance] at stays
            cases stays
        slides := fun seen slides => by
          rcases Gathered.testBit_enter.1 seen with seen | rfl
          · rcases settled.slides seen slides with seen | ⟨u, hu, rfl⟩
            · exact Or.inl (entered (Or.inl seen))
            · rcases List.mem_cons.1 hu with rfl | hu
              · exact Or.inl (entered (Or.inr rfl))
              · exact Or.inr ⟨u, List.mem_append_right _ hu, rfl⟩
          · obtain ⟨u, hu, rfl⟩ := (slides_iff_of_advance? advance).1 slides
            exact Or.inr ⟨u, List.mem_append_left _ hu, rfl⟩ }
    refine ⟨done, fun seen => grows (entered (Or.inl seen)), fun u hu => ?_⟩
    rcases List.mem_cons.1 hu with rfl | hu
    · exact grows (entered (Or.inr rfl))
    · exact enters u (List.mem_append_right _ hu)
  | @wait t work g g' fresh advance h ih =>
    -- Nothing slides from the address of `t`, which is one to wait at.
    have entered {a : Nat} (ha : g.seen.testBit a = true ∨ a = t.address) :
        (g.add t).seen.testBit a = true := Gathered.testBit_enter.2 ha
    have waits_t := advance?_eq_none_iff.1 advance
    obtain ⟨done, grows, enters⟩ := ih
      { waits := fun seen waits => by
          rcases Gathered.testBit_enter.1 seen with seen | rfl
          · obtain ⟨u, hu, rfl⟩ := settled.waits seen waits
            exact ⟨u, List.mem_cons_of_mem t hu, rfl⟩
          · exact ⟨t, List.mem_cons_self, rfl⟩
        slides := fun seen slides => by
          rcases Gathered.testBit_enter.1 seen with seen | rfl
          · rcases settled.slides seen slides with seen | ⟨u, hu, rfl⟩
            · exact Or.inl (entered (Or.inl seen))
            · rcases List.mem_cons.1 hu with rfl | hu
              · exact Or.inl (entered (Or.inr rfl))
              · exact Or.inr ⟨u, hu, rfl⟩
          · exact absurd slides (waits_t.not_slides) }
    refine ⟨done, fun seen => grows (entered (Or.inl seen)), fun u hu => ?_⟩
    rcases List.mem_cons.1 hu with rfl | hu
    · exact grows (entered (Or.inr rfl))
    · exact enters u hu

end Reach

/-! ### The threads that wait -/

section Waiting

variable {p : Program} {place : Place} {text : List Char} {i : Nat} {work : List Thread}
  {P : Thread → Prop} {rank : Thread → Nat}

theorem Carries.waiting_eq {g : Gathered} (h : p.Carries place work ⟨0, []⟩ g) :
    p.waiting place work = g.waiting.reverse := by
  obtain ⟨g', h', eq⟩ := p.carries_waiting place work
  rw [eq, h.unique h']

/-- Threads behind others add to what waits, and change nothing of it. -/
theorem exists_waiting_append (p : Program) (place : Place) (front back : List Thread) :
    ∃ more, p.waiting place (front ++ back) = p.waiting place front ++ more ∧
      (back = [] → more = []) := by
  cases back with
  | nil =>
    rw [List.append_nil]
    exact ⟨[], (List.append_nil _).symm, fun _ => rfl⟩
  | cons t back =>
    obtain ⟨g, carries, eq⟩ := p.carries_waiting place (front ++ t :: back)
    obtain ⟨mid, first, second⟩ := carries.split
    obtain ⟨new, hnew⟩ := second.grows
    refine ⟨new.reverse, ?_, nofun⟩
    rw [eq, first.waiting_eq, hnew, List.reverse_append]

/-- **What going on keeps, the waiting threads have** if all threads have it before. -/
theorem waiting_keeps (kept : p.Kept (placeAt text i) P) (all : ∀ t ∈ work, P t) :
    ∀ t ∈ p.waiting (placeAt text i) work, P t := by
  obtain ⟨g, carries, eq⟩ := p.carries_waiting (placeAt text i) work
  intro t ht
  rw [eq, List.mem_reverse] at ht
  exact carries.keeps kept all (fun t ht => absurd ht List.not_mem_nil) t ht

/-- **The order of the threads is kept.** -/
theorem waiting_inOrder (kept : p.Kept (placeAt text i) P)
    (ranked : p.Ranked (placeAt text i) P rank) (all : ∀ t ∈ work, P t) (order : InOrder rank work) :
    InOrder rank (p.waiting (placeAt text i) work) := by
  obtain ⟨g, carries, eq⟩ := p.carries_waiting (placeAt text i) work
  rw [eq]
  exact carries.inOrder kept ranked all order

/-- All threads that wait do so at an address where threads wait. -/
theorem waits_of_mem_waiting {t : Thread} (ht : t ∈ p.waiting place work) :
    p.Waits t.address := by
  obtain ⟨g, carries, eq⟩ := p.carries_waiting place work
  rw [eq, List.mem_reverse] at ht
  exact carries.waits (fun t ht => absurd ht List.not_mem_nil) t ht

/-- **A thread waits wherever one could**, and it is of no higher rank than the one that could. -/
theorem exists_mem_waiting (kept : p.Kept (placeAt text i) P)
    (ranked : p.Ranked (placeAt text i) P rank) (all : ∀ t ∈ work, P t)
    (order : InOrder rank work) {t : Thread} (ht : t ∈ work) {b : Nat}
    (reach : Relation.ReflTransGen (p.Slides text i) t.address b) (waits : p.Waits b) :
    ∃ u ∈ p.waiting (placeAt text i) work, u.address = b ∧ rank u ≤ rank t := by
  obtain ⟨g, carries, eq⟩ := p.carries_waiting (placeAt text i) work
  -- What is done with the threads up to `t` is enough to have one wait at `b`.
  obtain ⟨front, back, rfl⟩ := List.append_of_mem ht
  have front_le : ∀ u ∈ front ++ [t], P u ∧ rank u ≤ rank t := by
    intro u hu
    rcases List.mem_append.1 hu with hu | hu
    · have le := (List.pairwise_append.1 order).2.2 u hu t List.mem_cons_self
      exact ⟨all u (List.mem_append_left _ hu), le⟩
    · obtain rfl := List.mem_singleton.1 hu
      exact ⟨all u ht, Nat.le_refl _⟩
  have carries' : p.Carries (placeAt text i) ((front ++ [t]) ++ back) ⟨0, []⟩ g := by
    rw [List.append_assoc]
    exact carries
  obtain ⟨mid, first, second⟩ := carries'.split
  obtain ⟨settled, -, enters⟩ := first.settled (settled_start _)
  have seen : mid.seen.testBit b = true :=
    settled.reach (enters t (List.mem_append_right _ (List.mem_singleton.2 rfl))) reach
  obtain ⟨u, hu, rfl⟩ := settled.waits seen waits
  have kept' : p.Kept (placeAt text i) fun u => P u ∧ rank u ≤ rank t := by
    intro v next hv advance u hu
    refine ⟨kept hv.1 advance u hu, ?_⟩
    rw [ranked hv.1 advance u hu]
    exact hv.2
  have le := first.keeps kept' front_le (fun t ht => absurd ht List.not_mem_nil) u hu
  refine ⟨u, ?_, rfl, le.2⟩
  rw [eq, List.mem_reverse]
  exact second.mem hu

end Waiting

end RuleLexer.Regex.Program
