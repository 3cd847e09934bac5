import RuleLexer.Proofs.Regex.Captures

/-!
# The search finds the preferred match

Of all the ways in which a program can come to an end from one place, the program prefers one: at
every split it takes the first address if control can come to an end from there at all, and the
second one otherwise. A search does not try one way after the other, but carries all of them along
side by side; it finds the preferred one all the same.

* `Program.CanEnd` — control can come to an end from an address at a place;
* `Program.Prefers` — the preferred way of coming to an end;
* `Program.Led` — among threads in their order, the first one that can come to an end at all does so
  by the preferred way.

Threads that are led stay so when they are carried on (`Led.waiting`) and when they take a character
(`Led.ends_or_takes`), until the leading thread ends a match, behind which nothing else can be found
(`run_of_dead`). The point that needs an argument is that every address is entered once only: could
an earlier thread take away an address from the leading one? It could not, because such a thread
either cannot come to an end, or it is the leading thread itself, which would then be going round in
a circle (`Prefers.steps_eq`). Main statement: `search?_of_prefers`.
-/

namespace RuleLexer.Regex

theorem Instr.Moves.passes {text : List Char} {instr : Instr} {s r : Point} {b : Nat}
    (moves : instr.Moves text s b r) : instr.Passes text s.place b r.place := by
  cases instr with
  | char cs next =>
    obtain ⟨rfl, k, matched, rfl⟩ := moves
    exact ⟨rfl, matched⟩
  | look l next =>
    obtain ⟨rfl, holds, rfl⟩ := moves
    exact ⟨rfl, rfl, holds⟩
  | split first second =>
    obtain ⟨either, rfl⟩ := moves
    exact ⟨either, rfl⟩
  | save slot next =>
    obtain ⟨rfl, rfl⟩ := moves
    exact ⟨rfl, rfl⟩
  | jump next =>
    obtain ⟨rfl, rfl⟩ := moves
    exact ⟨rfl, rfl⟩
  | accept => exact moves.elim

namespace Program

variable {p : Program} {text : List Char}

/-! ### The preferred way -/

/-- **Control can come to an end** from the address `a` at the place `i`. -/
def CanEnd (p : Program) (text : List Char) (a i : Nat) : Prop := ∃ n j, p.Ends text n a i j

theorem CanEnd.step {a b i k : Nat} {instr : Instr} (at_a : p.instrs[a]? = some instr)
    (pass : instr.Passes text i b k) (h : p.CanEnd text b k) : p.CanEnd text a i := by
  obtain ⟨n, j, ends⟩ := h
  exact ⟨n + 1, j, .step at_a pass ends⟩

/-- **The preferred way of coming to an end** from the address `a` at one point, in `n` steps: the
second address of a split is taken only where control cannot come to an end from the first. -/
inductive Prefers (p : Program) (text : List Char) : Nat → Nat → Point → Point → Prop
  | accept {a : Nat} {s : Point} : p.instrs[a]? = some .accept → Prefers p text 0 a s s
  /-- Where there is no split, there is one way to go on at most. -/
  | step {n a b : Nat} {s r t : Point} {instr : Instr} : p.instrs[a]? = some instr →
    (∀ x y, instr ≠ .split x y) → instr.Moves text s b r → Prefers p text n b r t →
      Prefers p text (n + 1) a s t
  | first {n a x y : Nat} {s t : Point} : p.instrs[a]? = some (.split x y) →
    Prefers p text n x s t → Prefers p text (n + 1) a s t
  | second {n a x y : Nat} {s t : Point} : p.instrs[a]? = some (.split x y) →
    ¬ p.CanEnd text x s.place → Prefers p text n y s t → Prefers p text (n + 1) a s t

theorem Prefers.canEnd {n a : Nat} {s t : Point} (h : p.Prefers text n a s t) :
    p.CanEnd text a s.place := by
  induction h with
  | accept at_a => exact ⟨0, _, .accept at_a⟩
  | step at_a _ moves _ ih => exact ih.step at_a moves.passes
  | first at_a _ ih => exact ih.step at_a ⟨Or.inl rfl, rfl⟩
  | second at_a _ _ ih => exact ih.step at_a ⟨Or.inr rfl, rfl⟩

/-- Where there is no split, the place alone decides where to go on. -/
theorem moves_eq {instr : Instr} (straight : ∀ x y, instr ≠ .split x y) {s s' r r' : Point}
    {b b' : Nat} (same : s.place = s'.place) (moves : instr.Moves text s b r)
    (moves' : instr.Moves text s' b' r') : b = b' ∧ r.place = r'.place := by
  cases instr with
  | char cs next =>
    obtain ⟨rfl, k, ⟨rfl, -⟩, rfl⟩ := moves
    obtain ⟨rfl, k', ⟨rfl, -⟩, rfl⟩ := moves'
    exact ⟨rfl, congrArg (· + 1) same⟩
  | look l next =>
    obtain ⟨rfl, -, rfl⟩ := moves
    obtain ⟨rfl, -, rfl⟩ := moves'
    exact ⟨rfl, same⟩
  | split x y => exact absurd rfl (straight x y)
  | save slot next =>
    obtain ⟨rfl, rfl⟩ := moves
    obtain ⟨rfl, rfl⟩ := moves'
    exact ⟨rfl, same⟩
  | jump next =>
    obtain ⟨rfl, rfl⟩ := moves
    obtain ⟨rfl, rfl⟩ := moves'
    exact ⟨rfl, same⟩
  | accept => exact moves.elim

/-! What the preferred way does at an instruction is read off the instruction. -/

section Steps

variable {n a x y : Nat} {s t : Point} {instr : Instr}

theorem Prefers.at_accept (h : p.Prefers text n a s t) (at_a : p.instrs[a]? = some .accept) :
    n = 0 ∧ t = s := by
  rcases h with _ | ⟨at_a', -, moves, -⟩ | ⟨at_a', -⟩ | ⟨at_a', -, -⟩
  · exact ⟨rfl, rfl⟩
  all_goals have same := Option.some.inj (at_a.symm.trans at_a')
  · subst same
    exact moves.elim
  · cases same
  · cases same

theorem Prefers.at_straight (h : p.Prefers text n a s t) (at_a : p.instrs[a]? = some instr)
    (ne : instr ≠ .accept) (straight : ∀ x y, instr ≠ .split x y) :
    ∃ m b r, n = m + 1 ∧ instr.Moves text s b r ∧ p.Prefers text m b r t := by
  rcases h with at_a' | ⟨at_a', -, moves, rest⟩ | ⟨at_a', -⟩ | ⟨at_a', -, -⟩
  all_goals have same := Option.some.inj (at_a.symm.trans at_a')
  · exact absurd same ne
  · subst same
    exact ⟨_, _, _, rfl, moves, rest⟩
  · exact absurd same (straight _ _)
  · exact absurd same (straight _ _)

theorem Prefers.at_split (h : p.Prefers text n a s t) (at_a : p.instrs[a]? = some (.split x y)) :
    ∃ m, n = m + 1 ∧
      (p.Prefers text m x s t ∨ ¬ p.CanEnd text x s.place ∧ p.Prefers text m y s t) := by
  rcases h with at_a' | ⟨at_a', straight, -, -⟩ | ⟨at_a', rest⟩ | ⟨at_a', dead, rest⟩
  all_goals have same := Option.some.inj (at_a.symm.trans at_a')
  · cases same
  · exact absurd same.symm (straight x y)
  · obtain ⟨rfl, rfl⟩ := Instr.split.inj same
    exact ⟨_, rfl, Or.inl rest⟩
  · obtain ⟨rfl, rfl⟩ := Instr.split.inj same
    exact ⟨_, rfl, Or.inr ⟨dead, rest⟩⟩

end Steps

/-- **The number of steps** of the preferred way depends on the address and the place only. So the
preferred way never comes to an address twice at one place. -/
theorem Prefers.steps_eq {n n' a : Nat} {s s' t t' : Point} (h : p.Prefers text n a s t)
    (h' : p.Prefers text n' a s' t') (same : s.place = s'.place) : n = n' := by
  induction h generalizing n' s' t' with
  | accept at_a => exact (h'.at_accept at_a).1.symm
  | @step n a b s r t instr at_a straight moves _ ih =>
    have ne : instr ≠ .accept := by
      rintro rfl
      exact moves
    obtain ⟨m, b', r', rfl, moves', rest⟩ := h'.at_straight at_a ne straight
    obtain ⟨rfl, same⟩ := moves_eq straight same moves moves'
    exact congrArg (· + 1) (ih rest same)
  | first at_a rest ih =>
    obtain ⟨m, rfl, rest' | ⟨dead, -⟩⟩ := h'.at_split at_a
    · exact congrArg (· + 1) (ih rest' same)
    · exact absurd (same ▸ rest.canEnd) dead
  | second at_a dead _ ih =>
    obtain ⟨m, rfl, rest' | ⟨-, rest'⟩⟩ := h'.at_split at_a
    · exact absurd (same ▸ rest'.canEnd) dead
    · exact congrArg (· + 1) (ih rest' same)

/-! ### Threads that are led -/

/-- No thread can come to an end. -/
def Dead (p : Program) (text : List Char) (k : Nat) (threads : List Thread) : Prop :=
  ∀ t ∈ threads, ¬ p.CanEnd text t.address k

/-- **Threads are led** to the point `r`: in front are threads that cannot come to an end, and
behind them is one whose preferred way ends there. -/
def Led (p : Program) (text : List Char) (k : Nat) (threads : List Thread) (r : Point) : Prop :=
  ∃ front t back, threads = front ++ t :: back ∧ p.Dead text k front ∧
    ∃ n, p.Prefers text n t.address ⟨k, t.slots⟩ r

section Threads

variable {k : Nat} {t : Thread} {r : Point} {threads front back : List Thread}

theorem dead_append :
    p.Dead text k (front ++ back) ↔ p.Dead text k front ∧ p.Dead text k back :=
  List.forall_mem_append

theorem dead_singleton (h : ¬ p.CanEnd text t.address k) : p.Dead text k [t] := by
  intro u hu
  obtain rfl := List.mem_singleton.1 hu
  exact h

theorem led_singleton {n : Nat} (h : p.Prefers text n t.address ⟨k, t.slots⟩ r) :
    p.Led text k [t] r :=
  ⟨[], t, [], rfl, fun _ h => absurd h List.not_mem_nil, n, h⟩

theorem Led.append (h : p.Led text k threads r) (back : List Thread) :
    p.Led text k (threads ++ back) r := by
  obtain ⟨front, t, behind, rfl, dead, prefers⟩ := h
  exact ⟨front, t, behind ++ back, List.append_assoc _ _ _, dead, prefers⟩

theorem Led.behind (h : p.Led text k threads r) (dead : p.Dead text k front) :
    p.Led text k (front ++ threads) r := by
  obtain ⟨front', t, behind, rfl, dead', prefers⟩ := h
  exact ⟨front ++ front', t, behind, (List.append_assoc _ _ _).symm,
    dead_append.2 ⟨dead, dead'⟩, prefers⟩

/-! ### Carrying on threads that are led -/

/-- Carrying on threads that cannot come to an end adds no others, and enters only addresses from
which control cannot come to an end. -/
theorem Carries.dead {work : List Thread} {g g' : Gathered}
    (h : p.Carries (placeAt text k) work g g') (dead : p.Dead text k work) :
    (∃ new, g'.waiting = new ++ g.waiting ∧ p.Dead text k new) ∧
      ∀ a, g'.seen.testBit a = true → g.seen.testBit a = true ∨ ¬ p.CanEnd text a k := by
  induction h with
  | done => exact ⟨⟨[], rfl, fun _ h => absurd h List.not_mem_nil⟩, fun _ => Or.inl⟩
  | again _ _ ih => exact ih fun t ht => dead t (List.mem_cons_of_mem _ ht)
  | @on t work next g g' _ advance _ ih =>
    have gone : ¬ p.CanEnd text t.address k := dead t List.mem_cons_self
    obtain ⟨waiting, seen⟩ := ih fun u hu => by
      rcases List.mem_append.1 hu with hu | hu
      · obtain ⟨instr, at_t, pass⟩ := (slides_iff_of_advance? advance).2 ⟨u, hu, rfl⟩
        exact fun can => gone (can.step at_t pass)
      · exact dead u (List.mem_cons_of_mem _ hu)
    refine ⟨waiting, fun a ha => (seen a ha).elim (fun ha => ?_) Or.inr⟩
    rcases Gathered.testBit_enter.1 ha with ha | rfl
    · exact Or.inl ha
    · exact Or.inr gone
  | @wait t work g g' _ _ _ ih =>
    have gone : ¬ p.CanEnd text t.address k := dead t List.mem_cons_self
    obtain ⟨⟨new, eq, all⟩, seen⟩ := ih fun u hu => dead u (List.mem_cons_of_mem _ hu)
    refine ⟨⟨new ++ [t], ?_, dead_append.2 ⟨all, dead_singleton gone⟩⟩, fun a ha => ?_⟩
    · rw [eq, List.append_assoc]
      rfl
    · rcases seen a ha with ha | ha
      · rcases Gathered.testBit_enter.1 ha with ha | rfl
        · exact Or.inl ha
        · exact Or.inr gone
      · exact Or.inr ha

/-- An instruction that is no split takes a character, or makes one thread of one. -/
theorem advance?_of_moves {a b : Nat} {s r : Point} {instr : Instr}
    (at_a : p.instrs[a]? = some instr) (straight : ∀ x y, instr ≠ .split x y)
    (moves : instr.Moves text s b r) :
    p.advance? (placeAt text s.place) ⟨a, s.slots⟩ = none ∨
      (r.place = s.place ∧
        p.advance? (placeAt text s.place) ⟨a, s.slots⟩ = some [⟨b, r.slots⟩]) := by
  simp only [advance?, at_a]
  cases instr with
  | char cs next => exact Or.inl rfl
  | look l next =>
    obtain ⟨rfl, holds, rfl⟩ := moves
    exact Or.inr ⟨rfl, congrArg some (if_pos holds)⟩
  | split x y => exact absurd rfl (straight x y)
  | save slot next =>
    obtain ⟨rfl, rfl⟩ := moves
    exact Or.inr ⟨rfl, rfl⟩
  | jump next =>
    obtain ⟨rfl, rfl⟩ := moves
    exact Or.inr ⟨rfl, rfl⟩
  | accept => exact moves.elim

theorem advance?_split {a x y : Nat} {place : Place} {slots : Slots}
    (at_a : p.instrs[a]? = some (.split x y)) :
    p.advance? place ⟨a, slots⟩ = some ([⟨x, slots⟩] ++ [⟨y, slots⟩]) := by
  simp only [advance?, at_a]
  rfl

/-- No address was entered from which the preferred way is at most `n` steps long. -/
def Fresh (p : Program) (text : List Char) (k n : Nat) (seen : Seen) : Prop :=
  ∀ b m slots r, seen.testBit b = true → p.Prefers text m b ⟨k, slots⟩ r → n < m

/-- Having entered an address, the preferred way from there has fewer steps to go. -/
theorem Fresh.enter {g : Gathered} {n a : Nat} {slots : Slots}
    (h : p.Fresh text k (n + 1) g.seen) (prefers : p.Prefers text (n + 1) a ⟨k, slots⟩ r) :
    p.Fresh text k n (g.enter a).seen := by
  intro b m slots' r' seen prefers'
  rcases Gathered.testBit_enter.1 seen with seen | rfl
  · exact Nat.lt_of_succ_lt (h b m slots' r' seen prefers')
  · rw [← prefers.steps_eq prefers' rfl]
    exact Nat.lt_succ_self n

/-- A leading thread at an address to wait at comes to wait, and leads itself. -/
theorem Prefers.stays {n a : Nat} {s : Point} {g g' : Gathered} (h : p.Prefers text n a s r)
    (waits : p.advance? (placeAt text s.place) ⟨a, s.slots⟩ = none)
    (fresh : p.Fresh text s.place n g.seen)
    (carries : p.Carries (placeAt text s.place) [⟨a, s.slots⟩] g g') :
    ∃ new, g'.waiting = new ++ g.waiting ∧ p.Led text s.place new.reverse r := by
  rcases carries with _ | ⟨old, -⟩ | ⟨-, advance, -⟩ | ⟨-, -, done⟩
  · exact absurd (fresh _ _ _ _ old h) (Nat.lt_irrefl n)
  · cases waits.symm.trans advance
  · cases done
    exact ⟨[⟨a, s.slots⟩], rfl, led_singleton h⟩

/-- Any other leading thread goes on, its address being entered now. -/
theorem Prefers.goes {n a : Nat} {s : Point} {g g' : Gathered} {next : List Thread}
    (h : p.Prefers text n a s r)
    (advance : p.advance? (placeAt text s.place) ⟨a, s.slots⟩ = some next)
    (fresh : p.Fresh text s.place n g.seen)
    (carries : p.Carries (placeAt text s.place) [⟨a, s.slots⟩] g g') :
    p.Carries (placeAt text s.place) next (g.enter a) g' := by
  rcases carries with _ | ⟨old, -⟩ | ⟨-, advance', rest⟩ | ⟨-, waits, -⟩
  · exact absurd (fresh _ _ _ _ old h) (Nat.lt_irrefl n)
  · obtain rfl := Option.some.inj (advance.symm.trans advance')
    rwa [List.append_nil] at rest
  · cases waits.symm.trans advance

/-- **Carrying on the leading thread** leads the threads that come to wait. -/
theorem Prefers.carries {n a : Nat} {s : Point} (h : p.Prefers text n a s r) {g g' : Gathered}
    (fresh : p.Fresh text s.place n g.seen)
    (carries : p.Carries (placeAt text s.place) [⟨a, s.slots⟩] g g') :
    ∃ new, g'.waiting = new ++ g.waiting ∧ p.Led text s.place new.reverse r := by
  -- along the preferred way; an address is entered, and the thread goes on to the next one
  induction h generalizing g g' with
  | @accept a s at_a =>
    have waits : p.advance? (placeAt text s.place) ⟨a, s.slots⟩ = none :=
      advance?_eq_none_iff.2 (Or.inr at_a)
    exact (Prefers.accept at_a).stays waits fresh carries
  | @step n a b s r t instr at_a straight moves rest ih =>
    have whole : p.Prefers text (n + 1) a s t := .step at_a straight moves rest
    rcases advance?_of_moves at_a straight moves with waits | ⟨here, advance⟩
    · exact whole.stays waits fresh carries
    · have on := whole.goes advance fresh carries
      have fresh' := fresh.enter whole
      rw [← here] at on fresh' ⊢
      exact ih (g := g.enter a) fresh' on
  | @first n a x y s t at_a rest ih =>
    have whole : p.Prefers text (n + 1) a s t := .first at_a rest
    obtain ⟨mid, one, other⟩ := (whole.goes (advance?_split at_a) fresh carries).split
    obtain ⟨new, eq, led⟩ := ih (fresh.enter whole) one
    obtain ⟨more, eq'⟩ := other.grows
    refine ⟨more ++ new, ?_, ?_⟩
    · rw [eq', eq, List.append_assoc]
      rfl
    · rw [List.reverse_append]
      exact led.append more.reverse
  | @second n a x y s t at_a dead rest ih =>
    have whole : p.Prefers text (n + 1) a s t := .second at_a dead rest
    obtain ⟨mid, one, other⟩ := (whole.goes (advance?_split at_a) fresh carries).split
    -- what the first thread does takes no address away from the second one
    obtain ⟨⟨gone, eq, all⟩, seen⟩ := one.dead (dead_singleton dead)
    have fresh' : p.Fresh text s.place n mid.seen := by
      intro b m slots r hb prefers
      rcases seen b hb with hb | hb
      · exact fresh.enter whole _ _ _ _ hb prefers
      · exact absurd prefers.canEnd hb
    obtain ⟨new, eq', led⟩ := ih fresh' other
    refine ⟨new ++ gone, ?_, ?_⟩
    · rw [eq', eq, List.append_assoc]
      rfl
    · rw [List.reverse_append]
      exact led.behind fun u hu => all u (List.mem_reverse.1 hu)

/-- **Threads that are led wait so.** -/
theorem Led.waiting (h : p.Led text k threads r) :
    p.Led text k (p.waiting (placeAt text k) threads) r := by
  obtain ⟨front, t, back, rfl, dead, n, prefers⟩ := h
  obtain ⟨g, carries, eq⟩ := p.carries_waiting (placeAt text k) (front ++ ([t] ++ back))
  obtain ⟨mid, one, others⟩ := carries.split
  obtain ⟨mid', leading, behind⟩ := others.split
  obtain ⟨⟨gone, eq₁, all⟩, seen⟩ := one.dead dead
  have fresh : p.Fresh text k n mid.seen := by
    intro b m slots r hb prefers
    rcases seen b hb with hb | hb
    · exact absurd hb (by simp)
    · exact absurd prefers.canEnd hb
  obtain ⟨new, eq₂, led⟩ := prefers.carries fresh leading
  obtain ⟨more, eq₃⟩ := behind.grows
  show p.Led text k (p.waiting (placeAt text k) (front ++ ([t] ++ back))) r
  rw [eq, eq₃, eq₂, eq₁, List.append_nil, List.reverse_append, List.reverse_append]
  exact (led.behind fun u hu => all u (List.mem_reverse.1 hu)).append more.reverse

theorem Dead.waiting (h : p.Dead text k threads) :
    p.Dead text k (p.waiting (placeAt text k) threads) := by
  obtain ⟨g, carries, eq⟩ := p.carries_waiting (placeAt text k) threads
  obtain ⟨⟨gone, eq', all⟩, -⟩ := carries.dead h
  rw [eq, eq', List.append_nil]
  exact fun u hu => all u (List.mem_reverse.1 hu)

/-! ### Taking a character -/

theorem accepts_iff : p.accepts t = true ↔ p.instrs[t.address]? = some .accept := beq_iff_eq

/-- Threads that cannot come to an end end no match. -/
theorem Dead.not_accepts (h : p.Dead text k threads) : ∀ t ∈ threads, ¬ p.accepts t = true := by
  intro t ht accepts
  exact h t ht ⟨0, k, .accept (accepts_iff.1 accepts)⟩

theorem Dead.take {c : Char} (hc : text[k]? = some c) (h : p.Dead text k threads) :
    p.Dead text (k + 1) (threads.filterMap (p.take? c)) := by
  intro u hu
  obtain ⟨t, ht, take⟩ := List.mem_filterMap.1 hu
  obtain ⟨instr, at_t, moves⟩ := moves_of_take? hc take
  exact fun can => h t ht (can.step at_t moves.passes)

/-- **The leading thread** ends a match here, or takes the next character and leads on. -/
theorem Led.ends_or_takes (h : p.Led text k threads r)
    (waits : ∀ t ∈ threads, p.Waits t.address) :
    ((threads.find? p.accepts).map (·.slots) = some r.slots ∧
      p.Dead text k (threads.takeWhile (!p.accepts ·))) ∨
    ∃ c, text[k]? = some c ∧
      p.Led text (k + 1) ((threads.takeWhile (!p.accepts ·)).filterMap (p.take? c)) r := by
  obtain ⟨front, t, back, rfl, dead, n, prefers⟩ := h
  have quiet : ∀ u ∈ front, (!p.accepts u) = true :=
    fun u hu => Bool.not_eq_true' _ ▸ Bool.eq_false_iff.2 (dead.not_accepts u hu)
  have here : p.Waits t.address :=
    waits t (List.mem_append_right front List.mem_cons_self)
  rw [List.takeWhile_append_of_pos quiet]
  rcases here with ⟨cs, next, at_t⟩ | at_t
  · -- the thread takes a character, since it has no other way to come to an end
    refine Or.inr ?_
    obtain ⟨m, b, r', rfl, moves, rest⟩ := prefers.at_straight at_t Instr.noConfusion nofun
    obtain ⟨rfl, i, ⟨rfl, c, hc, contains⟩, rfl⟩ := moves
    have goes_on : (!p.accepts t) = true := by
      rw [accepts, at_t]
      rfl
    have take : p.take? c t = some ⟨b, t.slots⟩ := by
      rw [take?, at_t]
      exact if_pos contains
    refine ⟨c, hc, ?_⟩
    rw [List.takeWhile_cons, if_pos goes_on, List.filterMap_append, List.filterMap_cons_some take]
    exact Led.behind ((led_singleton rest).append _) (dead.take hc)
  · -- the thread ends a match, and nothing in front of it does
    refine Or.inl ?_
    have ends : p.accepts t = true := accepts_iff.2 at_t
    obtain ⟨-, rfl⟩ := prefers.at_accept at_t
    constructor
    · rw [List.find?_append, List.find?_eq_none.2 dead.not_accepts, List.find?_cons_of_pos ends]
      rfl
    · rw [List.takeWhile_cons, if_neg (by rw [ends]; exact Bool.false_ne_true), List.append_nil]
      exact dead

/-! ### Running -/

/-- The best match having been found, threads that cannot come to an end find nothing else. -/
theorem run_of_dead {rest : List Char} (hrest : text.drop k = rest) (dead : p.Dead text k threads)
    (f : Slots) : p.run k (placeAt text k).before rest threads (some f) = some f := by
  have kept {k : Nat} {waiting : List Thread} (dead : p.Dead text k waiting) :
      ((waiting.find? p.accepts).map (·.slots) <|> some f) = some f := by
    rw [List.find?_eq_none.2 dead.not_accepts]
    rfl
  have no_starters (k : Nat) : starters p k (some f) = [] := rfl
  induction rest generalizing k threads with
  | nil =>
    have last : text[k]? = none := List.getElem?_eq_none (List.drop_eq_nil_iff.1 hrest)
    rw [run, threads_append_starters, placeAt_eq last, no_starters, List.append_nil]
    exact kept dead.waiting
  | cons c cs ih =>
    have hc : text[k]? = some c := getElem?_of_drop hrest
    rw [run, threads_append_starters, placeAt_eq hc, no_starters, List.append_nil]
    simp only [kept dead.waiting]
    split
    · rfl
    · rw [← placeAt_succ_before hc]
      refine ih ?_ (Dead.take hc fun t ht => ?_)
      · rw [← List.drop_drop, hrest]
        rfl
      · exact dead.waiting t ((List.takeWhile_sublist _).subset ht)

/-- **A search whose threads are led** finds where they are led to. -/
theorem run_of_led {rest : List Char} {found : Option Slots} (hrest : text.drop k = rest)
    (led : p.Led text k (threads ++ starters p k found) r) :
    p.run k (placeAt text k).before rest threads found = some r.slots := by
  induction rest generalizing k threads found with
  | nil =>
    have last : text[k]? = none := List.getElem?_eq_none (List.drop_eq_nil_iff.1 hrest)
    rw [run, threads_append_starters, placeAt_eq last]
    rcases led.waiting.ends_or_takes fun _ => waits_of_mem_waiting with ⟨ends, -⟩ | ⟨c, hc, -⟩
    · simp only [ends]
      rfl
    · cases last.symm.trans hc
  | cons c cs ih =>
    have hc : text[k]? = some c := getElem?_of_drop hrest
    have hrest' : text.drop (k + 1) = cs := by
      rw [← List.drop_drop, hrest]
      rfl
    rw [run, threads_append_starters, placeAt_eq hc]
    rcases led.waiting.ends_or_takes fun _ => waits_of_mem_waiting with ⟨ends, dead⟩ | ⟨d, hd, led'⟩
    · -- the leading thread ends here, and what is left in front of it cannot end at all
      have found : (((p.waiting (placeAt text k) (threads ++ starters p k found)).find?
          p.accepts).map (·.slots) <|> found) = some r.slots := by
        rw [ends]
        rfl
      simp only [found]
      split
      · rfl
      · rw [← placeAt_succ_before hc]
        exact run_of_dead hrest' (dead.take hc) r.slots
    · -- the leading thread takes the character, so that the search goes on
      obtain rfl := Option.some.inj (hc.symm.trans hd)
      have left : ((p.waiting (placeAt text k) (threads ++ starters p k found)).takeWhile
          (!p.accepts ·)).filterMap (p.take? c) ≠ [] := by
        intro none_left
        rw [none_left] at led'
        obtain ⟨front, t, back, eq, -⟩ := led'
        exact absurd eq (by simp)
      rw [if_neg (by simp [left]), ← placeAt_succ_before hc]
      exact ih hrest' (led'.append _)

end Threads

/-- **A search finds the preferred match** from the start of a text. -/
theorem search?_of_prefers {n : Nat} {r : Point}
    (h : p.Prefers text n 0 ⟨0, p.start.slots⟩ r) : p.search? text = some r.slots := by
  have starts : starters p 0 none = [p.start] := by
    rw [starters, decide_eq_false (Nat.lt_irrefl 0), Bool.and_false]
    rfl
  refine run_of_led List.drop_zero ?_
  rw [starts]
  exact led_singleton h

end Program

end RuleLexer.Regex
