import RuleLexer.Proofs.Regex.Leftmost

/-!
# What the groups capture

`Expr.Matches` tells which stretches of a text an expression matches, and nothing of its groups. Here
account is kept of the slots as well.

* `Point` — a place in a text, with the slots as they are when control gets there;
* `Expr.Captures` — the meaning of an expression from one point to another: what it matches, and what
  its groups note on the way;
* `Program.Finishes` — coming to an end, as `Program.Ends` has it, with the slots;
* `Program.Through` — whoever comes to an end from the entry of a block gets through its exit, having
  moved on by a relation between points.

Notes do not decide what is matched (`Expr.matches_iff_exists_captures`). Code lets control through by
what its expression captures (`Program.through_code`), and a search answers with the slots of some
thread that came to an end (`Program.yields_of_search?`). Together they say what is found: the ends of
a match, and what the groups captured on the way from the one to the other (`captures_of_find?`). So a
group that no match can go round, `Expr.enters`, has captured something wherever the expression is
found (`exists_span_of_find?`).
-/

namespace RuleLexer.Regex

/-! ### Points -/

/-- A place in a text, with the slots as they are when control gets there. -/
structure Point where
  /-- The number of characters before the place. -/
  place : Nat
  /-- The places noted so far, by slot. -/
  slots : Slots

namespace Point

/-- The same slots at another place. -/
def moved (s : Point) (place : Nat) : Point := { s with place := place }

/-- The place is noted in a slot. -/
def note (s : Point) (slot : Nat) : Point := { s with slots := s.slots.set slot (some s.place) }

/-- A place was noted in a slot. -/
def Noted (s : Point) (slot : Nat) : Prop := ∃ i, s.slots[slot]? = some (some i)

variable {s : Point} {slot other : Nat}

@[simp] theorem length_slots_note : (s.note slot).slots.length = s.slots.length := List.length_set

theorem noted_note (room : slot < s.slots.length) : (s.note slot).Noted slot :=
  ⟨s.place, List.getElem?_set_self room⟩

/-- Noting a place takes back no other note. -/
theorem Noted.note (h : s.Noted slot) : (s.note other).Noted slot := by
  obtain ⟨i, hi⟩ := h
  by_cases same : other = slot
  · subst same
    exact noted_note (List.getElem?_eq_some_iff.1 hi).1
  · refine ⟨i, ?_⟩
    show (s.slots.set other (some s.place))[slot]? = some (some i)
    rw [List.getElem?_set_ne same, hi]

end Point

/-- Two slots hold a span if a place was noted in both. -/
theorem exists_spanAt? {slots : Slots} {place k : Nat} (start : Point.Noted ⟨place, slots⟩ (2 * k))
    (stop : Point.Noted ⟨place, slots⟩ (2 * k + 1)) : ∃ span, spanAt? slots k = some span := by
  obtain ⟨i, hi⟩ := start
  obtain ⟨j, hj⟩ := stop
  refine ⟨⟨i, j⟩, ?_⟩
  simp only [spanAt?, hi, hj]

/-- A slot further in front is none of the group. -/
theorem spanAt?_note {s : Point} {slot k : Nat} (lt : slot < 2 * k) :
    spanAt? (s.note slot).slots k = spanAt? s.slots k := by
  have start : (s.note slot).slots[2 * k]? = s.slots[2 * k]? := List.getElem?_set_ne (by omega)
  have stop : (s.note slot).slots[2 * k + 1]? = s.slots[2 * k + 1]? :=
    List.getElem?_set_ne (by omega)
  simp only [spanAt?, start, stop]

namespace Expr

/-! ### The meaning -/

/-- **What an expression captures** on its way from one point to another. The rounds of a repetition
are those that must be made and then those that may be made, and each one lowers both bounds. -/
inductive Captures (text : List Char) : Expr → Point → Point → Prop
  | empty {s : Point} : Captures text .empty s s
  | literal {cs : List Char} {s : Point} {k : Nat} :
    (Expr.literal cs).Matches text s.place k → Captures text (.literal cs) s (s.moved k)
  | set {cs : CharSet} {s : Point} {k : Nat} :
    (Expr.set cs).Matches text s.place k → Captures text (.set cs) s (s.moved k)
  | look {l : Look} {s : Point} : l.HoldsAt text s.place → Captures text (.look l) s s
  /-- No round is made that need not be made. -/
  | stop {body : Expr} {most : Option Nat} {greedy : Bool} {s : Point} :
    Captures text (.times body 0 most greedy) s s
  /-- A round is made that must be made. -/
  | must {body : Expr} {least : Nat} {most : Option Nat} {greedy : Bool} {s r t : Point} :
    Captures text body s r → Captures text (.times body least (most.map (· - 1)) greedy) r t →
      Captures text (.times body (least + 1) most greedy) s t
  /-- A round is made that may be made. -/
  | may {body : Expr} {most : Option Nat} {greedy : Bool} {s r t : Point} : most ≠ some 0 →
    Captures text body s r → Captures text (.times body 0 (most.map (· - 1)) greedy) r t →
      Captures text (.times body 0 most greedy) s t
  /-- A group notes the place before its body and the one behind it. -/
  | capture {index : Nat} {body : Expr} {s t : Point} :
    Captures text body (s.note (2 * index)) t →
      Captures text (.capture index body) s (t.note (2 * index + 1))
  | cat {first rest : Expr} {s r t : Point} : Captures text first s r → Captures text rest r t →
    Captures text (.cat first rest) s t
  | first {first second : Expr} {s t : Point} : Captures text first s t →
    Captures text (.alt first second) s t
  | second {first second : Expr} {s t : Point} : Captures text second s t →
    Captures text (.alt first second) s t

/-- Whether every match passes through the group of a number. -/
def enters (k : Nat) : Expr → Bool
  | .times body least _ _ => 0 < least && body.enters k
  | .capture index body => index = k || body.enters k
  | .cat first rest => first.enters k || rest.enters k
  | .alt first second => first.enters k && second.enters k
  | _ => false

/-- A group that every match passes through is one of the groups. -/
theorem le_groups_of_enters {e : Expr} {k : Nat} (h : e.enters k = true) : k ≤ e.groups := by
  induction e with
  | empty | literal | set | look => exact absurd h Bool.false_ne_true
  | times body least most greedy ih => exact ih (Bool.and_eq_true_iff.1 h).2
  | capture index body ih =>
    rcases Bool.or_eq_true_iff.1 h with same | h
    · exact of_decide_eq_true same ▸ Nat.le_max_left _ _
    · exact Nat.le_trans (ih h) (Nat.le_max_right _ _)
  | cat first rest ihf ihr =>
    rcases Bool.or_eq_true_iff.1 h with h | h
    · exact Nat.le_trans (ihf h) (Nat.le_max_left _ _)
    · exact Nat.le_trans (ihr h) (Nat.le_max_right _ _)
  | alt first second ihf ihs =>
    exact Nat.le_trans (ihf (Bool.and_eq_true_iff.1 h).1) (Nat.le_max_left _ _)

namespace Captures

variable {text : List Char} {e : Expr} {s t : Point}

/-- One more round of a repetition without an upper bound. -/
theorem again {body : Expr} {greedy : Bool} {r : Point} (first : body.Captures text s r)
    (more : (Expr.times body 0 none greedy).Captures text r t) :
    (Expr.times body 0 none greedy).Captures text s t :=
  .may nofun first more

theorem length_slots (h : e.Captures text s t) : t.slots.length = s.slots.length := by
  induction h with
  | empty | literal | set | look | stop => rfl
  | must _ _ ihb ih | may _ _ _ ihb ih | cat _ _ ihb ih => rw [ih, ihb]
  | capture _ ih => rw [Point.length_slots_note, ih, Point.length_slots_note]
  | first _ ih | second _ ih => exact ih

/-- The slots of the whole match are left alone. -/
theorem slot_eq (h : e.Captures text s t) (numbered : e.Numbered) {slot : Nat} (lt : slot < 2) :
    t.slots[slot]? = s.slots[slot]? := by
  induction h with
  | empty | literal | set | look | stop => rfl
  | must _ _ ihb ih | may _ _ _ ihb ih => rw [ih numbered, ihb numbered]
  | cat _ _ ihf ihr => rw [ihr numbered.2, ihf numbered.1]
  | @capture index body s t _ ih =>
    obtain ⟨pos, numbered⟩ := numbered
    have inner := ih numbered
    show (t.slots.set (2 * index + 1) _)[slot]? = s.slots[slot]?
    rw [List.getElem?_set_ne (by omega), inner]
    exact List.getElem?_set_ne (by omega)
  | first _ ih => exact ih numbered.1
  | second _ ih => exact ih numbered.2

/-- What was noted before stays noted. -/
theorem keeps (h : e.Captures text s t) {slot : Nat} (noted : s.Noted slot) : t.Noted slot := by
  induction h with
  | empty | literal | set | look | stop => exact noted
  | must _ _ ihb ih | may _ _ _ ihb ih | cat _ _ ihb ih => exact ih (ihb noted)
  | capture _ ih => exact (ih noted.note).note
  | first _ ih | second _ ih => exact ih noted

/-- **A group that every match passes through** has noted both its ends. -/
theorem noted_of_enters (h : e.Captures text s t) {k : Nat} (enters : e.enters k = true)
    (room : 2 * k + 1 < s.slots.length) : t.Noted (2 * k) ∧ t.Noted (2 * k + 1) := by
  induction h with
  | empty | literal | set | look | stop | may => exact absurd enters Bool.false_ne_true
  | must _ rest ihb _ =>
    -- the first round passes through the group, and the others take nothing back
    obtain ⟨start, stop⟩ := ihb (Bool.and_eq_true_iff.1 enters).2 room
    exact ⟨rest.keeps start, rest.keeps stop⟩
  | @capture index body s t inside ih =>
    have inner : 2 * k + 1 < (s.note (2 * index)).slots.length := by
      rw [Point.length_slots_note]
      exact room
    rcases Bool.or_eq_true_iff.1 enters with same | enters
    · obtain rfl : index = k := of_decide_eq_true same
      have start : (s.note (2 * index)).Noted (2 * index) :=
        Point.noted_note (Nat.lt_of_succ_lt room)
      refine ⟨(inside.keeps start).note, Point.noted_note ?_⟩
      rw [inside.length_slots]
      exact inner
    · obtain ⟨start, stop⟩ := ih enters inner
      exact ⟨start.note, stop.note⟩
  | cat first rest ihf ihr =>
    rcases Bool.or_eq_true_iff.1 enters with enters | enters
    · obtain ⟨start, stop⟩ := ihf enters room
      exact ⟨rest.keeps start, rest.keeps stop⟩
    · exact ihr enters (first.length_slots ▸ room)
  | first _ ih => exact ih (Bool.and_eq_true_iff.1 enters).1 room
  | second _ ih => exact ih (Bool.and_eq_true_iff.1 enters).2 room

end Captures

/-! ### Notes do not decide what is matched -/

/-- What is captured is matched. -/
theorem Captures.matches {text : List Char} {e : Expr} {s t : Point} (h : e.Captures text s t) :
    e.Matches text s.place t.place := by
  induction h with
  | empty => rfl
  | literal matched | set matched => exact matched
  | look holds => exact ⟨rfl, holds⟩
  | stop => exact ⟨0, Nat.le_refl 0, fun _ _ => Nat.zero_le _, rfl⟩
  | must _ _ first more =>
    obtain ⟨n, le, bound, rounds⟩ := more
    refine ⟨n + 1, Nat.succ_le_succ le, fun m hm => ?_, _, first, rounds⟩
    have below := bound (m - 1) (Option.mem_map_of_mem _ hm)
    omega
  | may some _ _ first more =>
    obtain ⟨n, le, bound, rounds⟩ := more
    refine ⟨n + 1, Nat.zero_le _, fun m hm => ?_, _, first, rounds⟩
    have below := bound (m - 1) (Option.mem_map_of_mem _ hm)
    have pos : m ≠ 0 := fun zero => some (zero ▸ hm)
    omega
  | capture _ ih => exact ih
  | cat _ _ first rest => exact ⟨_, first, rest⟩
  | first _ ih => exact Or.inl ih
  | second _ ih => exact Or.inr ih

/-- The rounds of a repetition, one after the other, as the repetition has them. -/
theorem exists_captures_times {text : List Char} {body : Expr} {greedy : Bool}
    (inner : ∀ {i j : Nat} (slots : Slots), body.Matches text i j →
      ∃ slots', body.Captures text ⟨i, slots⟩ ⟨j, slots'⟩)
    {n least i j : Nat} {most : Option Nat} (le : least ≤ n)
    (bound : ∀ m ∈ most, n ≤ max least m) (rounds : Iterated (body.Matches text) n i j)
    (slots : Slots) :
    ∃ slots', (Expr.times body least most greedy).Captures text ⟨i, slots⟩ ⟨j, slots'⟩ := by
  induction n generalizing least most i slots with
  | zero =>
    obtain rfl := Nat.le_zero.1 le
    obtain rfl : i = j := rounds
    exact ⟨slots, .stop⟩
  | succ n ih =>
    obtain ⟨k, first, rounds⟩ := rounds
    obtain ⟨between, first⟩ := inner slots first
    -- what is left to do, with both bounds lowered
    have lowered : ∀ m ∈ most.map (· - 1), n ≤ max (least - 1) m := by
      intro m hm
      obtain ⟨m', hm', rfl⟩ := Option.mem_map.1 hm
      have below := bound m' hm'
      omega
    obtain ⟨slots', more⟩ := ih (Nat.sub_le_of_le_add le) lowered rounds between
    cases least with
    | zero =>
      refine ⟨slots', .may (fun none => ?_) first more⟩
      have below := bound 0 none
      omega
    | succ least => exact ⟨slots', .must first more⟩

/-- **What an expression matches is what it captures**, whatever was noted before. -/
theorem matches_iff_exists_captures {text : List Char} {e : Expr} {i j : Nat} (slots : Slots) :
    e.Matches text i j ↔ ∃ slots', e.Captures text ⟨i, slots⟩ ⟨j, slots'⟩ := by
  refine ⟨fun matched => ?_, fun ⟨_, captures⟩ => captures.matches⟩
  induction e generalizing i j slots with
  | empty =>
    obtain rfl : i = j := matched
    exact ⟨slots, .empty⟩
  | literal cs => exact ⟨slots, .literal matched⟩
  | set cs => exact ⟨slots, .set matched⟩
  | look l =>
    obtain ⟨rfl, holds⟩ := matched
    exact ⟨slots, .look holds⟩
  | times body least most greedy ih =>
    obtain ⟨n, le, bound, rounds⟩ := matched
    exact exists_captures_times (fun slots matched => ih slots matched) le bound rounds slots
  | capture index body ih =>
    obtain ⟨slots', captures⟩ := ih (Point.note ⟨i, slots⟩ (2 * index)).slots matched
    have noted : (Expr.capture index body).Captures text ⟨i, slots⟩
        (Point.note ⟨j, slots'⟩ (2 * index + 1)) := .capture captures
    exact ⟨_, noted⟩
  | cat first rest ihf ihr =>
    obtain ⟨k, matched, later⟩ := matched
    obtain ⟨between, captures⟩ := ihf slots matched
    obtain ⟨slots', more⟩ := ihr between later
    exact ⟨slots', .cat captures more⟩
  | alt first second ihf ihs =>
    rcases matched with matched | matched
    · obtain ⟨slots', captures⟩ := ihf slots matched
      exact ⟨slots', .first captures⟩
    · obtain ⟨slots', captures⟩ := ihs slots matched
      exact ⟨slots', .second captures⟩

end Expr

/-! ### Passing control on, with the slots -/

/-- An instruction passes control on from the point `s` to the address `b` and the point `t`. -/
def Instr.Moves (text : List Char) (s : Point) : Instr → Nat → Point → Prop
  | .char cs next, b, t => b = next ∧ ∃ k, (Expr.set cs).Matches text s.place k ∧ t = s.moved k
  | .look l next, b, t => b = next ∧ l.HoldsAt text s.place ∧ t = s
  | .split first second, b, t => (b = first ∨ b = second) ∧ t = s
  | .save slot next, b, t => b = next ∧ t = s.note slot
  | .jump next, b, t => b = next ∧ t = s
  | .accept, _, _ => False

theorem Instr.moves_prefer {text : List Char} {greedy : Bool} {x y b : Nat} {s t : Point} :
    (Instr.prefer greedy x y).Moves text s b t ↔ (b = x ∨ b = y) ∧ t = s := by
  cases greedy with
  | true => exact Iff.rfl
  | false => exact and_congr_left fun _ => or_comm

namespace Program

/-- **Coming to an end, with the slots**: control gets from the address `a` at one point to the end
of a match at another one in some number of steps. -/
inductive Finishes (p : Program) (text : List Char) : Nat → Nat → Point → Point → Prop
  | accept {a : Nat} {s : Point} : p.instrs[a]? = some .accept → Finishes p text 0 a s s
  | step {n a b : Nat} {s r t : Point} {instr : Instr} : p.instrs[a]? = some instr →
    instr.Moves text s b r → Finishes p text n b r t → Finishes p text (n + 1) a s t

section Blocks

variable {p : Program} {text : List Char}

/-- Control that is at an instruction goes on by it. -/
theorem Finishes.exists_step {n a : Nat} {s t : Point} {instr : Instr}
    (h : p.Finishes text n a s t) (at_a : p.instrs[a]? = some instr) (ne : instr ≠ .accept) :
    ∃ m b r, n = m + 1 ∧ instr.Moves text s b r ∧ p.Finishes text m b r t := by
  rcases h with accept | ⟨at_a', moves, rest⟩
  · rw [at_a] at accept
    exact absurd (Option.some.inj accept) ne
  · rw [at_a] at at_a'
    obtain rfl := Option.some.inj at_a'
    exact ⟨_, _, _, rfl, moves, rest⟩

/-- **A block is passed through by a relation**: whoever comes to an end from `base` gets through
`exit`, having moved on by the relation. -/
structure Through (p : Program) (text : List Char) (base exit : Nat) (R : Point → Point → Prop) :
    Prop where
  /-- Whoever comes to an end from `base` gets through `exit`. -/
  sound : ∀ {n : Nat} {s t : Point}, p.Finishes text n base s t →
    ∃ r m, m ≤ n ∧ R s r ∧ p.Finishes text m exit r t

namespace Through

variable {a base mid exit : Nat} {R S T : Point → Point → Prop}

theorem mono (h : p.Through text base exit R) (imp : ∀ {s t}, R s t → S s t) :
    p.Through text base exit S where
  sound finishes := by
    obtain ⟨r, m, le, hR, rest⟩ := h.sound finishes
    exact ⟨r, m, le, imp hR, rest⟩

/-- A block without instructions. -/
theorem refl (stays : ∀ s, R s s) : p.Through text a a R where
  sound finishes := ⟨_, _, Nat.le_refl _, stays _, finishes⟩

/-- One block after the other. -/
theorem trans (first : p.Through text base mid R) (second : p.Through text mid exit S)
    (join : ∀ {s r t}, R s r → S r t → T s t) : p.Through text base exit T where
  sound finishes := by
    obtain ⟨r, m, le, hR, finishes⟩ := first.sound finishes
    obtain ⟨q, m', le', hS, rest⟩ := second.sound finishes
    exact ⟨q, m', Nat.le_trans le' le, join hR hS, rest⟩

/-- A block of one instruction that only goes to the exit. -/
theorem single {instr : Instr} (at_a : p.instrs[a]? = some instr) (ne : instr ≠ .accept)
    (moves : ∀ s b t, instr.Moves text s b t → b = exit ∧ R s t) : p.Through text a exit R where
  sound finishes := by
    obtain ⟨m, b, r, rfl, move, rest⟩ := finishes.exists_step at_a ne
    obtain ⟨rfl, hR⟩ := moves _ b r move
    exact ⟨r, m, Nat.le_succ m, hR, rest⟩

/-- Two blocks behind a split. -/
theorem split {greedy : Bool} {x y : Nat} (at_a : p.instrs[a]? = some (.prefer greedy x y))
    (first : p.Through text x exit R) (second : p.Through text y exit R) :
    p.Through text a exit R where
  sound finishes := by
    obtain ⟨m, b, r, rfl, move, rest⟩ := finishes.exists_step at_a Instr.prefer_ne_accept
    obtain ⟨rfl | rfl, rfl⟩ := Instr.moves_prefer.1 move
    · obtain ⟨q, m', le, hR, rest⟩ := first.sound rest
      exact ⟨q, m', Nat.le_succ_of_le le, hR, rest⟩
    · obtain ⟨q, m', le, hR, rest⟩ := second.sound rest
      exact ⟨q, m', Nat.le_succ_of_le le, hR, rest⟩

/-- **A loop.** A split either enters a block that leads back to it or goes to the exit. -/
theorem loop {greedy : Bool} {x : Nat} (at_a : p.instrs[a]? = some (.prefer greedy x exit))
    (body : p.Through text x a S) (stop : ∀ s, R s s)
    (round : ∀ {s r t}, S s r → R r t → R s t) : p.Through text a exit R where
  sound := by
    -- Every round takes a step at the split, so that the number of steps left gets smaller.
    intro n
    induction n using Nat.strongRecOn with
    | ind n ih =>
      intro s t finishes
      obtain ⟨m, b, r, rfl, move, rest⟩ := finishes.exists_step at_a Instr.prefer_ne_accept
      obtain ⟨rfl | rfl, rfl⟩ := Instr.moves_prefer.1 move
      · obtain ⟨q, m', le, hS, rest⟩ := body.sound rest
        obtain ⟨u, m'', le', hR, rest⟩ := ih m' (Nat.lt_succ_of_le le) rest
        have fewer : m'' ≤ m + 1 := Nat.le_trans le' (Nat.le_succ_of_le le)
        exact ⟨u, m'', fewer, round hS hR, rest⟩
      · exact ⟨r, m, Nat.le_succ m, stop r, rest⟩

/-- Blocks of the same size in front of a last one, built up backwards from it. What is left to do
when there are `m` of them to come is `R m`. -/
theorem countdown {w n : Nat} {R : Nat → Point → Point → Prop}
    (last : p.Through text (base + n * w) exit (R 0))
    (front : ∀ i m, i + (m + 1) = n → p.Through text (base + (i + 1) * w) exit (R m) →
      p.Through text (base + i * w) exit (R (m + 1))) : p.Through text base exit (R n) := by
  have rounds (m : Nat) : ∀ i, i + m = n → p.Through text (base + i * w) exit (R m) := by
    induction m with
    | zero =>
      rintro i rfl
      exact last
    | succ m ih =>
      intro i hi
      exact front i m hi (ih (i + 1) (by omega))
  have all := rounds n 0 (Nat.zero_add n)
  rwa [Nat.zero_mul] at all

/-- Blocks of the same size, one after the other, in front of a last one. -/
theorem copies {w n : Nat} {R : Nat → Point → Point → Prop}
    (copy : ∀ i < n, p.Through text (base + i * w) (base + (i + 1) * w) S)
    (last : p.Through text (base + n * w) exit (R 0))
    (round : ∀ m < n, ∀ {s r t}, S s r → R m r t → R (m + 1) s t) :
    p.Through text base exit (R n) := by
  refine countdown last fun i m hi behind => ?_
  exact (copy i (by omega)).trans behind (round m (by omega))

/-- Blocks of the same size, each behind a split that can leave them all. -/
theorem optional {w n : Nat} {greedy : Bool} {R : Nat → Point → Point → Prop}
    (fork : ∀ i < n, p.instrs[base + i * (w + 1)]? =
      some (.prefer greedy (base + i * (w + 1) + 1) exit))
    (copy : ∀ i < n, p.Through text (base + i * (w + 1) + 1) (base + (i + 1) * (w + 1)) S)
    (last : p.instrs[base + n * (w + 1)]? = some (.jump exit)) (stop : ∀ m s, R m s s)
    (round : ∀ {m s r t}, S s r → R m r t → R (m + 1) s t) : p.Through text base exit (R n) := by
  have leave : p.Through text (base + n * (w + 1)) exit (R 0) := by
    refine single last Instr.noConfusion ?_
    rintro s b t ⟨rfl, rfl⟩
    exact ⟨rfl, stop 0 t⟩
  refine countdown leave fun i m hi behind => ?_
  have lt : i < n := by omega
  exact split (fork i lt) ((copy i lt).trans behind round) (refl (stop (m + 1)))

end Through

/-! ### The code of an expression -/

theorem through_literalCode {base exit : Nat} {cs : List Char}
    (has : p.Has base (Expr.literalCode base exit cs)) :
    p.Through text base exit ((Expr.literal cs).Captures text) := by
  -- a character that is taken as the only one of its set
  have char {a next : Nat} {c : Char} (at_a : p.instrs[a]? = some (.char (.single c) next)) :
      p.Through text a next ((Expr.literal [c]).Captures text) := by
    refine Through.single at_a Instr.noConfusion ?_
    rintro s b t ⟨rfl, k, matched, rfl⟩
    exact ⟨rfl, .literal (matches_char.2 matched)⟩
  fun_induction Expr.literalCode base exit cs with
  | case1 =>
    refine Through.single has.head Instr.noConfusion ?_
    rintro s b t ⟨rfl, rfl⟩
    exact ⟨rfl, .literal ⟨rfl, List.nil_prefix⟩⟩
  | case2 => exact char has.head
  | case3 base c cs ne ih =>
    refine (char has.head).trans (ih has.tail) ?_
    rintro s r t (_ | first) (_ | rest)
    exact .literal ((@Expr.matches_literal_append text _ _ [c] cs).2 ⟨_, first, rest⟩)

section Repetitions

variable {body : Expr} {greedy : Bool} {base exit : Nat}

variable (inner : ∀ {base exit : Nat}, p.Has base (body.code base exit) →
  p.Through text base exit (body.Captures text))

include inner

/-- Copies of the body in front of a last block. -/
theorem through_bodies {n : Nat} {rest : List Instr} {R : Nat → Point → Point → Prop}
    (has : p.Has base (((List.range n).flatMap fun i =>
      body.code (base + i * body.width) (base + (i + 1) * body.width)) ++ rest))
    (last : p.Has (base + n * body.width) rest → p.Through text (base + n * body.width) exit (R 0))
    (round : ∀ m < n, ∀ {s r t}, body.Captures text s r → R m r t → R (m + 1) s t) :
    p.Through text base exit (R n) := by
  have behind := has.right
  rw [length_bodies] at behind
  have copy (i : Nat) (lt : i < n) :
      p.Through text (base + i * body.width) (base + (i + 1) * body.width) (body.Captures text) :=
    inner (has.left.copy (fun _ => body.length_code _ _) lt)
  exact Through.copies copy (last behind) round

/-- A repetition with an upper bound: the rounds that must be made, and those that may be. -/
theorem through_between {least most : Nat}
    (has : p.Has base ((Expr.times body least (some most) greedy).code base exit)) :
    p.Through text base exit ((Expr.times body least (some most) greedy).Captures text) := by
  -- With `m` rounds left that must be made, the upper bound has been lowered by all the others.
  let R (m : Nat) : Point → Point → Prop :=
    (Expr.times body m (some (most - (least - m))) greedy).Captures text
  have whole : p.Through text base exit (R least) := by
    refine through_bodies inner has (R := R) (fun rest => ?_) fun m lt s r t first more => ?_
    · have last := rest.right
      rw [length_copies (fun i => by rw [List.length_cons, body.length_code])] at last
      have copy {i : Nat} (lt : i < most - least) :=
        rest.left.copy (fun i => by rw [List.length_cons, body.length_code]) lt
      refine Through.optional (R := fun m => (Expr.times body 0 (some m) greedy).Captures text)
        (fun i lt => (copy lt).head) (fun i lt => ?_) last.head (fun _ _ => .stop)
        fun first more => .may (by simp) first more
      have next : base + least * body.width + i * (body.width + 1) + 1 + body.width =
          base + least * body.width + (i + 1) * (body.width + 1) := by
        rw [Nat.succ_mul]
        omega
      rw [← next]
      exact inner (copy lt).tail
    · refine .must first ?_
      have lowered : most - (least - (m + 1)) - 1 = most - (least - m) := by omega
      show (Expr.times body m (some (most - (least - (m + 1)) - 1)) greedy).Captures text r t
      rw [lowered]
      exact more
  have start : most - (least - least) = most := by rw [Nat.sub_self, Nat.sub_zero]
  simp only [R, start] at whole
  exact whole

/-- A repetition of any number of rounds. -/
theorem through_star
    (has : p.Has base ((Expr.times body 0 none greedy).code base exit)) :
    p.Through text base exit ((Expr.times body 0 none greedy).Captures text) := by
  by_cases consumes : body.consumes
  · rw [Expr.code, if_pos consumes] at has
    exact Through.loop has.head (inner has.tail) (fun _ => .stop) .again
  · rw [Expr.code, if_neg consumes] at has
    have back := has.tail.right
    rw [body.length_code] at back
    have first := inner has.tail.left
    have more : p.Through text (base + 1 + body.width) exit
        ((Expr.times body 0 none greedy).Captures text) :=
      Through.loop back.head first (fun _ => .stop) .again
    exact Through.split has.head (first.trans more .again) (Through.refl fun _ => .stop)

/-- A repetition of one round or more: copies of the body, the last of them in a loop. -/
theorem through_atLeast {least : Nat}
    (has : p.Has base ((Expr.times body (least + 1) none greedy).code base exit)) :
    p.Through text base exit ((Expr.times body (least + 1) none greedy).Captures text) := by
  refine through_bodies inner has (R := fun m => (Expr.times body (m + 1) none greedy).Captures text)
    (fun rest => ?_) fun m _ _ _ _ first more => .must first more
  have back := rest.right
  rw [body.length_code] at back
  have first := inner rest.left
  have more : p.Through text (base + least * body.width + body.width) exit
      ((Expr.times body 0 none greedy).Captures text) :=
    Through.loop back.head first (fun _ => .stop) .again
  exact first.trans more fun first more => .must first more

/-- **The code of a repetition**, given that of its body. -/
theorem through_times {least : Nat} {most : Option Nat}
    (has : p.Has base ((Expr.times body least most greedy).code base exit)) :
    p.Through text base exit ((Expr.times body least most greedy).Captures text) := by
  cases most with
  | some most => exact through_between inner has
  | none =>
    cases least with
    | zero => exact through_star inner has
    | succ least => exact through_atLeast inner has

end Repetitions

/-- **The code of an expression is passed through by what the expression captures.** -/
theorem through_code {e : Expr} {base exit : Nat} (has : p.Has base (e.code base exit)) :
    p.Through text base exit (e.Captures text) := by
  induction e generalizing base exit with
  | empty =>
    refine Through.single has.head Instr.noConfusion ?_
    rintro s b t ⟨rfl, rfl⟩
    exact ⟨rfl, .empty⟩
  | literal cs => exact through_literalCode has
  | set cs =>
    refine Through.single has.head Instr.noConfusion ?_
    rintro s b t ⟨rfl, k, matched, rfl⟩
    exact ⟨rfl, .set matched⟩
  | look l =>
    refine Through.single has.head Instr.noConfusion ?_
    rintro s b t ⟨rfl, holds, rfl⟩
    exact ⟨rfl, .look holds⟩
  | times body least most greedy ih => exact through_times ih has
  | capture index body ih =>
    -- an instruction that notes the start, the body, and one that notes the end
    have last := has.tail.right
    rw [Expr.length_code] at last
    have opened : p.Through text base (base + 1) fun s t => t = s.note (2 * index) :=
      Through.single has.head Instr.noConfusion fun _ _ _ => id
    have closed : p.Through text (base + 1 + body.width) exit
        fun s t => t = s.note (2 * index + 1) :=
      Through.single last.head Instr.noConfusion fun _ _ _ => id
    have inside := opened.trans (ih has.tail.left) (T := fun s t =>
      body.Captures text (s.note (2 * index)) t) (by
        rintro s r t rfl h
        exact h)
    refine inside.trans closed ?_
    rintro s r t h rfl
    exact .capture h
  | cat first rest ihf ihr =>
    -- the second block begins where the first one exits
    have hr := has.right
    rw [Expr.length_code] at hr
    exact (ihf has.left).trans (ihr hr) .cat
  | alt first second ihf ihs =>
    have hs := has.tail.right
    rw [Expr.length_code] at hs
    -- both blocks have the same exit
    have fork : p.instrs[base]? = some (.prefer true (base + 1) (base + 1 + first.width)) :=
      has.head
    exact Through.split fork ((ihf has.tail.left).mono .first) ((ihs hs).mono .second)

end Blocks

/-! ### Threads that come to an end -/

section Threads

variable {p : Program} {text : List Char} {k : Nat} {t u : Thread}

/-- A thread that goes on without a character does so by the instruction where it stands. -/
theorem moves_of_advance? {next : List Thread}
    (h : p.advance? (placeAt text k) t = some next) (hu : u ∈ next) :
    ∃ instr, p.instrs[t.address]? = some instr ∧
      instr.Moves text ⟨k, t.slots⟩ u.address ⟨k, u.slots⟩ := by
  obtain ⟨instr, at_t, noting⟩ := slots_of_advance? h hu
  have pass := (slides_iff at_t).1 ((slides_iff_of_advance? h).2 ⟨u, hu, rfl⟩)
  refine ⟨instr, at_t, ?_⟩
  rcases noting with ⟨same, never⟩ | ⟨slot, rfl, slots⟩
  · rw [same]
    cases instr with
    | char cs next => exact absurd pass.2.1 (Nat.ne_of_lt (Nat.lt_succ_self k))
    | look l next => exact ⟨pass.1, pass.2.2, rfl⟩
    | split first second => exact ⟨pass.1, rfl⟩
    | save slot next => exact absurd rfl (never slot next)
    | jump next => exact ⟨pass.1, rfl⟩
    | accept => exact pass.elim
  · rw [slots]
    exact ⟨rfl, rfl⟩

/-- A thread that takes a character does so by the instruction where it stands. -/
theorem moves_of_take? {c : Char} (hc : text[k]? = some c) (h : p.take? c t = some u) :
    ∃ instr, p.instrs[t.address]? = some instr ∧
      instr.Moves text ⟨k, t.slots⟩ u.address ⟨k + 1, u.slots⟩ := by
  unfold take? at h
  split at h
  · next cs next at_t =>
    split at h
    · next contains =>
      obtain rfl := Option.some.inj h
      exact ⟨_, at_t, rfl, k + 1, ⟨rfl, c, hc, contains⟩, rfl⟩
    · cases h
  · cases h

/-- **A thread stems from a start** at some place: whatever it comes to an end with, a thread that
starts there comes to an end with. -/
def Stems (p : Program) (text : List Char) (k : Nat) (t : Thread) : Prop :=
  ∃ i ≤ text.length, ∀ {n : Nat} {r : Point}, p.Finishes text n t.address ⟨k, t.slots⟩ r →
    ∃ m, p.Finishes text m 0 ⟨i, p.start.slots⟩ r

/-- **Slots that are yielded**: a thread that starts at some place comes to an end with them. -/
def Yields (p : Program) (text : List Char) (f : Slots) : Prop :=
  ∃ i ≤ text.length, ∃ n j, p.Finishes text n 0 ⟨i, p.start.slots⟩ ⟨j, f⟩

theorem stems_start (le : k ≤ text.length) : p.Stems text k p.start :=
  ⟨k, le, fun finishes => ⟨_, finishes⟩⟩

/-- What a thread turns into by one move stems from where it does. -/
theorem Stems.move {k' : Nat} (h : p.Stems text k t)
    (moves : ∃ instr, p.instrs[t.address]? = some instr ∧
      instr.Moves text ⟨k, t.slots⟩ u.address ⟨k', u.slots⟩) : p.Stems text k' u := by
  obtain ⟨i, le, stems⟩ := h
  obtain ⟨instr, at_t, move⟩ := moves
  exact ⟨i, le, fun finishes => stems (.step at_t move finishes)⟩

theorem stems_kept : p.Kept (placeAt text k) (p.Stems text k) :=
  fun stems advance _ hu => stems.move (moves_of_advance? advance hu)

/-- A thread that ends a match yields its slots. -/
theorem Stems.yields (h : p.Stems text k t) (accepts : p.accepts t = true) :
    p.Yields text t.slots := by
  obtain ⟨i, le, stems⟩ := h
  have at_t : p.instrs[t.address]? = some .accept := by
    rw [Program.accepts] at accepts
    exact beq_iff_eq.1 accepts
  obtain ⟨m, finishes⟩ := stems (.accept at_t)
  exact ⟨i, le, m, k, finishes⟩

variable {threads : List Thread} {found : Option Slots}

/-- A thread that starts at this place stems from here. -/
theorem stems_starters (le : k ≤ text.length) (stems : ∀ t ∈ threads, p.Stems text k t) :
    ∀ t ∈ threads ++ starters p k found, p.Stems text k t := by
  intro t ht
  rcases List.mem_append.1 ht with ht | ht
  · exact stems t ht
  · rw [starters] at ht
    split at ht
    · obtain rfl := List.mem_singleton.1 ht
      exact stems_start le
    · exact absurd ht List.not_mem_nil

/-- What is found at a place was found before or is yielded by a thread that waits there. -/
theorem yields_gather (stems : ∀ t ∈ threads, p.Stems text k t)
    (before : ∀ f ∈ found, p.Yields text f) :
    ∀ f ∈ ((threads.find? p.accepts).map (·.slots) <|> found), p.Yields text f := by
  intro f hf
  cases hfind : threads.find? p.accepts with
  | none =>
    rw [hfind] at hf
    exact before f hf
  | some t =>
    rw [hfind] at hf
    obtain rfl : t.slots = f := Option.some.inj hf
    exact (stems t (List.mem_of_find?_eq_some hfind)).yields (List.find?_some hfind)

/-- **A search that goes on over threads that stem from a start** finds what is yielded. -/
theorem yields_of_run {rest : List Char} (hrest : text.drop k = rest) (le : k ≤ text.length)
    (stems : ∀ t ∈ threads, p.Stems text k t) (before : ∀ f ∈ found, p.Yields text f) :
    ∀ f ∈ p.run k (placeAt text k).before rest threads found, p.Yields text f := by
  -- along the text; at every place threads start, are carried on, and take the next character
  induction rest generalizing k threads found with
  | nil =>
    have nothing : text[k]? = none := List.getElem?_eq_none (List.drop_eq_nil_iff.1 hrest)
    rw [run, threads_append_starters, placeAt_eq nothing]
    exact yields_gather (waiting_keeps stems_kept (stems_starters le stems)) before
  | cons c cs ih =>
    have hc : text[k]? = some c := getElem?_of_drop hrest
    have waiting : ∀ t ∈ p.waiting (placeAt text k) (threads ++ starters p k found),
        p.Stems text k t := waiting_keeps stems_kept (stems_starters le stems)
    have gathered := yields_gather waiting before
    rw [run, threads_append_starters, placeAt_eq hc]
    split
    · exact gathered
    · rw [← placeAt_succ_before hc]
      refine ih ?_ (List.getElem?_eq_some_iff.1 hc).1 (fun u hu => ?_) gathered
      · rw [← List.drop_drop, hrest]
        rfl
      · obtain ⟨t, ht, take⟩ := List.mem_filterMap.1 hu
        exact (waiting t ((List.takeWhile_sublist _).subset ht)).move (moves_of_take? hc take)

/-- **A search answers with slots that are yielded.** -/
theorem yields_of_search? {f : Slots} (h : p.search? text = some f) : p.Yields text f := by
  have all : ∀ f ∈ p.search? text, p.Yields text f :=
    yields_of_run List.drop_zero (Nat.zero_le _) (fun t ht => absurd ht List.not_mem_nil)
      fun f hf => absurd hf (Option.not_mem_none f)
  exact all f h

end Threads

end Program

/-! ### What a search answers -/

/-- The point at which a match of an expression begins, nothing but its beginning being noted. -/
def Expr.opening (e : Expr) (i : Nat) : Point := Point.note ⟨i, e.program.start.slots⟩ 0

theorem Expr.length_slots_opening (e : Expr) (i : Nat) :
    (e.opening i).slots.length = 2 * (e.groups + 1) := by
  rw [opening, Point.length_slots_note]
  exact List.length_replicate

/-- A thread that starts a match and comes to an end passes through the expression. -/
theorem Expr.captures_of_finishes {e : Expr} {text : List Char} {n i : Nat} {t : Point}
    (h : e.program.Finishes text n 0 ⟨i, e.program.start.slots⟩ t) :
    ∃ r, e.Captures text (e.opening i) r ∧ t = r.note 1 := by
  have start := (Program.has_program e).head
  have inside := (Program.has_program e).tail.left
  have last := (Program.has_program e).tail.right
  rw [e.length_code] at last
  have accept := last.tail.head
  rw [show 1 + e.width + 1 = 2 + e.width by omega] at accept
  obtain ⟨m, b, s, -, ⟨rfl, rfl⟩, h⟩ := h.exists_step start Instr.noConfusion
  obtain ⟨r, m', -, captures, h⟩ := (Program.through_code inside).sound h
  obtain ⟨m'', b, s, -, ⟨rfl, rfl⟩, h⟩ := h.exists_step last.head Instr.noConfusion
  refine ⟨r, captures, ?_⟩
  rcases h with _ | ⟨at_accept, moves, -⟩
  · rfl
  · rw [accept] at at_accept
    obtain rfl := Option.some.inj at_accept
    exact moves.elim

/-- **What a search answers** is what the expression captures from some place on. -/
theorem captures_of_search? {e : Expr} {text : List Char} {f : Slots}
    (h : e.program.search? text = some f) :
    ∃ i ≤ text.length, ∃ r, e.Captures text (e.opening i) r ∧ f = (r.note 1).slots := by
  obtain ⟨i, le, n, j, finishes⟩ := Program.yields_of_search? h
  obtain ⟨r, captures, same⟩ := Expr.captures_of_finishes finishes
  exact ⟨i, le, r, captures, congrArg Point.slots same⟩

/-- Behind a match, the first two slots hold its ends. -/
theorem Expr.Captures.span_whole {e : Expr} {text : List Char} {i : Nat} {r : Point}
    (h : e.Captures text (e.opening i) r) (numbered : e.Numbered) :
    spanAt? (r.note 1).slots 0 = some ⟨i, r.place⟩ := by
  have room : 1 < r.slots.length := by
    rw [h.length_slots, e.length_slots_opening]
    omega
  have start : (r.note 1).slots[0]? = some (some i) :=
    calc (r.note 1).slots[0]?
        = r.slots[0]? := List.getElem?_set_ne Nat.one_ne_zero
      _ = (e.opening i).slots[0]? := h.slot_eq numbered Nat.two_pos
      _ = some (some i) := List.getElem?_set_self (by
          show 0 < (List.replicate (2 * (e.groups + 1)) none).length
          rw [List.length_replicate]
          omega)
  have stop : (r.note 1).slots[1]? = some (some r.place) := List.getElem?_set_self room
  simp only [spanAt?, Nat.mul_zero, Nat.zero_add, start, stop]

/-- **What is found** are the ends of a match and what the groups captured on the way from the one to
the other. -/
theorem captures_of_find? {e : Expr} {text : List Char} {found : Found} (numbered : e.Numbered)
    (h : find? ⟨e.program, e.groups⟩ text = some found) :
    ∃ slots, e.Captures text (e.opening found.whole.start) ⟨found.whole.stop, slots⟩ ∧
      found.groups = (List.range e.groups).map fun k => spanAt? slots (k + 1) := by
  obtain ⟨f, hf, h⟩ := Option.bind_eq_some_iff.1 h
  obtain ⟨whole, hwhole, h⟩ := Option.bind_eq_some_iff.1 h
  obtain rfl := Option.some.inj h
  obtain ⟨i, -, r, captures, rfl⟩ := captures_of_search? hf
  obtain rfl := Option.some.inj ((captures.span_whole numbered).symm.trans hwhole)
  refine ⟨r.slots, captures, ?_⟩
  refine List.map_congr_left fun k _ => spanAt?_note ?_
  omega

/-- **A group that every match passes through** has captured something wherever the expression is
found. -/
theorem exists_span_of_find? {e : Expr} {text : List Char} {found : Found} {k : Nat}
    (numbered : e.Numbered) (enters : e.enters (k + 1) = true)
    (h : find? ⟨e.program, e.groups⟩ text = some found) :
    ∃ span, found.groups[k]? = some (some span) := by
  obtain ⟨slots, captures, groups⟩ := captures_of_find? numbered h
  have lt : k < e.groups := Expr.le_groups_of_enters enters
  have room : 2 * (k + 1) + 1 < (e.opening found.whole.start).slots.length := by
    rw [e.length_slots_opening]
    omega
  obtain ⟨start, stop⟩ := captures.noted_of_enters enters room
  obtain ⟨span, hspan⟩ := exists_spanAt? start stop
  refine ⟨span, ?_⟩
  rw [groups, List.getElem?_map, List.getElem?_range lt]
  exact congrArg some hspan

end RuleLexer.Regex
