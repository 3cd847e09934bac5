import Mathlib.Data.List.TakeWhile
import RuleLexer.Proofs.Regex.Threads
import RuleLexer.Regex

/-!
# The search finds a match that starts first

A search runs all threads side by side and drops those that have become superfluous. What it finds
is compared here with what the expression matches.

* `Live` — what is known of a thread of a program at a place: the slots tell where it began, and if
  it comes to an end, that is a match from there;
* `Underway` — what is known of a search at a place: its threads are live and in the order in which
  they began, what was found is a match, and of the matches that begin before some place none was
  overlooked: either one was found that begins no later, or a thread is on its way to it that began
  no later;
* `Answer` — what a search owes: no match if there is none, and otherwise one that begins first.

A place is passed in three steps, a thread that starts there, the threads that wait there, and the
character behind it; each of them keeps what is known (`Underway.begin`, `Underway.gather`,
`Underway.take`). The main statement is `answer_search?`, and `matches_of_find?`, `find?_eq_none_iff`
say the same of compiled regular expressions.
-/

namespace RuleLexer.Regex

open Program (InOrder Ends)

/-! ### Threads of a program -/

/-- Where a thread at the place `k` began: the place that it has noted, or else this one. -/
def Thread.began (k : Nat) (t : Thread) : Nat := (t.slots[0]?.join).getD k

/-- **What is known of a thread** of the program of an expression at the place `k`. -/
structure Live (e : Expr) (text : List Char) (k : Nat) (t : Thread) : Prop where
  /-- There are slots for the whole match. -/
  slots : 2 ≤ t.slots.length
  /-- At the first instruction, nothing was noted. -/
  fresh : t.address = 0 → t.slots[0]? = some none
  /-- Behind it, the place where the thread began was noted. -/
  noted : 0 < t.address → ∃ i ≤ k, t.slots[0]? = some (some i)
  /-- At the last instruction, the place where the match ends was noted. -/
  stopped : t.address = 2 + e.width → t.slots[1]? = some (some k)
  /-- Coming to an end is a match from where the thread began. -/
  sound : ∀ {n j : Nat}, e.program.Ends text n t.address k j → e.Matches text (t.began k) j

section Threads

variable {e : Expr} {text : List Char} {k : Nat} {t u : Thread}

theorem Thread.began_eq {i : Nat} (h : t.slots[0]? = some (some i)) : t.began k = i := by
  rw [began, h]
  rfl

theorem Thread.began_eq_of_fresh (h : t.slots[0]? = some none) : t.began k = k := by
  rw [began, h]
  rfl

theorem Live.began_le (h : Live e text k t) : t.began k ≤ k := by
  rcases Nat.eq_zero_or_pos t.address with zero | pos
  · exact Nat.le_of_eq (Thread.began_eq_of_fresh (h.fresh zero))
  · obtain ⟨i, le, hi⟩ := h.noted pos
    rw [Thread.began_eq hi]
    exact le

/-- A thread that starts a match. -/
theorem live_start (e : Expr) (text : List Char) (k : Nat) : Live e text k e.program.start where
  slots := by
    show 2 ≤ (List.replicate (2 * (e.groups + 1)) (none : Option Nat)).length
    rw [List.length_replicate]
    omega
  fresh _ := List.getElem?_replicate_of_lt (by
    show 0 < 2 * (e.groups + 1)
    omega)
  noted pos := absurd pos (Nat.lt_irrefl 0)
  stopped zero := absurd zero (by
    show 0 ≠ 2 + e.width
    omega)
  sound ends := by
    have began : e.program.start.began k = k :=
      Thread.began_eq_of_fresh (List.getElem?_replicate_of_lt (by
        show 0 < 2 * (e.groups + 1)
        omega))
    rw [began]
    exact Program.ends_program_iff.1 ⟨_, ends⟩

/-- A thread that goes on without a character only notes the place, if anything. -/
theorem slots_of_advance? {p : Program} {place : Place} {next : List Thread}
    (h : p.advance? place t = some next) (hu : u ∈ next) :
    ∃ instr, p.instrs[t.address]? = some instr ∧
      (u.slots = t.slots ∧ (∀ slot next, instr ≠ .save slot next) ∨
        ∃ slot, instr = .save slot u.address ∧
          u.slots = t.slots.set slot (some place.index)) := by
  unfold Program.advance? at h
  cases hinstr : p.instrs[t.address]? with
  | none =>
    rw [hinstr] at h
    obtain rfl := Option.some.inj h
    exact absurd hu List.not_mem_nil
  | some instr =>
    rw [hinstr] at h
    refine ⟨instr, rfl, ?_⟩
    -- only the instruction that saves a place changes the notes of a thread
    cases instr with
    | char | accept => cases h
    | jump next =>
      obtain rfl := Option.some.inj h
      obtain rfl := List.mem_singleton.1 hu
      exact Or.inl ⟨rfl, nofun⟩
    | save slot next =>
      obtain rfl := Option.some.inj h
      obtain rfl := List.mem_singleton.1 hu
      exact Or.inr ⟨slot, rfl, rfl⟩
    | split first second =>
      obtain rfl := Option.some.inj h
      have same : u.slots = t.slots := by
        rcases List.mem_cons.1 hu with rfl | hu
        · rfl
        · obtain rfl := List.mem_singleton.1 hu
          rfl
      exact Or.inl ⟨same, nofun⟩
    | look l next =>
      obtain rfl := Option.some.inj h
      by_cases holds : l.holds place.before place.after
      · rw [if_pos holds] at hu
        obtain rfl := List.mem_singleton.1 hu
        exact Or.inl ⟨rfl, nofun⟩
      · rw [if_neg holds] at hu
        exact absurd hu List.not_mem_nil

/-- **Going on keeps a thread live**, and it has begun where it had. -/
theorem Live.advance (numbered : e.Numbered) {next : List Thread} (h : Live e text k t)
    (advance : e.program.advance? (placeAt text k) t = some next) (hu : u ∈ next) :
    Live e text k u ∧ u.began k = t.began k := by
  have slides := (Program.slides_iff_of_advance? advance).2 ⟨u, hu, rfl⟩
  obtain ⟨instr, at_t, noting⟩ := slots_of_advance? advance hu
  have pass := (Program.slides_iff at_t).1 slides
  have sound {n j : Nat} (ends : e.program.Ends text n u.address k j) :
      e.Matches text (t.began k) j := h.sound (.step at_t pass ends)
  -- Where the first slots are kept and control stays within the code, nothing else changes.
  have quiet (pos : 0 < t.address) (first : u.slots[0]? = t.slots[0]?)
      (length : u.slots.length = t.slots.length) (inner : 1 ≤ u.address ∧ u.address ≤ 1 + e.width) :
      Live e text k u ∧ u.began k = t.began k := by
    have began : u.began k = t.began k := by rw [Thread.began, first, Thread.began]
    refine ⟨⟨length ▸ h.slots, fun zero => ?_, fun _ => ?_, fun last => ?_, fun ends => ?_⟩, began⟩
    · omega
    · rw [first]
      exact h.noted pos
    · omega
    · rw [began]
      exact sound ends
  -- The first instruction, those of the expression, the last but one, and the last.
  rcases Program.instr_cases numbered at_t with
    ⟨zero, rfl⟩ | ⟨pos, -, inside⟩ | ⟨last, rfl⟩ | ⟨-, rfl⟩
  · -- the place where the match begins is noted
    obtain ⟨-, never⟩ | ⟨slot, same, slots⟩ := noting
    · exact absurd rfl (never 0 1)
    · obtain ⟨rfl, address⟩ := Instr.save.inj same
      have first : u.slots[0]? = some (some k) := by
        rw [slots, List.getElem?_set_self (by have := h.slots; omega)]
        rfl
      have began : u.began k = t.began k := by
        rw [Thread.began_eq first, Thread.began_eq_of_fresh (h.fresh zero)]
      refine ⟨⟨?_, fun zero => ?_, fun _ => ⟨k, Nat.le_refl k, first⟩, fun last => ?_,
        fun ends => ?_⟩, began⟩
      · rw [slots, List.length_set]
        exact h.slots
      · omega
      · omega
      · rw [began]
        exact sound ends
  · -- within the code of the expression
    obtain ⟨slots, never⟩ | ⟨slot, rfl, slots⟩ := noting
    · refine quiet pos (by rw [slots]) (by rw [slots]) ?_
      cases instr with
      | char s next => exact absurd pass.2.1 (Nat.ne_of_lt (Nat.lt_succ_self k))
      | look l next =>
        obtain ⟨address, -⟩ := pass
        rw [address]
        exact inside
      | jump next =>
        obtain ⟨address, -⟩ := pass
        rw [address]
        exact inside
      | split first second =>
        obtain ⟨address | address, -⟩ := pass
        · rw [address]
          exact inside.1
        · rw [address]
          exact inside.2
      | save slot next => exact absurd rfl (never slot next)
      | accept => exact pass.elim
    · obtain ⟨two, inner⟩ := inside
      refine quiet pos ?_ (by rw [slots, List.length_set]) inner
      rw [slots, List.getElem?_set_ne (by omega)]
  · -- the place where the match ends is noted
    obtain ⟨-, never⟩ | ⟨slot, same, slots⟩ := noting
    · exact absurd rfl (never 1 (2 + e.width))
    · obtain ⟨rfl, address⟩ := Instr.save.inj same
      have first : u.slots[0]? = t.slots[0]? := by
        rw [slots, List.getElem?_set_ne (by omega)]
      have second : u.slots[1]? = some (some k) := by
        rw [slots, List.getElem?_set_self (by have := h.slots; omega)]
        rfl
      have began : u.began k = t.began k := by rw [Thread.began, first, Thread.began]
      refine ⟨⟨?_, fun zero => ?_, fun _ => ?_, fun _ => second, fun ends => ?_⟩, began⟩
      · rw [slots, List.length_set]
        exact h.slots
      · omega
      · rw [first]
        exact h.noted (by omega)
      · rw [began]
        exact sound ends
  · exact pass.elim

theorem live_kept (numbered : e.Numbered) :
    e.program.Kept (placeAt text k) (Live e text k) :=
  fun h advance _ hu => (h.advance numbered advance hu).1

theorem live_ranked (numbered : e.Numbered) :
    e.program.Ranked (placeAt text k) (Live e text k) (·.began k) :=
  fun h advance _ hu => (h.advance numbered advance hu).2

/-- **Taking a character keeps a thread live** at the next place. -/
theorem Live.take (numbered : e.Numbered) {c : Char} (h : Live e text k t) (hc : text[k]? = some c)
    (take : e.program.take? c t = some u) :
    Live e text (k + 1) u ∧ u.began (k + 1) = t.began k := by
  unfold Program.take? at take
  split at take
  · next s next at_t =>
    split at take
    · next contains =>
      obtain rfl := Option.some.inj take
      have pass : (Instr.char s next).Passes text k next (k + 1) := ⟨rfl, rfl, c, hc, contains⟩
      -- an instruction that takes a character is neither the first one nor one of the last two
      rcases Program.instr_cases numbered at_t with ⟨-, no⟩ | ⟨pos, -, inside⟩ | ⟨-, no⟩ | ⟨-, no⟩
      · cases no
      · have inner : 1 ≤ next ∧ next ≤ 1 + e.width := inside
        obtain ⟨i, le, hi⟩ := h.noted pos
        have began : (Thread.mk next t.slots).began (k + 1) = t.began k :=
          (Thread.began_eq hi).trans (Thread.began_eq hi).symm
        refine ⟨⟨h.slots, fun zero => ?_, fun _ => ⟨i, Nat.le_succ_of_le le, hi⟩, fun last => ?_,
          fun ends => ?_⟩, began⟩
        · have zero : next = 0 := zero
          omega
        · have last : next = 2 + e.width := last
          omega
        · rw [began]
          exact h.sound (.step at_t pass ends)
      · cases no
      · cases no
    · cases take
  · cases take

/-- **A thread that ends a match** has noted it. -/
theorem Live.accepts (numbered : e.Numbered) (h : Live e text k t)
    (accepts : e.program.accepts t = true) :
    spanAt? t.slots 0 = some ⟨t.began k, k⟩ ∧ e.Matches text (t.began k) k := by
  have at_t : e.program.instrs[t.address]? = some .accept := by
    rw [Program.accepts] at accepts
    exact beq_iff_eq.1 accepts
  have last : t.address = 2 + e.width := by
    rcases Program.instr_cases numbered at_t with ⟨-, no⟩ | ⟨-, -, no⟩ | ⟨-, no⟩ | ⟨last, -⟩
    · cases no
    · exact no.elim
    · cases no
    · exact last
  obtain ⟨i, -, hi⟩ := h.noted (by omega)
  have hk := h.stopped last
  refine ⟨?_, h.sound (.accept at_t)⟩
  rw [Thread.began_eq hi]
  simp only [spanAt?, Nat.mul_zero, Nat.zero_add, hi, hk]

end Threads

/-! ### A search under way -/

/-- A match that was found begins at the place `i` or before. -/
def FoundBy (found : Option Slots) (i : Nat) : Prop :=
  ∃ f ∈ found, ∃ s, spanAt? f 0 = some s ∧ s.start ≤ i

/-- A thread that began at the place `i` or before can come to an end from the place `k`. -/
def OnTheWay (e : Expr) (text : List Char) (k : Nat) (threads : List Thread) (i : Nat) : Prop :=
  ∃ t ∈ threads, t.began k ≤ i ∧ ∃ n j, e.program.Ends text n t.address k j

/-- **What is known of a search** at the place `k`, the matches that begin before the place `bound`
having been looked at. -/
structure Underway (e : Expr) (text : List Char) (k bound : Nat) (threads : List Thread)
    (found : Option Slots) : Prop where
  /-- The threads are live. -/
  live : ∀ t ∈ threads, Live e text k t
  /-- They are in the order in which they began. -/
  order : InOrder (·.began k) threads
  /-- What was found is a match, and the threads began no later. -/
  matched : ∀ f ∈ found, ∃ i j, spanAt? f 0 = some ⟨i, j⟩ ∧ e.Matches text i j ∧ i < bound ∧
    ∀ t ∈ threads, t.began k ≤ i
  /-- No match was overlooked. -/
  complete : ∀ {i j : Nat}, i < bound → e.Matches text i j →
    FoundBy found i ∨ OnTheWay e text k threads i

/-- **What a search owes.** -/
def Answer (e : Expr) (text : List Char) : Option Slots → Prop
  | none => ¬ e.Occurs text
  | some f => ∃ i j, spanAt? f 0 = some ⟨i, j⟩ ∧ i ≤ text.length ∧ e.Matches text i j ∧
    ∀ i' ≤ text.length, ∀ j', e.Matches text i' j' → i ≤ i'

section Search

variable {e : Expr} {text : List Char} {k bound : Nat} {threads : List Thread}
  {found : Option Slots}

theorem underway_start (e : Expr) (text : List Char) : Underway e text 0 0 [] none where
  live _ ht := absurd ht List.not_mem_nil
  order := List.Pairwise.nil
  matched f hf := absurd hf (Option.not_mem_none f)
  complete lt := absurd lt (Nat.not_lt_zero _)

/-- A search that no thread can bring to an end has its answer. -/
theorem Underway.answer (h : Underway e text k bound threads found) (le : bound ≤ text.length + 1)
    (stuck : ∀ i, ¬ OnTheWay e text k threads i)
    (rest : ∀ {i j : Nat}, bound ≤ i → i ≤ text.length → e.Matches text i j → FoundBy found i) :
    Answer e text found := by
  have all {i j : Nat} (hi : i ≤ text.length) (matched : e.Matches text i j) :
      FoundBy found i := by
    rcases Nat.lt_or_ge i bound with lt | ge
    · exact (h.complete lt matched).resolve_right (stuck i)
    · exact rest ge hi matched
  cases found with
  | none =>
    rintro ⟨i, hi, j, matched⟩
    obtain ⟨f, hf, -⟩ := all hi matched
    exact absurd hf (Option.not_mem_none f)
  | some f =>
    obtain ⟨i, j, span, matched, lt, -⟩ := h.matched f rfl
    refine ⟨i, j, span, by omega, matched, fun i' hi' j' matched' => ?_⟩
    obtain ⟨f', hf', s, hs, le⟩ := all hi' matched'
    obtain rfl := Option.some.inj hf'
    rw [span] at hs
    obtain rfl := Option.some.inj hs
    exact le

/-- A thread that starts a match at this place. -/
def starters (p : Program) (k : Nat) (found : Option Slots) : List Thread :=
  if found.isNone && !(p.anchored && 0 < k) then [p.start] else []

/-- **The first step at a place**: a match may start there. -/
theorem Underway.begin (h : Underway e text k k threads found) (le : k ≤ text.length) :
    Underway e text k (k + 1) (threads ++ starters e.program k found) found := by
  -- what is started is the one thread that starts matches, and only while none was found
  have start : ∀ t ∈ starters e.program k found, t = e.program.start ∧ found = none := by
    intro t ht
    rw [starters] at ht
    split at ht
    · next starts =>
      refine ⟨List.mem_singleton.1 ht, Option.isNone_iff_eq_none.1 ?_⟩
      exact (Bool.and_eq_true_iff.1 starts).1
    · exact absurd ht List.not_mem_nil
  have began : e.program.start.began k = k :=
    Thread.began_eq_of_fresh ((live_start e text k).fresh rfl)
  refine ⟨?_, ?_, ?_, ?_⟩
  · intro t ht
    rcases List.mem_append.1 ht with ht | ht
    · exact h.live t ht
    · rw [(start t ht).1]
      exact live_start e text k
  · -- it comes last, and begins no earlier than any other
    refine List.pairwise_append.2 ⟨h.order, ?_, fun t ht u hu => ?_⟩
    · rw [starters]
      split
      · exact List.pairwise_singleton _ _
      · exact List.Pairwise.nil
    · show t.began k ≤ u.began k
      rw [(start u hu).1, began]
      exact (h.live t ht).began_le
  · intro f hf
    obtain ⟨i, j, span, matched, lt, older⟩ := h.matched f hf
    refine ⟨i, j, span, matched, Nat.lt_succ_of_lt lt, fun t ht => ?_⟩
    rcases List.mem_append.1 ht with ht | ht
    · exact older t ht
    · -- nothing starts any more when a match was found
      rw [(start t ht).2] at hf
      exact absurd hf (Option.not_mem_none f)
  · intro i j lt matched
    rcases Nat.lt_succ_iff_lt_or_eq.1 lt with lt | rfl
    · rcases h.complete lt matched with found | ⟨t, ht, way⟩
      · exact Or.inl found
      · exact Or.inr ⟨t, List.mem_append_left _ ht, way⟩
    · -- a match that begins here: by then one was found, or a thread starts it
      cases found with
      | some f =>
        obtain ⟨i', j', span, -, lt, -⟩ := h.matched f rfl
        exact Or.inl ⟨f, rfl, ⟨i', j'⟩, span, Nat.le_of_lt lt⟩
      | none =>
        have starts : (e.program.anchored && decide (0 < i)) = false := by
          rw [Bool.and_eq_false_iff, decide_eq_false_iff_not]
          rw [or_iff_not_imp_left]
          intro held
          have zero : i = 0 := matched.eq_zero (Bool.eq_true_of_not_eq_false held) le
          omega
        obtain ⟨n, ends⟩ := Program.ends_program_iff.2 matched
        refine Or.inr ⟨e.program.start, List.mem_append_right _ ?_, Nat.le_of_eq began, n, j, ends⟩
        rw [starters, starts]
        exact List.mem_singleton.2 rfl

/-- Carrying on threads that began at the place `m` or before gives such threads. -/
theorem began_le_of_mem_waiting (numbered : e.Numbered) (live : ∀ t ∈ threads, Live e text k t)
    {m : Nat} (old : ∀ t ∈ threads, t.began k ≤ m) :
    ∀ t ∈ e.program.waiting (placeAt text k) threads, t.began k ≤ m := by
  have kept : e.program.Kept (placeAt text k) fun t => Live e text k t ∧ t.began k ≤ m := by
    intro t next ht advance u hu
    obtain ⟨live, same⟩ := ht.1.advance numbered advance hu
    exact ⟨live, same ▸ ht.2⟩
  exact fun t ht => (Program.waiting_keeps kept (fun t ht => ⟨live t ht, old t ht⟩) t ht).2

/-- Carrying on loses no match that is on the way. -/
theorem OnTheWay.waiting (numbered : e.Numbered) (live : ∀ t ∈ threads, Live e text k t)
    (order : InOrder (·.began k) threads) {i : Nat} (way : OnTheWay e text k threads i) :
    OnTheWay e text k (e.program.waiting (placeAt text k) threads) i := by
  obtain ⟨t, ht, le, n, j, ends⟩ := way
  obtain ⟨b, m, reach, waits, ends⟩ := ends.exists_waits
  obtain ⟨u, hu, rfl, le'⟩ := Program.exists_mem_waiting (live_kept numbered)
    (live_ranked numbered) live order ht reach waits
  exact ⟨u, hu, Nat.le_trans le' le, m, j, ends⟩

/-- Threads are dropped exactly where one ends a match. -/
theorem takeWhile_eq_self_iff {p : Program} :
    threads.takeWhile (!p.accepts ·) = threads ↔ threads.find? p.accepts = none := by
  rw [List.takeWhile_eq_self_iff, List.find?_eq_none]
  refine forall₂_congr fun t _ => ?_
  rw [Bool.not_eq_true', Bool.not_eq_true]

/-- **The second step at a place**: the threads are carried on. One that ends a match replaces what
was found before, and those behind it are dropped. -/
theorem Underway.gather (numbered : e.Numbered) (h : Underway e text k bound threads found)
    (lt : k < bound) :
    let waiting := e.program.waiting (placeAt text k) threads
    Underway e text k bound (waiting.takeWhile (!e.program.accepts ·))
      ((waiting.find? e.program.accepts).map (·.slots) <|> found) := by
  intro waiting
  have live : ∀ t ∈ waiting, Live e text k t := Program.waiting_keeps (live_kept numbered) h.live
  have order : InOrder (·.began k) waiting :=
    Program.waiting_inOrder (live_kept numbered) (live_ranked numbered) h.live h.order
  have older {m : Nat} (old : ∀ t ∈ threads, t.began k ≤ m) : ∀ t ∈ waiting, t.began k ≤ m :=
    began_le_of_mem_waiting numbered h.live old
  have onTheWay {i : Nat} (way : OnTheWay e text k threads i) : OnTheWay e text k waiting i :=
    way.waiting numbered h.live h.order
  cases hfind : waiting.find? e.program.accepts with
  | none =>
    -- no thread ends a match: nothing is found, and none is dropped
    rw [takeWhile_eq_self_iff.2 hfind]
    refine ⟨live, order, ?_, ?_⟩
    · intro f hf
      obtain ⟨i, j, span, matched, lt, old⟩ := h.matched f hf
      exact ⟨i, j, span, matched, lt, older old⟩
    · intro i j lt matched
      exact (h.complete lt matched).imp_right onTheWay
  | some v =>
    -- the first thread that ends a match counts, and only those ahead of it are left
    obtain ⟨accepts, ahead, behind, hw, none_accepts⟩ := List.find?_eq_some_iff_append.1 hfind
    have hv : v ∈ waiting := hw ▸ List.mem_append_right _ List.mem_cons_self
    have all_ahead : waiting.takeWhile (!e.program.accepts ·) = ahead := by
      rw [hw, List.takeWhile_append_of_pos none_accepts, List.takeWhile_cons_of_neg,
        List.append_nil]
      rw [accepts]
      exact Bool.false_ne_true
    obtain ⟨span, matched⟩ := (live v hv).accepts numbered accepts
    rw [hw] at order
    obtain ⟨order_ahead, order_v, in_front⟩ := List.pairwise_append.1 order
    have v_first := (List.pairwise_cons.1 order_v).1
    rw [all_ahead]
    refine ⟨fun t ht => live t (hw ▸ List.mem_append_left _ ht), order_ahead, ?_, ?_⟩
    · intro f hf
      obtain rfl : v.slots = f := Option.some.inj hf
      refine ⟨_, _, span, matched, ?_, fun t ht => in_front t ht v List.mem_cons_self⟩
      have le := (live v hv).began_le
      omega
    · intro i j lt matched
      by_cases le : v.began k ≤ i
      · exact Or.inl ⟨v.slots, rfl, _, span, le⟩
      · -- Neither what was found before nor a thread behind `v` began that early.
        rcases h.complete lt matched with ⟨f, hf, s, hs, before⟩ | way
        · obtain ⟨i', j', span', -, -, old⟩ := h.matched f hf
          rw [hs] at span'
          obtain rfl := Option.some.inj span'
          have late := older old v hv
          have before : i' ≤ i := before
          omega
        · obtain ⟨u, hu, early, ends⟩ := onTheWay way
          rw [hw] at hu
          rcases List.mem_append.1 hu with hu | hu
          · exact Or.inr ⟨u, hu, early, ends⟩
          · rcases List.mem_cons.1 hu with rfl | hu
            · exact absurd early le
            · have late : v.began k ≤ u.began k := v_first u hu
              omega

/-- The threads that are left at a place wait for a character. -/
def Waiting (p : Program) (threads : List Thread) : Prop :=
  ∀ t ∈ threads, p.Waits t.address ∧ p.accepts t = false

theorem waiting_ahead (p : Program) (text : List Char) (k : Nat) (threads : List Thread) :
    Waiting p ((p.waiting (placeAt text k) threads).takeWhile (!p.accepts ·)) := by
  intro t ht
  refine ⟨Program.waits_of_mem_waiting ((List.takeWhile_sublist _).subset ht), ?_⟩
  have no := @List.mem_takeWhile_imp _ (!p.accepts ·) _ _ ht
  exact Bool.not_eq_true' _ ▸ no

/-- A thread that waits for a character and can come to an end takes the character that comes. -/
theorem OnTheWay.exists_take (numbered : e.Numbered) (live : ∀ t ∈ threads, Live e text k t)
    (waits : Waiting e.program threads) {i : Nat} (way : OnTheWay e text k threads i) :
    ∃ c, text[k]? = some c ∧
      OnTheWay e text (k + 1) (threads.filterMap (e.program.take? c)) i := by
  obtain ⟨t, ht, le, n, j, ends⟩ := way
  obtain ⟨waits, no⟩ := waits t ht
  rw [Program.accepts, beq_eq_false_iff_ne] at no
  obtain ⟨s, next, at_t⟩ := waits.resolve_right no
  obtain ⟨m, b, k', -, ⟨rfl, rfl, c, hc, contains⟩, rest⟩ :=
    (Program.ends_iff at_t Instr.noConfusion).1 ends
  have take : e.program.take? c t = some ⟨b, t.slots⟩ := by
    simp only [Program.take?, at_t, contains, if_true]
  refine ⟨c, hc, _, List.mem_filterMap.2 ⟨t, ht, take⟩, ?_, m, j, rest⟩
  rw [((live t ht).take numbered hc take).2]
  exact le

/-- **The third step at a place**: the threads take the character behind it. -/
theorem Underway.take (numbered : e.Numbered) (h : Underway e text k bound threads found)
    (waits : Waiting e.program threads) {c : Char} (hc : text[k]? = some c) :
    Underway e text (k + 1) bound (threads.filterMap (e.program.take? c)) found := by
  have taken {t u : Thread} (ht : t ∈ threads) (take : e.program.take? c t = some u) :
      Live e text (k + 1) u ∧ u.began (k + 1) = t.began k := (h.live t ht).take numbered hc take
  refine ⟨?_, ?_, ?_, ?_⟩
  · intro u hu
    obtain ⟨t, ht, take⟩ := List.mem_filterMap.1 hu
    exact (taken ht take).1
  · refine List.pairwise_filterMap.2 (h.order.imp_of_mem fun {t t'} ht ht' le u hu u' hu' => ?_)
    show u.began (k + 1) ≤ u'.began (k + 1)
    rw [(taken ht hu).2, (taken ht' hu').2]
    exact le
  · intro f hf
    obtain ⟨i, j, span, matched, lt, old⟩ := h.matched f hf
    refine ⟨i, j, span, matched, lt, fun u hu => ?_⟩
    obtain ⟨t, ht, take⟩ := List.mem_filterMap.1 hu
    rw [(taken ht take).2]
    exact old t ht
  · -- a thread on its way to the end of a match takes this character, as it is the one that comes
    intro i j lt matched
    refine (h.complete lt matched).imp_right fun way => ?_
    obtain ⟨d, hd, way⟩ := way.exists_take numbered h.live waits
    rw [hc] at hd
    obtain rfl := Option.some.inj hd
    exact way

theorem threads_append_starters (p : Program) (k : Nat) (threads : List Thread)
    (found : Option Slots) :
    (if found.isNone && !(p.anchored && decide (0 < k)) then threads ++ [p.start] else threads) =
      threads ++ starters p k found := by
  rw [starters]
  split
  · rfl
  · rw [List.append_nil]

theorem placeAt_succ_before {c : Char} (hc : text[k]? = some c) :
    (placeAt text (k + 1)).before = some c := by
  rw [← hc, placeAt, if_neg (Nat.succ_ne_zero k), Nat.add_sub_cancel]

/-- The place before a character, or at the end of the text. -/
theorem placeAt_eq {after : Option Char} (h : text[k]? = after) :
    (⟨k, (placeAt text k).before, after⟩ : Place) = placeAt text k := by
  rw [← h]
  rfl

theorem getElem?_of_drop {c : Char} {cs : List Char} (hrest : text.drop k = c :: cs) :
    text[k]? = some c := by
  rw [← List.head?_drop, hrest]
  rfl

/-- **A search that is under way comes to its answer.** -/
theorem Underway.run (numbered : e.Numbered) {rest : List Char} (hrest : text.drop k = rest)
    (le : k ≤ text.length) (h : Underway e text k k threads found) :
    Answer e text (e.program.run k (placeAt text k).before rest threads found) := by
  induction rest generalizing k threads found with
  | nil =>
    have last : text.length ≤ k := List.drop_eq_nil_iff.1 hrest
    have nothing : text[k]? = none := List.getElem?_eq_none last
    rw [Program.run, threads_append_starters, placeAt_eq nothing]
    -- behind the last character the first two steps are all there is
    have passed := (h.begin le).gather numbered (Nat.lt_succ_self k)
    refine passed.answer (Nat.succ_le_succ le) (fun i way => ?_) fun late hi _ => by omega
    obtain ⟨c, hc, -⟩ := way.exists_take numbered passed.live (waiting_ahead _ _ _ _)
    rw [nothing] at hc
    cases hc
  | cons c cs ih =>
    have hc : text[k]? = some c := getElem?_of_drop hrest
    have lt : k < text.length := (List.getElem?_eq_some_iff.1 hc).1
    -- the three steps at this place, behind which the search stops or goes on at the next place
    have passed := (h.begin le).gather numbered (Nat.lt_succ_self k)
    have next := passed.take numbered (waiting_ahead _ _ _ _) hc
    rw [Program.run, threads_append_starters, placeAt_eq hc]
    split
    · next stops =>
      obtain ⟨none_left, enough⟩ := Bool.and_eq_true_iff.1 stops
      rw [List.isEmpty_iff.1 none_left] at next
      refine next.answer (Nat.le_succ_of_le lt) ?_ fun {i j} late hi matched => ?_
      · rintro i ⟨t, ht, -⟩
        exact absurd ht List.not_mem_nil
      · -- A match that begins later: one was found already, or there is none.
        rcases Bool.or_eq_true_iff.1 enough with some | held
        · obtain ⟨f, hf⟩ := Option.isSome_iff_exists.1 some
          obtain ⟨i', j', span, -, early, -⟩ := next.matched f hf
          refine ⟨f, hf, ⟨i', j'⟩, span, ?_⟩
          show i' ≤ i
          omega
        · have zero : i = 0 := matched.eq_zero held hi
          omega
    · rw [← placeAt_succ_before hc]
      refine ih ?_ lt next
      rw [← List.drop_drop, hrest]
      rfl

/-- **The search finds a match that starts first**, and none only if there is none. -/
theorem answer_search? (numbered : e.Numbered) : Answer e text (e.program.search? text) :=
  Underway.run numbered List.drop_zero (Nat.zero_le _) (underway_start e text)

end Search

/-! ### Compiled regular expressions -/

/-- What a text compiles to is the program of what it means. -/
theorem exists_expr_of_compile {source : List Char} {r : RuleLexer.Regex}
    (h : compile source = .ok r) :
    ∃ e, (Tree.parse source >>= Tree.toExpr?) = .ok e ∧ r = ⟨e.program, e.groups⟩ := by
  unfold compile at h
  split at h
  · cases h
  · next e he =>
    split at h
    · exact ⟨e, he, (Except.ok.inj h).symm⟩
    · cases h

section Find

variable {e : Expr} {text : List Char}

/-- **A compiled expression finds nothing exactly where it does not occur.** -/
theorem find?_eq_none_iff (numbered : e.Numbered) :
    find? ⟨e.program, e.groups⟩ text = none ↔ ¬ e.Occurs text := by
  have answer : Answer e text (e.program.search? text) := answer_search? numbered
  unfold find?
  cases found : e.program.search? text with
  | none =>
    rw [found] at answer
    exact ⟨fun _ => answer, fun _ => rfl⟩
  | some f =>
    rw [found] at answer
    obtain ⟨i, j, span, hi, matched, -⟩ := answer
    refine ⟨fun h => ?_, fun no => absurd ⟨i, hi, j, matched⟩ no⟩
    rw [Option.bind_eq_bind, Option.bind_some, span] at h
    cases h

/-- **What a compiled expression finds** is a match, and none begins before it. -/
theorem matches_of_find? (numbered : e.Numbered) {found : Found}
    (h : find? ⟨e.program, e.groups⟩ text = some found) :
    found.whole.start ≤ text.length ∧ e.Matches text found.whole.start found.whole.stop ∧
      ∀ i ≤ text.length, ∀ j, e.Matches text i j → found.whole.start ≤ i := by
  have answer : Answer e text (e.program.search? text) := answer_search? numbered
  unfold find? at h
  obtain ⟨f, hf, h⟩ := Option.bind_eq_some_iff.1 h
  obtain ⟨whole, hw, h⟩ := Option.bind_eq_some_iff.1 h
  obtain rfl := Option.some.inj h
  have hf : e.program.search? text = some f := hf
  rw [hf] at answer
  obtain ⟨i, j, span, hi, matched, first⟩ := answer
  rw [span] at hw
  obtain rfl := Option.some.inj hw
  exact ⟨hi, matched, first⟩

end Find

end RuleLexer.Regex
