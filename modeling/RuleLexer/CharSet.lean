/-!
# Sets of characters

A set of characters is kept as the increasing list of the code points at which membership changes:
the first cut opens the set, the next one closes it, and so on. Complement, union, intersection and
both differences are then one sweep over two such lists, and every set has exactly one
representation, so that equality of sets of characters is equality of lists.

Main statements:

* `holds_sweep` — the sweep computes the pointwise combination of its two arguments;
* `mem_union`, `mem_inter`, `mem_diff`, `mem_compl` — its readings for the set operations.
-/

namespace RuleLexer

/-! ### Cuts -/

/-- Whether the cuts grow strictly, none of them below `low`. -/
def Ascending : Nat → List Nat → Prop
  | _, [] => True
  | low, k :: ks => low ≤ k ∧ Ascending (k + 1) ks

instance decidableAscending : (low : Nat) → (ks : List Nat) → Decidable (Ascending low ks)
  | _, [] => inferInstanceAs (Decidable True)
  | low, k :: ks =>
    have := decidableAscending (k + 1) ks
    inferInstanceAs (Decidable (low ≤ k ∧ Ascending (k + 1) ks))

theorem Ascending.weaken {low low' : Nat} {ks : List Nat} (h : Ascending low ks)
    (le : low' ≤ low) : Ascending low' ks := by
  cases ks with
  | nil => trivial
  | cons k ks => exact ⟨Nat.le_trans le h.1, h.2⟩

/-- **Reading cuts.** The truth value at `n`, starting from `inside` and changing at every cut. -/
def holds : Bool → List Nat → Nat → Bool
  | inside, [], _ => inside
  | inside, k :: ks, n => if n < k then inside else holds (!inside) ks n

theorem holds_of_lt {inside : Bool} {low : Nat} {ks : List Nat} (h : Ascending low ks) {n : Nat}
    (lt : n < low) : holds inside ks n = inside := by
  cases ks with
  | nil => rfl
  | cons k ks => simp [holds, Nat.lt_of_lt_of_le lt h.1]

/-- The cut `k`, when the value there differs from the value before it. -/
def cutWhen (before after : Bool) (k : Nat) (rest : List Nat) : List Nat :=
  if before = after then rest else k :: rest

theorem ascending_cutWhen {before after : Bool} {low k : Nat} {rest : List Nat} (le : low ≤ k)
    (h : Ascending (k + 1) rest) : Ascending low (cutWhen before after k rest) := by
  unfold cutWhen
  split
  · exact h.weaken (by omega)
  · exact ⟨le, h⟩

theorem holds_cutWhen {before after : Bool} {k n : Nat} {rest : List Nat}
    (h : Ascending (k + 1) rest) :
    holds before (cutWhen before after k rest) n =
      if n < k then before else holds after rest n := by
  unfold cutWhen
  split
  · next eq =>
    subst eq
    split
    · next lt => exact holds_of_lt h (by omega)
    · rfl
  · next ne =>
    have : (!before) = after := by cases before <;> cases after <;> simp_all
    simp [holds, this]

/-- The cuts of the image of a set under `f`. -/
def relabel (f : Bool → Bool) : Bool → List Nat → List Nat
  | _, [] => []
  | b, k :: ks => cutWhen (f b) (f !b) k (relabel f (!b) ks)

theorem ascending_relabel {f : Bool → Bool} {b : Bool} {low : Nat} {ks : List Nat}
    (h : Ascending low ks) : Ascending low (relabel f b ks) := by
  induction ks generalizing b low with
  | nil => trivial
  | cons k ks ih => exact ascending_cutWhen h.1 (ih h.2)

theorem holds_relabel {f : Bool → Bool} {b : Bool} {low : Nat} {ks : List Nat} {n : Nat}
    (h : Ascending low ks) : holds (f b) (relabel f b ks) n = f (holds b ks n) := by
  induction ks generalizing b low with
  | nil => rfl
  | cons k ks ih =>
    rw [relabel, holds_cutWhen (ascending_relabel h.2), holds, ih h.2]
    split <;> rfl

/-- The sweep from the first list's cut `x` on, given the sweep after that cut. -/
def sweepPast (f : Bool → Bool → Bool) (x : Nat) (xs : List Nat)
    (next : Bool → Bool → List Nat → List Nat) (a : Bool) : Bool → List Nat → List Nat
  | b, [] => relabel (f · b) a (x :: xs)
  | b, y :: ys =>
    if x < y then cutWhen (f a b) (f (!a) b) x (next (!a) b (y :: ys))
    else if y < x then cutWhen (f a b) (f a !b) y (sweepPast f x xs next a (!b) ys)
    else cutWhen (f a b) (f (!a) !b) x (next (!a) (!b) ys)

/-- **The sweep.** The cuts of the pointwise combination by `f` of two sets given by their cuts, the
values before the first cuts being `a` and `b`. -/
def sweep (f : Bool → Bool → Bool) : List Nat → Bool → Bool → List Nat → List Nat
  | [], a, b, ys => relabel (f a) b ys
  | x :: xs, a, b, ys => sweepPast f x xs (sweep f xs) a b ys

theorem ascending_sweep {f : Bool → Bool → Bool} {xs ys : List Nat} {low : Nat} {a b : Bool}
    (hx : Ascending low xs) (hy : Ascending low ys) : Ascending low (sweep f xs a b ys) := by
  induction xs generalizing low a b ys with
  | nil => exact ascending_relabel hy
  | cons x xs ihx =>
    unfold sweep
    induction ys generalizing low b with
    | nil => exact ascending_relabel hx
    | cons y ys ihy =>
      unfold sweepPast
      split
      · next lt => exact ascending_cutWhen hx.1 (ihx hx.2 ⟨lt, hy.2⟩)
      · split
        · next lt => exact ascending_cutWhen hy.1 (ihy ⟨lt, hx.2⟩ hy.2)
        · next nlt nlt' =>
          have eq : y = x := by omega
          subst eq
          exact ascending_cutWhen hx.1 (ihx hx.2 hy.2)

/-- **The sweep is pointwise.** Reading the swept cuts combines the readings of the two lists. -/
theorem holds_sweep {f : Bool → Bool → Bool} {xs ys : List Nat} {low n : Nat} {a b : Bool}
    (hx : Ascending low xs) (hy : Ascending low ys) :
    holds (f a b) (sweep f xs a b ys) n = f (holds a xs n) (holds b ys n) := by
  induction xs generalizing low a b ys with
  | nil => exact holds_relabel hy
  | cons x xs ihx =>
    rw [sweep]
    induction ys generalizing low b with
    | nil => exact holds_relabel (f := (f · b)) hx
    | cons y ys ihy =>
      rw [sweepPast]
      split
      · next lt =>
        have hy' : Ascending (x + 1) (y :: ys) := ⟨lt, hy.2⟩
        rw [holds_cutWhen (ascending_sweep hx.2 hy'), ihx hx.2 hy', holds]
        by_cases h : n < x
        · simp [h, holds, Nat.lt_trans h lt]
        · simp only [h, if_false]
          rw [holds.eq_2 a, if_neg h]
      · split
        · next lt =>
          have hx' : Ascending (y + 1) (x :: xs) := ⟨lt, hx.2⟩
          have asc : Ascending (y + 1) (sweepPast f x xs (sweep f xs) a (!b) ys) :=
            @ascending_sweep f (x :: xs) ys (y + 1) a (!b) hx' hy.2
          rw [holds_cutWhen asc, ihy hx' hy.2]
          by_cases h : n < y
          · simp [h, holds, Nat.lt_trans h lt]
          · simp [h, holds]
        · next nlt nlt' =>
          have eq : y = x := by omega
          subst eq
          rw [holds_cutWhen (ascending_sweep hx.2 hy.2), ihx hx.2 hy.2]
          by_cases h : n < y <;> simp [h, holds]

/-! ### Sets -/

/-- A set of characters, as the code points at which membership changes. -/
structure CharSet where
  /-- The first code point of every stretch in the set, and the first one after it. -/
  cuts : List Nat
  /-- The cuts increase. -/
  ascending : Ascending 0 cuts
  deriving DecidableEq, Repr

namespace CharSet

/-- Whether a character is in the set. -/
def contains (s : CharSet) (c : Char) : Bool :=
  holds false s.cuts c.toNat

instance : Membership Char CharSet where
  mem s c := s.contains c = true

instance (c : Char) (s : CharSet) : Decidable (c ∈ s) :=
  inferInstanceAs (Decidable (s.contains c = true))

theorem mem_iff {c : Char} {s : CharSet} : c ∈ s ↔ s.contains c = true := Iff.rfl

/-- The set with no character. -/
def empty : CharSet := ⟨[], trivial⟩

instance : EmptyCollection CharSet := ⟨empty⟩

@[simp] theorem contains_empty (c : Char) : empty.contains c = false := rfl

/-- The set of all characters: every code point but the surrogates. -/
def all : CharSet := ⟨[0, 0xD800, 0xE000, 0x110000], by decide⟩

@[simp] theorem contains_all (c : Char) : all.contains c = true := by
  have h : c.toNat < 0xD800 ∨ 0xDFFF < c.toNat ∧ c.toNat < 0x110000 := c.valid
  simp only [contains, all, holds]
  rcases h with h | h
  · simp [h]
  · simp [show ¬ c.toNat < 0xD800 by omega, show ¬ c.toNat < 0xE000 by omega, h.2]

/-- The pointwise combination of two sets by a function that is false at two absences. -/
def combine (f : Bool → Bool → Bool) (s t : CharSet) : CharSet :=
  ⟨sweep f s.cuts false false t.cuts, ascending_sweep s.ascending t.ascending⟩

theorem contains_combine {f : Bool → Bool → Bool} (h : f false false = false) (s t : CharSet)
    (c : Char) : (combine f s t).contains c = f (s.contains c) (t.contains c) := by
  have := holds_sweep (f := f) (a := false) (b := false) (n := c.toNat) s.ascending t.ascending
  rwa [h] at this

/-- The characters of either set. -/
def union (s t : CharSet) : CharSet := combine (· || ·) s t

/-- The characters of both sets. -/
def inter (s t : CharSet) : CharSet := combine (· && ·) s t

/-- The characters of the first set that are not in the second. -/
def diff (s t : CharSet) : CharSet := combine (fun a b => a && !b) s t

/-- The characters of exactly one of the two sets. -/
def symmDiff (s t : CharSet) : CharSet := combine (fun a b => a != b) s t

/-- The characters that are not in the set. -/
def compl (s : CharSet) : CharSet := all.diff s

@[simp] theorem mem_union {c : Char} {s t : CharSet} : c ∈ s.union t ↔ c ∈ s ∨ c ∈ t := by
  simp [mem_iff, union, contains_combine]

@[simp] theorem mem_inter {c : Char} {s t : CharSet} : c ∈ s.inter t ↔ c ∈ s ∧ c ∈ t := by
  simp [mem_iff, inter, contains_combine]

@[simp] theorem mem_diff {c : Char} {s t : CharSet} : c ∈ s.diff t ↔ c ∈ s ∧ c ∉ t := by
  simp [mem_iff, diff, contains_combine]

theorem mem_all (c : Char) : c ∈ all := contains_all c

@[simp] theorem mem_compl {c : Char} {s : CharSet} : c ∈ s.compl ↔ c ∉ s := by
  simp [compl, mem_all]

/-! ### Building sets -/

/-- The characters with code points from `lo` to `hi`, both included. -/
def range (lo hi : Nat) : CharSet :=
  if h : lo ≤ hi then all.inter ⟨[lo, hi + 1], ⟨Nat.zero_le _, by omega, trivial⟩⟩ else empty

theorem mem_range {c : Char} {lo hi : Nat} :
    c ∈ range lo hi ↔ lo ≤ c.toNat ∧ c.toNat ≤ hi := by
  unfold range
  split
  · rw [mem_inter, eq_true (mem_all c), true_and]
    simp only [mem_iff, contains, holds]
    split
    · simp only [Bool.false_eq_true, false_iff]; omega
    · split <;> simp <;> omega
  · simp only [mem_iff, contains_empty, Bool.false_eq_true, false_iff]; omega

/-- The set of one character. -/
def single (c : Char) : CharSet := range c.toNat c.toNat

theorem mem_single {c d : Char} : c ∈ single d ↔ c = d := by
  rw [single, mem_range, ← Char.toNat_inj]; omega

/-- The characters of a list. -/
def ofList (cs : List Char) : CharSet := cs.foldr (fun c s => (single c).union s) empty

@[simp] theorem mem_ofList {c : Char} {cs : List Char} : c ∈ ofList cs ↔ c ∈ cs := by
  induction cs with
  | nil => simp [ofList, mem_iff]
  | cons d cs ih =>
    simp only [ofList, List.foldr_cons, mem_union, mem_single, List.mem_cons] at *
    rw [ih]

/-- The cuts of a list of ranges, each range included at both ends. A range that starts below its
predecessor's end is left out. -/
def cutsOfRanges : Nat → List (Nat × Nat) → List Nat
  | _, [] => []
  | low, (lo, hi) :: rest =>
    if low ≤ lo ∧ lo ≤ hi then lo :: (hi + 1) :: cutsOfRanges (hi + 2) rest
    else cutsOfRanges low rest

theorem ascending_cutsOfRanges (low : Nat) (rs : List (Nat × Nat)) :
    Ascending low (cutsOfRanges low rs) := by
  induction rs generalizing low with
  | nil => trivial
  | cons r rs ih =>
    unfold cutsOfRanges
    split
    · next h => exact ⟨h.1, by omega, ih _⟩
    · exact ih low

/-- The union of ranges that are listed in increasing order and apart from each other. -/
def ofRanges (rs : List (Nat × Nat)) : CharSet :=
  ⟨cutsOfRanges 0 rs, ascending_cutsOfRanges 0 rs⟩

/-! ### Looking at sets -/

/-- Whether the set has no character. -/
def isEmpty (s : CharSet) : Bool := s.cuts.isEmpty

/-- The only character of a set that has exactly one. -/
def only? (s : CharSet) : Option Char :=
  match s.cuts with
  | [lo, hi] => if hi = lo + 1 then some (Char.ofNat lo) else none
  | _ => none

/-- Whether every character of the set is below U+0080. -/
def isAscii (s : CharSet) : Bool := s.cuts.all (· ≤ 0x80)

/-- The stretches of adjacent characters, each by its first and last code point. -/
def stretches (s : CharSet) : List (Nat × Nat) := go s.cuts
where
  /-- Pairs up the cuts. -/
  go : List Nat → List (Nat × Nat)
    | lo :: hi :: rest => (lo, hi - 1) :: go rest
    | _ => []

end CharSet

end RuleLexer
