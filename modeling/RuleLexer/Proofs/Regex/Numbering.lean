import RuleLexer.Proofs.Regex.Building
import RuleLexer.Regex

/-!
# Groups are numbered from one on

The slots of a match hold the whole match first, and then the groups by their numbers. That a group
never gets at the slots of the whole match rests on its number, which is one at least. Reading gives
groups such numbers (`Tree.numbered_of_read`), and turning trees into expressions keeps them
(`Expr.heritable_numbered`), so that they are those of every expression that a text stands for
(`numbered_of_reading`).
-/

namespace RuleLexer.Regex

/-! ### Building expressions -/

theorem Expr.Numbered.members {e : Expr} (h : e.Numbered) : ∀ m ∈ e.members, m.Numbered := by
  induction e with
  | empty => exact fun e he => absurd he List.not_mem_nil
  | cat first rest _ ihr => exact List.forall_mem_cons.2 ⟨h.1, ihr h.2⟩
  | literal | set | look | times | capture | alt => exact List.forall_mem_singleton.2 h

theorem Expr.numbered_ofMembers {es : List Expr} (h : ∀ m ∈ es, m.Numbered) :
    (ofMembers es).Numbered := by
  fun_induction ofMembers es with
  | case1 => exact trivial
  | case2 e => exact List.forall_mem_singleton.1 h
  | case3 e es _ ih =>
    obtain ⟨first, rest⟩ := List.forall_mem_cons.1 h
    exact ⟨first, ih rest⟩

/-- Building expressions keeps the numbers of groups. -/
theorem Expr.heritable_numbered : Heritable Numbered Numbered where
  empty := trivial
  set _ := trivial
  literal _ := trivial
  look _ := trivial
  times _ _ _ h := h
  capture pos h := ⟨pos, h⟩
  alt first second := ⟨first, second⟩
  halves h := h
  members h := h.members
  member h := h
  ofMembers := numbered_ofMembers

/-! ### Reading -/

/-- All trees of a list have groups with numbers from one on. -/
def Tree.AllNumbered (ts : List Tree) : Prop := ∀ t ∈ ts, t.Numbered

theorem Tree.allNumbered_nil : AllNumbered [] := fun _ ht => absurd ht List.not_mem_nil

theorem Tree.allNumbered_cons {t : Tree} {ts : List Tree} :
    AllNumbered (t :: ts) ↔ t.Numbered ∧ AllNumbered ts := List.forall_mem_cons

theorem Tree.AllNumbered.reverse {ts : List Tree} (h : AllNumbered ts) : AllNumbered ts.reverse :=
  fun t ht => h t (List.mem_reverse.1 ht)

theorem Tree.numbered_ofSequence {ts : List Tree} (h : AllNumbered ts) :
    (ofSequence ts).Numbered := by
  fun_induction ofSequence ts with
  | case1 => exact trivial
  | case2 t => exact (allNumbered_cons.1 h).1
  | case3 t ts _ ih =>
    obtain ⟨first, rest⟩ := allNumbered_cons.1 h
    exact ⟨first, ih rest⟩

theorem Tree.numbered_ofChoices {ts : List Tree} (h : AllNumbered ts) :
    (Tree.ofChoices ts).Numbered := by
  fun_induction Tree.ofChoices ts with
  | case1 => exact trivial
  | case2 t => exact (allNumbered_cons.1 h).1
  | case3 t ts _ ih =>
    obtain ⟨first, rest⟩ := allNumbered_cons.1 h
    exact ⟨first, ih rest⟩

theorem Atom.numbered_toTree (a : Atom) : a.toTree.Numbered := by
  cases a <;> exact trivial

/-- What is read of a class in brackets is one. -/
theorem exists_of_classRest {verbose : Bool} {fuel : Nat} {frames : List ClassFrame}
    {items : List ClassTree} {cs rest : List Char} {t : Tree}
    (h : classRest verbose fuel frames items cs = .ok (t, rest)) :
    ∃ inner negated, t = .bracketed inner negated := by
  -- reading fails, goes on, or ends at the bracket that closes the outermost class
  induction fuel generalizing frames items cs with
  | zero => cases h
  | succ fuel ih =>
    unfold classRest at h
    dsimp only at h
    split at h
    · cases h
    · split at h
      · exact ih h
      · obtain ⟨⟨negated, inner, rest'⟩, -, h⟩ := bind_eq_ok_iff.1 h
        exact ih h
    · split at h
      · obtain ⟨rfl, -⟩ := Prod.mk.inj (Except.ok.inj h)
        exact ⟨_, _, rfl⟩
      · exact ih h
      · cases h
    · exact ih h
    · exact ih h
    · exact ih h
    · obtain ⟨⟨item, rest'⟩, -, h⟩ := bind_eq_ok_iff.1 h
      exact ih h

theorem numbered_of_bracketed {verbose : Bool} {cs rest : List Char} {t : Tree}
    (h : bracketed verbose cs = .ok (t, rest)) : t.Numbered := by
  obtain ⟨⟨negated, items, rest'⟩, -, h⟩ := bind_eq_ok_iff.1 h
  obtain ⟨inner, negated, rfl⟩ := exists_of_classRest h
  exact trivial

/-- A group that captures is open under a number from one on. -/
def Opening.Numbered : Opening → Prop
  | .capture index => 0 < index
  | .plain _ => True

theorem Opening.Numbered.close {opening : Opening} (h : opening.Numbered) {t : Tree}
    (ht : t.Numbered) : (opening.close t).Numbered := by
  cases opening with
  | capture index => exact ⟨h, ht⟩
  | plain settings => exact ht

/-- The groups around an open group, and this group, have numbers from one on. -/
structure Frame.Numbered (f : Frame) : Prop where
  opening : f.opening.Numbered
  choices : Tree.AllNumbered f.choices
  items : Tree.AllNumbered f.items

namespace Progress

/-- The groups read so far have numbers from one on. -/
structure Numbered (p : Progress) : Prop where
  frames : ∀ f ∈ p.frames, f.Numbered
  choices : Tree.AllNumbered p.choices
  items : Tree.AllNumbered p.items

variable {p p' : Progress} {cs rest : List Char}

namespace Numbered

theorem body (h : p.Numbered) : p.body.Numbered := by
  have sequence := Tree.numbered_ofSequence h.items.reverse
  exact Tree.numbered_ofChoices (Tree.allNumbered_cons.2 ⟨sequence, h.choices⟩).reverse

theorem push (h : p.Numbered) {item : Tree} (hi : item.Numbered) (rest : List Char) :
    (p.push item rest).Numbered :=
  ⟨h.frames, h.choices, Tree.allNumbered_cons.2 ⟨hi, h.items⟩⟩

theorem openGroup (h : p.Numbered) {opening : Opening} (ho : opening.Numbered) (verbose : Bool)
    (rest : List Char) : (p.openGroup opening verbose rest).Numbered := by
  refine ⟨fun f hf => ?_, Tree.allNumbered_nil, Tree.allNumbered_nil⟩
  rcases List.mem_cons.1 hf with rfl | hf
  · exact ⟨ho, h.choices, h.items⟩
  · exact h.frames f hf

theorem openCapture (h : p.Numbered) (rest : List Char) : (p.openCapture rest).Numbered := by
  have next : (Opening.capture (p.groups + 1)).Numbered := Nat.succ_pos p.groups
  have opened := h.openGroup next p.verbose rest
  exact ⟨opened.frames, opened.choices, opened.items⟩

theorem close (h : p.Numbered) (hc : p.close rest = .ok p') : p'.Numbered := by
  unfold Progress.close at hc
  split at hc
  · cases hc
  · next frame frames hf =>
    obtain rfl := Except.ok.inj hc
    have all := h.frames
    rw [hf] at all
    obtain ⟨first, others⟩ := List.forall_mem_cons.1 all
    exact ⟨others, first.choices,
      Tree.allNumbered_cons.2 ⟨first.opening.close h.body, first.items⟩⟩

theorem repeatLast (h : p.Numbered) {least : Nat} {most : Option Nat}
    (hr : p.repeatLast least most rest = .ok p') : p'.Numbered := by
  unfold Progress.repeatLast at hr
  split at hr
  · cases hr
  · cases hr
  · cases hr
  · next item items _ _ hi =>
    obtain rfl := Except.ok.inj hr
    have all := h.items
    rw [hi] at all
    obtain ⟨last, others⟩ := Tree.allNumbered_cons.1 all
    exact ⟨h.frames, h.choices, Tree.allNumbered_cons.2 ⟨last, others⟩⟩

theorem openNamed (h : p.Numbered) (ho : p.openNamed cs = .ok p') : p'.Numbered := by
  unfold Progress.openNamed at ho
  dsimp only at ho
  split at ho
  · split at ho
    · split at ho
      · cases ho
      · obtain rfl := Except.ok.inj ho
        have opened := h.openCapture cs
        exact ⟨opened.frames, opened.choices, opened.items⟩
    · cases ho
  · cases ho

theorem parenthesis (h : p.Numbered) (hp : p.parenthesis cs = .ok p') : p'.Numbered := by
  unfold Progress.parenthesis at hp
  split at hp
  · cases hp
  · cases hp
  · cases hp
  · cases hp
  · exact h.openNamed hp
  · exact h.openNamed hp
  · obtain ⟨⟨settings, rest⟩, -, hp⟩ := bind_eq_ok_iff.1 hp
    dsimp only at hp
    split at hp
    · split at hp
      · cases hp
      · obtain rfl := Except.ok.inj hp
        exact ⟨h.frames, h.choices, Tree.allNumbered_cons.2 ⟨trivial, h.items⟩⟩
    · obtain rfl := Except.ok.inj hp
      have plain : (Opening.plain settings).Numbered := trivial
      exact h.openGroup plain _ _
  · obtain rfl := Except.ok.inj hp
    exact h.openCapture _

/-- **A step of reading** gives groups numbers from one on. -/
theorem step (h : p.Numbered) {c : Char} (hs : p.step c cs = .ok p') : p'.Numbered := by
  unfold Progress.step at hs
  -- one case for each character that has a meaning of its own; the others push what they read
  split at hs
  · exact h.parenthesis hs
  · exact h.close hs
  · obtain rfl := Except.ok.inj hs
    exact ⟨h.frames, Tree.allNumbered_cons.2 ⟨Tree.numbered_ofSequence h.items.reverse, h.choices⟩,
      Tree.allNumbered_nil⟩
  · obtain ⟨⟨item, rest⟩, hb, rfl⟩ := map_eq_ok_iff.1 hs
    exact h.push (numbered_of_bracketed hb) rest
  · exact h.repeatLast hs
  · exact h.repeatLast hs
  · exact h.repeatLast hs
  · split at hs
    · cases hs
    · cases hs
    · cases hs
    · obtain ⟨⟨least, most, rest⟩, -, hs⟩ := bind_eq_ok_iff.1 hs
      exact h.repeatLast hs
  · obtain ⟨⟨atom, rest⟩, -, rfl⟩ := map_eq_ok_iff.1 hs
    exact h.push atom.numbered_toTree rest
  all_goals
    obtain rfl := Except.ok.inj hs
    refine h.push ?_ cs
    exact trivial

end Numbered

theorem numbered_of_finish {fuel : Nat} {t : Tree} (h : p.Numbered) (hf : finish fuel p = .ok t) :
    t.Numbered := by
  induction fuel generalizing p with
  | zero => cases hf
  | succ fuel ih =>
    unfold finish at hf
    split at hf
    · split at hf
      · obtain rfl := Except.ok.inj hf
        exact h.body
      · cases hf
    · obtain ⟨p', hs, hf⟩ := bind_eq_ok_iff.1 hf
      exact ih (h.step hs) hf

end Progress

/-- The start of a reading. -/
def Progress.start (text : List Char) : Progress := ⟨text, false, 0, [], [], [], []⟩

/-- Reads a text, to any depth of nesting. -/
def Tree.read (text : List Char) : Except SyntaxError Tree :=
  (Progress.start text).finish (text.length + 1)

/-- What is read is accepted if it is not nested too deeply. -/
theorem Tree.parse_eq (text : List Char) : Tree.parse text = (Tree.read text).bind fun tree =>
    if tree.depth .neither ≤ maxDepth then .ok tree else .error .tooDeep :=
  rfl

theorem Tree.read_of_parse {text : List Char} {t : Tree} (h : Tree.parse text = .ok t) :
    Tree.read text = .ok t := by
  obtain ⟨t', read, h⟩ := bind_eq_ok_iff.1 h
  split at h
  · obtain rfl := Except.ok.inj h
    exact read
  · cases h

/-- **Reading gives groups numbers from one on.** -/
theorem Tree.numbered_of_read {text : List Char} {t : Tree} (h : Tree.read text = .ok t) :
    t.Numbered := by
  refine Progress.numbered_of_finish ⟨?_, allNumbered_nil, allNumbered_nil⟩ h
  exact fun f hf => absurd hf List.not_mem_nil

/-- **The groups of the expression that a text stands for** have numbers from one on. -/
theorem numbered_of_reading {text : List Char} {e : Expr}
    (h : (Tree.parse text >>= Tree.toExpr?) = .ok e) : e.Numbered := by
  obtain ⟨t, ht, he⟩ := bind_eq_ok_iff.1 h
  have numbered := Tree.numbered_of_read (Tree.read_of_parse ht)
  exact Expr.heritable_numbered.of_toExpr? numbered he

end RuleLexer.Regex
