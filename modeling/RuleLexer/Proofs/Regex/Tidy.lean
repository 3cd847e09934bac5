import RuleLexer.Proofs.Regex.Numbering

/-!
# Sequences are flat

`Expr.seq` opens up the sequences among its parts, leaves out what is empty and joins the literals
that come to stand side by side. So a sequence has no empty parts, which building keeps
(`Expr.heritable_tidy`), and doing all this a second time changes nothing: put behind a condition
on the place, and into a further sequence, a sequence stands there as it is
(`Expr.seq_behind_look`).
-/

namespace RuleLexer.Regex.Expr

/-- **A tidy expression**: no sequence in it has an empty part. -/
def Tidy : Expr → Prop
  | .times body .. => body.Tidy
  | .capture _ body => body.Tidy
  | .cat first rest => (first ≠ .empty ∧ first.Tidy) ∧ rest ≠ .empty ∧ rest.Tidy
  | .alt first second => first.Tidy ∧ second.Tidy
  | _ => True

theorem Tidy.members {e : Expr} (h : e.Tidy) : ∀ m ∈ e.members, m ≠ .empty ∧ m.Tidy := by
  induction e with
  | empty => exact fun m hm => absurd hm List.not_mem_nil
  | cat first rest _ ihr => exact List.forall_mem_cons.2 ⟨h.1, ihr h.2.2⟩
  | literal | set | look | times | capture | alt =>
    exact List.forall_mem_singleton.2 ⟨Expr.noConfusion, h⟩

theorem ofMembers_ne_empty {es : List Expr} (some : es ≠ []) (h : ∀ m ∈ es, m ≠ .empty) :
    ofMembers es ≠ .empty := by
  fun_induction ofMembers es with
  | case1 => exact absurd rfl some
  | case2 e => exact h e List.mem_cons_self
  | case3 => exact Expr.noConfusion

theorem tidy_ofMembers {es : List Expr} (h : ∀ m ∈ es, m ≠ .empty ∧ m.Tidy) :
    (ofMembers es).Tidy := by
  fun_induction ofMembers es with
  | case1 => exact trivial
  | case2 e => exact (List.forall_mem_singleton.1 h).2
  | case3 e es some ih =>
    obtain ⟨first, rest⟩ := List.forall_mem_cons.1 h
    exact ⟨first, ofMembers_ne_empty some fun m hm => (rest m hm).1, ih rest⟩

/-- **Building keeps expressions tidy.** -/
theorem heritable_tidy : Heritable Tidy fun m => m ≠ .empty ∧ m.Tidy where
  empty := trivial
  set _ := trivial
  literal _ := ⟨Expr.noConfusion, trivial⟩
  look _ := trivial
  times _ _ _ h := h
  capture _ h := h
  alt first second := ⟨first, second⟩
  halves h := h
  members h := h.members
  member h := h.2
  ofMembers := tidy_ofMembers

/-! ### Members of sequences -/

/-- The last expression of a list is no sequence, nor empty. -/
def EndsPlain : List Expr → Prop
  | [] => True
  | [e] => e.members = [e]
  | _ :: es => EndsPlain es

theorem EndsPlain.cons {es : List Expr} (h : EndsPlain es) {e : Expr}
    (last : es = [] → e.members = [e]) : EndsPlain (e :: es) := by
  cases es with
  | nil => exact last rfl
  | cons => exact h

theorem EndsPlain.tail {e : Expr} {es : List Expr} (h : EndsPlain (e :: es)) : EndsPlain es := by
  cases es with
  | nil => exact trivial
  | cons => exact h

theorem EndsPlain.append {es fs : List Expr} (he : EndsPlain es) (hf : EndsPlain fs) :
    EndsPlain (es ++ fs) := by
  induction es with
  | nil => exact hf
  | cons e es ih =>
    refine (ih he.tail).cons fun none => ?_
    obtain ⟨rfl, -⟩ := List.append_eq_nil_iff.1 none
    exact he

theorem Tidy.endsPlain_members {e : Expr} (h : e.Tidy) : EndsPlain e.members := by
  induction e with
  | empty => exact trivial
  | cat first rest _ ihr =>
    obtain ⟨-, some, tidy⟩ := h
    refine (ihr tidy).cons fun none => ?_
    cases rest with
    | empty => exact absurd rfl some
    | literal | set | look | times | capture | cat | alt => cases none
  | literal | set | look | times | capture | alt => rfl

theorem endsPlain_flatMap_members {es : List Expr} (h : ∀ e ∈ es, e.Tidy) :
    EndsPlain (es.flatMap Expr.members) := by
  induction es with
  | nil => exact trivial
  | cons e es ih =>
    obtain ⟨first, rest⟩ := List.forall_mem_cons.1 h
    exact first.endsPlain_members.append (ih rest)

theorem joinLiterals_ne_nil {es : List Expr} (some : es ≠ []) : joinLiterals es ≠ [] := by
  fun_induction Expr.joinLiterals es with
  | case1 => exact absurd rfl some
  | case2 | case3 | case4 => exact List.cons_ne_nil _ _

theorem EndsPlain.joinLiterals {es : List Expr} (h : EndsPlain es) :
    EndsPlain (joinLiterals es) := by
  fun_induction Expr.joinLiterals es with
  | case1 => exact trivial
  | case2 cs es ds fs joined ih =>
    have rest := ih h.tail
    rw [joined] at rest
    exact rest.tail.cons fun _ => rfl
  | case3 cs es _ ih => exact (ih h.tail).cons fun _ => rfl
  | case4 e es _ ih =>
    refine (ih h.tail).cons fun none => ?_
    obtain rfl : es = [] :=
      Decidable.byContradiction fun some => joinLiterals_ne_nil some none
    exact h

/-- Taken apart again, a sequence has the members that it was made of. -/
theorem EndsPlain.members_ofMembers {es : List Expr} (h : EndsPlain es) :
    (ofMembers es).members = es := by
  fun_induction ofMembers es with
  | case1 => rfl
  | case2 e => exact h
  | case3 e es _ ih => exact congrArg (e :: ·) (ih h.tail)

/-! ### Literals -/

/-- No two literals stand side by side. -/
def Apart : List Expr → Prop
  | .literal _ :: .literal _ :: _ => False
  | _ :: es => Apart es
  | [] => True

theorem Apart.tail {e : Expr} {es : List Expr} (h : Apart (e :: es)) : Apart es := by
  unfold Apart at h
  split at h
  · exact h.elim
  · next same =>
    obtain ⟨-, rfl⟩ := List.cons.inj same
    exact h
  · next none => cases none

theorem apart_cons {e : Expr} {es : List Expr} (h : Apart es)
    (first : ∀ cs ds fs, e = .literal cs → es = .literal ds :: fs → False) : Apart (e :: es) := by
  unfold Apart
  split
  · next same =>
    obtain ⟨rfl, rfl⟩ := List.cons.inj same
    exact first _ _ _ rfl rfl
  · next same =>
    obtain ⟨-, rfl⟩ := List.cons.inj same
    exact h
  · exact trivial

/-- Literals that were joined stand apart. -/
theorem apart_joinLiterals (es : List Expr) : Apart (joinLiterals es) := by
  fun_induction Expr.joinLiterals es with
  | case1 => exact trivial
  | case2 cs es ds fs joined ih =>
    rw [joined] at ih
    refine apart_cons ih.tail ?_
    rintro _ es' gs - rfl
    exact ih
  | case3 cs es no ih => exact apart_cons ih fun _ ds fs _ same => no ds fs same
  | case4 e es no ih => exact apart_cons ih fun cs _ _ same _ => no cs same

/-- There is nothing to join in literals that stand apart. -/
theorem Apart.joinLiterals_eq {es : List Expr} (h : Apart es) : joinLiterals es = es := by
  fun_induction Expr.joinLiterals es with
  | case1 => rfl
  | case2 cs es ds fs joined ih =>
    obtain rfl : es = .literal ds :: fs := (ih h.tail).symm.trans joined
    exact h.elim
  | case3 cs es _ ih => exact congrArg (_ :: ·) (ih h.tail)
  | case4 e es _ ih => exact congrArg (e :: ·) (ih h.tail)

/-! ### Sequences in sequences -/

/-- **A sequence behind a condition** stands there as it is, also within a further sequence, unless
it is empty. -/
theorem seq_behind_look {parts : List Expr} (tidy : ∀ e ∈ parts, e.Tidy) (l : Look) :
    (seq parts = .empty ∧ seq [seq [.look l, seq parts]] = .look l) ∨
      seq [seq [.look l, seq parts]] = .cat (.look l) (seq parts) := by
  have apart := apart_joinLiterals (parts.flatMap Expr.members)
  have plain := (endsPlain_flatMap_members tidy).joinLiterals
  rw [show seq parts = ofMembers (joinLiterals (parts.flatMap Expr.members)) from rfl]
  generalize joinLiterals (parts.flatMap Expr.members) = ms at apart plain
  have apart' : Apart (.look l :: ms) := apart_cons apart fun _ _ _ same _ => nomatch same
  have plain' : EndsPlain (.look l :: ms) := plain.cons fun _ => rfl
  -- the members of the sequence come behind the condition, and there is nothing more to join
  have inner : seq [.look l, ofMembers ms] = ofMembers (.look l :: ms) := by
    show ofMembers (joinLiterals (.look l :: ((ofMembers ms).members ++ []))) = _
    rw [plain.members_ofMembers, List.append_nil, apart'.joinLiterals_eq]
  have outer : seq [ofMembers (.look l :: ms)] = ofMembers (.look l :: ms) := by
    show ofMembers (joinLiterals ((ofMembers (.look l :: ms)).members ++ [])) = _
    rw [plain'.members_ofMembers, List.append_nil, apart'.joinLiterals_eq]
  rw [inner, outer]
  cases ms with
  | nil => exact Or.inl ⟨rfl, rfl⟩
  | cons m ms => exact Or.inr rfl

end RuleLexer.Regex.Expr
