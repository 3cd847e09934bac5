import RuleLexer.Proofs.Outcome
import RuleLexer.Proofs.Regex.Language
import RuleLexer.Regex.Meaning

/-!
# What building expressions keeps

The meaning of a tree is built from smaller expressions by `Expr.seq`, `Expr.choice` and
`Expr.repeated`, which open up sequences and choices, join literals and take out what the members of
a choice share. A property of expressions that goes over to the members of a sequence or choice and
comes back from them is kept by all of this (`Expr.Heritable`), and so it is one of everything that
a tree means (`Expr.Heritable.of_meaning`).
-/

namespace RuleLexer.Regex

namespace Expr

/-- **A property that building keeps**: `P` of all expressions, and `Q` of the members of
sequences. -/
structure Heritable (P Q : Expr → Prop) : Prop where
  empty : P .empty
  set : ∀ s, P (.set s)
  literal : ∀ cs, Q (.literal cs)
  look : ∀ l, P (.look l)
  times : ∀ {body : Expr} least most greedy, P body → P (.times body least most greedy)
  /-- Groups that capture have numbers from one on. -/
  capture : ∀ {index : Nat} {body : Expr}, 0 < index → P body → P (.capture index body)
  alt : ∀ {first second : Expr}, P first → P second → P (.alt first second)
  /-- The halves of a choice. -/
  halves : ∀ {first second : Expr}, P (.alt first second) → P first ∧ P second
  /-- A sequence hands on to its members. -/
  members : ∀ {e : Expr}, P e → ∀ m ∈ e.members, Q m
  member : ∀ {m : Expr}, Q m → P m
  /-- Members hand back to the sequence. -/
  ofMembers : ∀ {es : List Expr}, (∀ m ∈ es, Q m) → P (ofMembers es)

theorem mem_of_mem_commonStart {as bs : List Expr} {e : Expr} (h : e ∈ commonStart as bs) :
    e ∈ as := by
  fun_induction commonStart as bs with
  | case1 _ _ _ ih =>
    rcases List.mem_cons.1 h with rfl | h
    · exact List.mem_cons_self
    · exact List.mem_cons_of_mem _ (ih h)
  | case2 | case3 => exact absurd h List.not_mem_nil

theorem mem_of_mem_foldl_commonStart {es : List Expr} {shared : List Expr} {e : Expr}
    (h : e ∈ es.foldl (fun shared e => commonStart shared e.members) shared) : e ∈ shared := by
  induction es generalizing shared with
  | nil => exact h
  | cons f es ih => exact mem_of_mem_commonStart (ih h)

namespace Heritable

variable {P Q : Expr → Prop} (her : Heritable P Q)

include her

theorem ofSet (s : CharSet) : P (ofSet s) := by
  unfold Expr.ofSet
  split
  · exact her.member (her.literal _)
  · exact her.set s

theorem repeated {body : Expr} (h : P body) (least : Nat) (most : Option Nat) (greedy : Bool) :
    P (body.repeated least most greedy) := by
  unfold Expr.repeated
  generalize (if body.onlyEmpty then (min least 1, some (min (most.getD 1) 1)) else (least, most)) =
    bounds
  dsimp only
  split
  · exact her.empty
  · split
    · exact h
    · exact her.times _ _ _ h

theorem joinLiterals {es : List Expr} (h : ∀ m ∈ es, Q m) : ∀ m ∈ joinLiterals es, Q m := by
  fun_induction Expr.joinLiterals es with
  | case1 => exact h
  | case2 cs es ds fs joined ih =>
    -- the rest starts with a literal, which the first one is joined to
    have rest := ih (List.forall_mem_cons.1 h).2
    rw [joined] at rest
    exact List.forall_mem_cons.2 ⟨her.literal _, (List.forall_mem_cons.1 rest).2⟩
  | case3 cs es _ ih =>
    exact List.forall_mem_cons.2 ⟨her.literal _, ih (List.forall_mem_cons.1 h).2⟩
  | case4 e es _ ih =>
    obtain ⟨first, rest⟩ := List.forall_mem_cons.1 h
    exact List.forall_mem_cons.2 ⟨first, ih rest⟩

/-- The members of the sequence of some expressions, before they are put together. -/
theorem joined {es : List Expr} (h : ∀ e ∈ es, P e) :
    ∀ m ∈ Expr.joinLiterals (es.flatMap Expr.members), Q m := by
  refine her.joinLiterals fun m hm => ?_
  obtain ⟨e, he, hm⟩ := List.mem_flatMap.1 hm
  exact her.members (h e he) m hm

theorem seq {es : List Expr} (h : ∀ e ∈ es, P e) : P (seq es) := her.ofMembers (her.joined h)

theorem choices {e : Expr} (h : P e) : ∀ c ∈ e.choices, P c := by
  induction e with
  | alt first second _ ihs =>
    obtain ⟨hf, hs⟩ := her.halves h
    exact List.forall_mem_cons.2 ⟨hf, ihs hs⟩
  | empty | literal | set | look | times | capture | cat => exact List.forall_mem_singleton.2 h

theorem ofChoices {es : List Expr} (h : ∀ e ∈ es, P e) : P (ofChoices es) := by
  fun_induction Expr.ofChoices es with
  | case1 => exact her.set _
  | case2 e => exact List.forall_mem_singleton.1 h
  | case3 e es _ ih =>
    obtain ⟨first, rest⟩ := List.forall_mem_cons.1 h
    exact her.alt first (ih rest)

theorem sharedStart {es : List Expr} (h : ∀ e ∈ es, P e) : ∀ m ∈ sharedStart es, P m := by
  unfold Expr.sharedStart
  split
  · exact fun e he => absurd he List.not_mem_nil
  · next e es =>
    split
    · intro m hm
      exact her.member (her.members (List.forall_mem_cons.1 h).1 m
        (mem_of_mem_foldl_commonStart hm))
    · exact fun e he => absurd he List.not_mem_nil

theorem choiceWithin {fuel : Nat} {es : List Expr} (h : ∀ e ∈ es, P e) :
    P (choiceWithin fuel es) := by
  induction fuel generalizing es with
  | zero => exact her.ofChoices h
  | succ fuel ih =>
    have all : ∀ e ∈ es.flatMap Expr.choices, P e := by
      intro e he
      obtain ⟨f, hf, he⟩ := List.mem_flatMap.1 he
      exact her.choices (h f hf) e he
    unfold Expr.choiceWithin
    split
    · exact her.set _
    · next e one =>
      rw [one] at all
      exact List.forall_mem_singleton.1 all
    · split
      · exact her.ofSet _
      · split
        · exact her.ofChoices all
        -- What the choices share is taken out to the front, and the rest is a choice again.
        · refine her.seq (List.forall_mem_append.2 ⟨her.sharedStart all, ?_⟩)
          refine List.forall_mem_singleton.2 (ih fun e he => ?_)
          obtain ⟨f, hf, rfl⟩ := List.mem_map.1 he
          exact her.seq fun m hm =>
            her.member (her.members (all f hf) m (List.mem_of_mem_drop hm))

theorem choice {es : List Expr} (h : ∀ e ∈ es, P e) : P (choice es) := her.choiceWithin h

end Heritable

end Expr

/-! ### The meaning of a tree -/

/-- The groups of a tree have numbers from one on. -/
def Tree.Numbered : Tree → Prop
  | .repetition body .. => body.Numbered
  | .capture index body => 0 < index ∧ body.Numbered
  | .group _ body => body.Numbered
  | .cat first rest => first.Numbered ∧ rest.Numbered
  | .alt first rest => first.Numbered ∧ rest.Numbered
  | _ => True

namespace Expr.Heritable

variable {P Q : Expr → Prop} (her : Heritable P Q)

include her

theorem of_literal {flags : Flags} {l : Literal} {e : Expr} (h : flags.literal l = .ok e) :
    P e := by
  obtain ⟨c, -, h⟩ := bind_eq_ok_iff.1 h
  split at h
  · obtain rfl := Except.ok.inj h
    exact her.member (her.literal _)
  · obtain rfl := Except.ok.inj h
    exact her.ofSet _

theorem of_dot {flags : Flags} {e : Expr} (h : flags.dot = .ok e) : P e := by
  unfold Flags.dot at h
  split at h
  · cases h
  · split at h
    · obtain rfl := Except.ok.inj h
      exact her.ofSet _
    · split at h
      · obtain rfl := Except.ok.inj h
        exact her.ofSet _
      · obtain rfl := Except.ok.inj h
        exact her.ofSet _

/-- **Turning a tree into expressions** keeps what building keeps. -/
theorem of_meaning {tree : Tree} (numbered : tree.Numbered) {chain : Chain} {flags : Flags}
    {m : Meaning} (h : tree.meaning chain flags = .ok m) : ∀ e ∈ m.parts, P e := by
  induction tree generalizing chain flags m with
  | empty | flags =>
    obtain rfl := Except.ok.inj h
    exact List.forall_mem_singleton.2 her.empty
  | assertion =>
    obtain rfl := Except.ok.inj h
    exact List.forall_mem_singleton.2 (her.look _)
  | literal l =>
    obtain ⟨e, he, h⟩ := bind_eq_ok_iff.1 h
    obtain rfl := Except.ok.inj h
    exact List.forall_mem_singleton.2 (her.of_literal he)
  | dot =>
    obtain ⟨e, he, h⟩ := bind_eq_ok_iff.1 h
    obtain rfl := Except.ok.inj h
    exact List.forall_mem_singleton.2 (her.of_dot he)
  | escape | property =>
    obtain ⟨s, -, h⟩ := bind_eq_ok_iff.1 h
    obtain rfl := Except.ok.inj h
    exact List.forall_mem_singleton.2 (her.ofSet s)
  | bracketed inner negated =>
    obtain ⟨s, -, h⟩ := bind_eq_ok_iff.1 h
    obtain ⟨s, -, h⟩ := bind_eq_ok_iff.1 h
    obtain rfl := Except.ok.inj h
    exact List.forall_mem_singleton.2 (her.ofSet s)
  | repetition body least most greedy ih =>
    obtain ⟨b, hb, h⟩ := bind_eq_ok_iff.1 h
    obtain rfl := Except.ok.inj h
    exact List.forall_mem_singleton.2 (her.repeated (her.seq (ih numbered hb)) _ _ _)
  | capture index body ih =>
    obtain ⟨b, hb, h⟩ := bind_eq_ok_iff.1 h
    obtain rfl := Except.ok.inj h
    exact List.forall_mem_singleton.2 (her.capture numbered.1 (her.seq (ih numbered.2 hb)))
  | group settings body ih =>
    obtain ⟨b, hb, h⟩ := bind_eq_ok_iff.1 h
    obtain rfl := Except.ok.inj h
    exact List.forall_mem_singleton.2 (her.seq (ih numbered hb))
  | cat first rest ihf ihr =>
    obtain ⟨f, hf, h⟩ := bind_eq_ok_iff.1 h
    obtain ⟨r, hr, h⟩ := bind_eq_ok_iff.1 h
    obtain rfl := Except.ok.inj h
    -- within a sequence the parts are those of the whole, elsewhere they are one expression
    have parts := List.forall_mem_append.2 ⟨ihf numbered.1 hf, ihr numbered.2 hr⟩
    by_cases inside : chain = .sequence
    · rw [if_pos inside]
      exact parts
    · rw [if_neg inside]
      exact List.forall_mem_singleton.2 (her.seq parts)
  | alt first rest ihf ihr =>
    obtain ⟨f, hf, h⟩ := bind_eq_ok_iff.1 h
    obtain ⟨r, hr, h⟩ := bind_eq_ok_iff.1 h
    obtain rfl := Except.ok.inj h
    have parts := List.forall_mem_append.2 ⟨ihf numbered.1 hf, ihr numbered.2 hr⟩
    by_cases inside : chain = .choice
    · rw [if_pos inside]
      exact parts
    · rw [if_neg inside]
      exact List.forall_mem_singleton.2 (her.choice parts)

/-- What a tree means as a whole has what building keeps. -/
theorem of_toExpr? {tree : Tree} (numbered : tree.Numbered) {e : Expr} (h : tree.toExpr? = .ok e) :
    P e := by
  obtain ⟨m, hm, h⟩ := bind_eq_ok_iff.1 h
  obtain rfl := Except.ok.inj h
  exact her.seq (her.of_meaning numbered hm)

end Expr.Heritable

end RuleLexer.Regex
