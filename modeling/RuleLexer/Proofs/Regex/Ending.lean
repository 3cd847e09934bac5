import RuleLexer.Proofs.Regex.Enclosed

/-!
# How the reading of a group ends

An expression that can be read on its own is read alike when a closing parenthesis stands behind it,
and when it stands in a group that this parenthesis is to close. Both readings end in one of two
ways: either the parenthesis is read, which closes the group and is one too many without it, or a
comment at the end of the expression swallows it, which leaves the group open.

* `Progress.step_within` — what a step does, it does inside any further groups;
* `Tree.EndsInComment` — the comment swallows the parenthesis;
* `Tree.read_group` — the main statement: the group is read as the expression behind the mark, or it
  is refused, by which of the two it is.

The limit of nesting is left aside here: `Tree.read` reads a text however deeply it is nested.
-/

namespace RuleLexer.Regex

/-- **An expression ends in a comment**: a closing parenthesis behind it, which would be one too
many otherwise, is part of the comment and changes nothing. -/
def Tree.EndsInComment (source : List Char) : Prop :=
  Tree.read (source ++ [')']) = Tree.read source

/-- The tree of an expression in a group and behind a mark for the start of the text. -/
def Tree.marked (tree : Tree) : Tree := .cat (.assertion .textStart) (.group [] tree)

/-! ### Steps inside further groups -/

namespace Progress

variable {p q : Progress} (outer : List Frame) (r : List Char)

/-- A reading inside further groups, with the text that it has left itself. -/
def inside (outer : List Frame) (p : Progress) : Progress := p.within outer p.rest

/-- Closing a group that was opened before the further ones were added closes it among them. -/
theorem close_within (some : p.frames ≠ []) (cs : List Char) :
    (p.within outer r).close cs = (p.close cs).map (inside outer) := by
  obtain ⟨frame, frames, hf⟩ := List.exists_cons_of_ne_nil some
  have hf' : (p.within outer r).frames = frame :: (frames ++ outer) := congrArg (· ++ outer) hf
  unfold close
  rw [hf, hf']
  rfl

theorem openNamed_within (cs : List Char) :
    (p.within outer r).openNamed cs = (p.openNamed cs).map (inside outer) := by
  unfold openNamed
  dsimp only
  split
  · split
    · have names : (p.within outer r).names = p.names := rfl
      rw [names]
      split <;> rfl
    · rfl
  · rfl

theorem repeatLast_within (least : Nat) (most : Option Nat) (cs : List Char) :
    (p.within outer r).repeatLast least most cs =
      (p.repeatLast least most cs).map (inside outer) := by
  unfold repeatLast
  rw [show (p.within outer r).items = p.items from rfl]
  split <;> rfl

theorem openFlags_within (cs : List Char) :
    (p.within outer r).openFlags cs = (p.openFlags cs).map (inside outer) := by
  unfold openFlags
  cases flagSettings [] false false cs with
  | error => rfl
  | ok found =>
    show (p.within outer r).useFlags found.1 found.2 =
      (p.useFlags found.1 found.2).map (inside outer)
    unfold useFlags
    split
    · dsimp only
      split <;> rfl
    · rfl

theorem parenthesis_within (cs : List Char) :
    (p.within outer r).parenthesis cs = (p.parenthesis cs).map (inside outer) := by
  unfold parenthesis
  rw [show (p.within outer r).verbose = p.verbose from rfl]
  split
  · rfl
  · rfl
  · rfl
  · rfl
  · exact openNamed_within outer r _
  · exact openNamed_within outer r _
  · exact openFlags_within outer r _
  · rfl

theorem repeatCounts_within (cs : List Char) :
    (p.within outer r).repeatCounts cs = (p.repeatCounts cs).map (inside outer) := by
  unfold repeatCounts
  rw [show (p.within outer r).items = p.items from rfl]
  split
  · rfl
  · rfl
  · rfl
  · rw [show (p.within outer r).verbose = p.verbose from rfl]
    cases counts p.verbose cs with
    | error => rfl
    | ok found => exact repeatLast_within outer r _ _ _

/-- **A step** does inside further groups what it does without them, as long as there is a group of
its own for a parenthesis to close. -/
theorem step_within {c : Char} (own : c = ')' → p.frames ≠ []) (cs : List Char) :
    (p.within outer r).step c cs = (p.step c cs).map (inside outer) := by
  unfold step
  split
  · exact parenthesis_within outer r cs
  · exact close_within outer r (own rfl) cs
  · rfl
  · show (bracketed p.verbose cs).map _ = _
    cases bracketed p.verbose cs <;> rfl
  · exact repeatLast_within outer r _ _ _
  · exact repeatLast_within outer r _ _ _
  · exact repeatLast_within outer r _ _ _
  · exact repeatCounts_within outer r cs
  · show (escape p.verbose cs).map _ = _
    cases escape p.verbose cs <;> rfl
  · rfl
  · rfl
  · rfl
  · rfl

/-! ### The two ways to end -/

/-- The further group that an expression is put into, behind a mark for the start of the text. -/
def outerFrame : Frame := ⟨.plain [], [], [.assertion .textStart], false⟩

/-- The reading behind the group. -/
def behindGroup (p : Progress) : Progress :=
  { p with
    rest := [], verbose := false, frames := [], choices := []
    items := [.group [] p.body, .assertion .textStart] }

/-- With no group open, a parenthesis is one too many. -/
theorem step_close_of_no_frame (none : p.frames = []) (cs : List Char) :
    p.step ')' cs = .error .unopenedGroup := by
  show p.close cs = _
  unfold Progress.close
  rw [none]

/-- With no group of its own open, it closes the further group. -/
theorem step_close_inside (none : p.frames = []) :
    (p.inside [outerFrame]).step ')' [] = .ok p.behindGroup := by
  show close _ [] = _
  unfold close inside within
  rw [none]
  rfl

theorem frames_ne_nil_of_step {c : Char} {cs : List Char} (h : p.step c cs = .ok q)
    (close : c = ')') : p.frames ≠ [] := by
  intro none
  subst close
  cases h.symm.trans (step_close_of_no_frame none cs)

theorem finish_of_skip_nil (fuel : Nat) (h : skip p.verbose p.rest = []) :
    finish (fuel + 1) p = if p.frames.isEmpty then .ok p.body else .error .unclosedGroup := by
  rw [finish, h]

theorem finish_of_skip_cons (fuel : Nat) {c : Char} {cs : List Char}
    (h : skip p.verbose p.rest = c :: cs) : finish (fuel + 1) p = p.step c cs >>= finish fuel := by
  rw [finish, h]

/-- **The readings with the parenthesis behind** the expression end in one of two ways: it is read,
or it is lost to a comment. -/
theorem finish_closed {fuel bare inner : Nat} {p b : Progress} {tree : Tree}
    (own : finish fuel p = .ok tree) (level : Enclosed [] p b) (enough : fuel < bare)
    (enough' : fuel < inner) :
    (finish bare b = .error .unopenedGroup ∧
      finish inner (b.inside [outerFrame]) = .ok tree.marked) ∨
    (finish bare b = .ok tree ∧
      finish inner (b.inside [outerFrame]) = .error .unclosedGroup) := by
  -- The induction is on the reading of the expression on its own, whose steps the others follow.
  induction fuel generalizing bare inner p b with
  | zero => cases own
  | succ fuel ih =>
    obtain ⟨bare, rfl⟩ : ∃ n, bare = n + 1 := ⟨bare - 1, by omega⟩
    obtain ⟨inner, rfl⟩ : ∃ n, inner = n + 1 := ⟨inner - 1, by omega⟩
    obtain ⟨rest, closed, rfl⟩ := level
    have frames : (p.within [] rest).frames = p.frames := List.append_nil p.frames
    have skipped : Closed (skip p.verbose p.rest) (skip p.verbose rest) := closed.skip p.verbose
    generalize hs : skip p.verbose p.rest = s at skipped
    generalize hb : skip p.verbose rest = s' at skipped
    replace hb : skip (p.within [] rest).verbose (p.within [] rest).rest = s' := hb
    have hi : skip ((p.within [] rest).inside [outerFrame]).verbose
        ((p.within [] rest).inside [outerFrame]).rest = s' := hb
    cases skipped with
    | close =>
      -- the parenthesis is one too many on its own, and closes the group
      rw [finish_of_skip_nil fuel hs] at own
      split at own
      · next none =>
        obtain rfl := Except.ok.inj own
        have no_frame := frames.trans (List.isEmpty_iff.1 none)
        obtain ⟨inner, rfl⟩ : ∃ n, inner = n + 1 := ⟨inner - 1, by omega⟩
        rw [finish_of_skip_cons bare hb, finish_of_skip_cons (inner + 1) hi,
          step_close_of_no_frame no_frame, step_close_inside no_frame]
        exact Or.inl ⟨rfl, rfl⟩
      · cases own
    | lost =>
      -- the parenthesis was lost, and so the group is not closed
      rw [finish_of_skip_nil fuel hs] at own
      split at own
      · next none =>
        obtain rfl := Except.ok.inj own
        have no_frame := frames.trans (List.isEmpty_iff.1 none)
        have one_frame : ((p.within [] rest).inside [outerFrame]).frames = [outerFrame] :=
          congrArg (· ++ [outerFrame]) no_frame
        rw [finish_of_skip_nil bare hb, finish_of_skip_nil inner hi, one_frame, no_frame]
        exact Or.inr ⟨rfl, rfl⟩
      · cases own
    | @cons c cs cs' h =>
      rw [finish_of_skip_cons fuel hs] at own
      obtain ⟨q, hq, own⟩ := bind_eq_ok_iff.1 own
      have follows : Follows (Enclosed []) (p.step c cs) ((p.within [] rest).step c cs') :=
        follows_step rest c h
      obtain ⟨b, step, level⟩ := follows q hq
      have step' : ((p.within [] rest).inside [outerFrame]).step c cs' =
          .ok (b.inside [outerFrame]) := by
        unfold inside
        rw [step_within [outerFrame] _ (frames_ne_nil_of_step step), step]
        rfl
      rw [finish_of_skip_cons bare hb, finish_of_skip_cons inner hi, step, step']
      exact ih own level (by omega) (by omega)

end Progress

/-- **An expression that is read on its own**, with a parenthesis behind it and in a group: the
parenthesis is one too many, and closes the group; or the expression ends in a comment, and the
group stays open. -/
theorem Tree.read_group {source : List Char} {tree : Tree} (own : Tree.read source = .ok tree) :
    (¬ EndsInComment source ∧
      Tree.read ('\\' :: 'A' :: '(' :: '?' :: ':' :: (source ++ [')'])) = .ok tree.marked) ∨
    (EndsInComment source ∧
      Tree.read ('\\' :: 'A' :: '(' :: '?' :: ':' :: (source ++ [')'])) =
        .error .unclosedGroup) := by
  have level : Enclosed [] (Progress.start source) (Progress.start (source ++ [')'])) :=
    ⟨source ++ [')'], closed_append source, rfl⟩
  have longer : source.length < (source ++ [')']).length := by
    rw [List.length_append]
    exact Nat.lt_succ_self _
  -- reading the mark and opening the group take a step each
  have opened : Tree.read ('\\' :: 'A' :: '(' :: '?' :: ':' :: (source ++ [')'])) =
      Progress.finish ((source ++ [')']).length + 4)
        ((Progress.start (source ++ [')'])).inside [Progress.outerFrame]) := rfl
  have enough : source.length + 1 < (source ++ [')']).length + 4 := by omega
  rw [opened]
  rcases Progress.finish_closed own level (Nat.succ_lt_succ longer) enough with
    ⟨bare, inner⟩ | ⟨bare, inner⟩
  · refine Or.inl ⟨fun same => ?_, inner⟩
    cases bare.symm.trans (same.trans own)
  · exact Or.inr ⟨bare.trans own.symm, inner⟩

/-- **An expression that is read on its own** and is accepted behind a mark for the start of the
text, in a group of its own, is read there as that group behind that mark. -/
theorem Tree.eq_of_parse_group {source : List Char} {tree tree' : Tree}
    (own : Tree.parse source = .ok tree)
    (group : Tree.parse ('\\' :: 'A' :: '(' :: '?' :: ':' :: (source ++ [')'])) = .ok tree') :
    tree' = tree.marked := by
  have inner := read_of_parse group
  rcases Tree.read_group (read_of_parse own) with ⟨-, closed⟩ | ⟨-, left_open⟩
  · exact Except.ok.inj (inner.symm.trans closed)
  · cases inner.symm.trans left_open

end RuleLexer.Regex
