import RuleLexer.Proofs.Regex.Closed

/-!
# Classes in brackets, with a parenthesis behind them

A class in brackets ends with its closing bracket. A closing parenthesis that stands behind it is
left where it is, and inside the brackets it is a character like any other; but a class that is
never closed is an error. So a class that is read is read alike with the parenthesis behind it
(`follows_bracketed`).
-/

namespace RuleLexer.Regex

open Unicode (isBlank)

/-! ### Classes in brackets -/

section Classes

variable {cs cs' : List Char}

theorem leadingDashes_of_no_dash {verbose : Bool} {items : List ClassTree}
    (no : ∀ t, cs ≠ '-' :: t) (fuel : Nat) :
    openClass.leadingDashes verbose fuel items cs = (items, cs) := by
  unfold openClass.leadingDashes
  split
  · next t => exact absurd rfl (no t)
  · rfl

theorem leadingDashes_closed {verbose : Bool} {fuel fuel' : Nat} (le : cs.length ≤ fuel)
    (le' : cs'.length ≤ fuel') (h : Closed cs cs') (items : List ClassTree) :
    Level (openClass.leadingDashes verbose fuel items cs)
      (openClass.leadingDashes verbose fuel' items cs') := by
  -- on the fuel of the one side; the other side has enough of its own
  induction fuel generalizing fuel' cs cs' items with
  | zero =>
    obtain rfl := List.length_eq_zero_iff.1 (Nat.le_zero.1 le)
    have no : ∀ t, cs' ≠ '-' :: t := by
      rintro t rfl
      cases h
    rw [leadingDashes_of_no_dash (fun t => (List.cons_ne_nil '-' t).symm),
      leadingDashes_of_no_dash no]
    exact ⟨rfl, h⟩
  | succ fuel ih =>
    cases h with
    | close =>
      rw [leadingDashes_of_no_dash (fun t => (List.cons_ne_nil '-' t).symm),
        leadingDashes_of_no_dash (fun t => by simp)]
      exact ⟨rfl, .close⟩
    | lost =>
      rw [leadingDashes_of_no_dash (fun t => (List.cons_ne_nil '-' t).symm),
        leadingDashes_of_no_dash (fun t => (List.cons_ne_nil '-' t).symm)]
      exact ⟨rfl, .lost⟩
    | @cons c t t' h =>
      by_cases dash : c = '-'
      · subst dash
        rw [List.length_cons] at le le'
        obtain ⟨fuel', rfl⟩ : ∃ n, fuel' = n + 1 := ⟨fuel' - 1, by omega⟩
        have short := length_skip_le verbose t
        have short' := length_skip_le verbose t'
        exact ih (by omega) (by omega) (h.skip verbose) _
      · have no (t : List Char) : ∀ u, c :: t ≠ '-' :: u :=
          fun u same => dash (List.cons.inj same).1
        rw [leadingDashes_of_no_dash (no t), leadingDashes_of_no_dash (no t')]
        exact ⟨rfl, .cons c h⟩

/-- The start of a class behind its opening bracket and its caret. -/
def classStart (verbose negated : Bool) (cs : List Char) :
    Except SyntaxError (Bool × List ClassTree × List Char) :=
  let (dashes, rest) := openClass.leadingDashes verbose cs.length [] cs
  match dashes, rest with
  | _, [] => .error .unclosedClass
  | [], ']' :: rest =>
    match skip verbose rest with
    | [] => .error .unclosedClass
    | rest => .ok (negated, [.literal ⟨']', false⟩], rest)
  | dashes, rest => .ok (negated, dashes, rest)

theorem openClass_of_caret {verbose : Bool} {t : List Char} (h : skip verbose cs = '^' :: t) :
    openClass verbose cs = classStart verbose true (skip verbose t) := by
  unfold openClass
  rw [h]
  rfl

theorem openClass_of_no_caret {verbose : Bool} (no : ∀ t, skip verbose cs ≠ '^' :: t) :
    openClass verbose cs = classStart verbose false (skip verbose cs) := by
  unfold openClass
  split
  next negated rest h =>
    split at h
    · next t ht => exact absurd ht (no t)
    · obtain ⟨rfl, rfl⟩ := Prod.mk.inj h
      rfl

theorem follows_classStart (verbose negated : Bool) (h : Closed cs cs') :
    Follows LevelPair (classStart verbose negated cs) (classStart verbose negated cs') := by
  unfold classStart
  -- both sides take the same dashes
  have dashes : Level (openClass.leadingDashes verbose cs.length [] cs)
      (openClass.leadingDashes verbose cs'.length [] cs') :=
    leadingDashes_closed (Nat.le_refl _) (Nat.le_refl _) h []
  generalize openClass.leadingDashes verbose cs.length [] cs = x at dashes ⊢
  generalize openClass.leadingDashes verbose cs'.length [] cs' = y at dashes ⊢
  obtain ⟨items, t⟩ := x
  obtain ⟨items', t'⟩ := y
  obtain ⟨same, closed⟩ := dashes
  obtain rfl : items = items' := same
  replace closed : Closed t t' := closed
  dsimp only
  cases closed with
  | close => exact follows_error _ _
  | lost => exact follows_error _ _
  | @cons c u u' closed =>
    cases items with
    | nil =>
      -- with no dash before it, a bracket is an item of the class and does not close it
      by_cases bracket : c = ']'
      · subst bracket
        simp only
        have skipped := closed.skip verbose
        generalize skip verbose u = s at skipped ⊢
        generalize skip verbose u' = s' at skipped ⊢
        cases skipped with
        | close => exact follows_error _ _
        | lost => exact follows_error _ _
        | cons d closed => exact follows_levelPair (.cons d closed)
      · split
        · next h => cases h
        · next h => exact absurd (List.cons.inj h).1 bracket
        · split
          · next h => cases h
          · next h => exact absurd (List.cons.inj h).1 bracket
          · exact follows_levelPair (.cons c closed)
    | cons item items =>
      simp only
      exact follows_levelPair (.cons c closed)

/-- The start of a class in brackets. -/
theorem follows_openClass (verbose : Bool) (h : Closed cs cs') :
    Follows LevelPair (openClass verbose cs) (openClass verbose cs') := by
  have skipped := h.skip verbose
  by_cases caret : ∃ t, skip verbose cs = '^' :: t
  · obtain ⟨t, ht⟩ := caret
    rw [ht] at skipped
    generalize hs : skip verbose cs' = s' at skipped
    obtain _ | _ | ⟨_, closed⟩ := skipped
    rw [openClass_of_caret ht, openClass_of_caret hs]
    exact follows_classStart verbose true (closed.skip verbose)
  · have no : ∀ t, skip verbose cs ≠ '^' :: t := fun t ht => caret ⟨t, ht⟩
    -- a caret is no parenthesis, so it would stand in the first text too
    have no' : ∀ t, skip verbose cs' ≠ '^' :: t := by
      intro t ht
      rw [ht] at skipped
      generalize hs : skip verbose cs = s at skipped
      obtain _ | _ | ⟨_, closed⟩ := skipped
      exact no _ hs
    rw [openClass_of_no_caret no, openClass_of_no_caret no']
    exact follows_classStart verbose false skipped

/-- A named class behind its colon and its caret. -/
def className? (negated : Bool) (cs : List Char) : Option (ClassTree × List Char) :=
  match cs.dropWhile (· ≠ ':') with
  | ':' :: ']' :: rest =>
    (AsciiClass.ofName? (String.ofList (cs.takeWhile (· ≠ ':')))).map fun kind =>
      (.ascii kind negated, rest)
  | _ => none

/-- Of two texts, one is a named class if the other is, and it is the same. -/
def LevelOption {α : Type} : Option (α × List Char) → Option (α × List Char) → Prop
  | none, none => True
  | some a, some b => Level a b
  | _, _ => False

theorem className?_closed (negated : Bool) (h : Closed cs cs') :
    LevelOption (className? negated cs) (className? negated cs') := by
  unfold className?
  -- the name reaches up to the next colon, which both sides have or both lack
  have dropped := h.dropWhile (· ≠ ':')
  have taken : cs.dropWhile (· ≠ ':') ≠ [] → cs'.takeWhile (· ≠ ':') = cs.takeWhile (· ≠ ':') :=
    h.takeWhile
  generalize cs.dropWhile (· ≠ ':') = d at dropped taken ⊢
  generalize cs'.dropWhile (· ≠ ':') = d' at dropped ⊢
  cases dropped with
  | close => exact trivial
  | lost => exact trivial
  | @cons c t t' closed =>
    rw [taken (List.cons_ne_nil c t)]
    by_cases colon : c = ':'
    · subst colon
      cases closed with
      | close => exact trivial
      | lost => exact trivial
      | @cons c t t' closed =>
        by_cases bracket : c = ']'
        · subst bracket
          simp only
          cases AsciiClass.ofName? _ with
          | none => exact trivial
          | some kind => exact ⟨rfl, closed⟩
        · have plain (u : List Char) : ∀ r, ':' :: c :: u ≠ ':' :: ']' :: r :=
            fun r same => bracket (List.cons.inj (List.cons.inj same).2).1
          split
          · next h => exact absurd h (plain _ _)
          · split
            · next h => exact absurd h (plain _ _)
            · exact trivial
    · have plain (u : List Char) : ∀ r, c :: u ≠ ':' :: ']' :: r :=
        fun r same => colon (List.cons.inj same).1
      split
      · next h => exact absurd h (plain _ _)
      · split
        · next h => exact absurd h (plain _ _)
        · exact trivial

theorem namedClass?_closed (h : Closed cs cs') :
    LevelOption (namedClass? cs) (namedClass? cs') := by
  cases h with
  | close => exact trivial
  | lost => exact trivial
  | @cons c t t' h =>
    by_cases colon : c = ':'
    · subst colon
      cases h with
      | close => exact className?_closed false .close
      | lost => exact className?_closed false .lost
      | @cons c t t' h =>
        -- a caret behind the colon negates the class
        by_cases caret : c = '^'
        · subst caret
          exact className?_closed true h
        · have plain (u : List Char) : namedClass? (':' :: c :: u) = className? false (c :: u) := by
            simp only [namedClass?, List.cons.injEq, caret, false_and, imp_self, implies_true]
            rfl
          rw [plain, plain]
          exact className?_closed false (.cons c h)
    · have plain (u : List Char) : namedClass? (c :: u) = none := by
        unfold namedClass?
        split
        · next h => exact absurd (List.cons.inj h).1 colon
        · rfl
      rw [plain, plain]
      exact trivial

theorem follows_classAtom (verbose : Bool) (h : Closed cs cs') :
    Follows Level (classAtom verbose cs) (classAtom verbose cs') := by
  cases h with
  | close => exact follows_error _ _
  | lost => exact follows_error _ _
  | @cons c t t' h =>
    by_cases backslash : c = '\\'
    · subst backslash
      exact follows_escape verbose h
    · have plain (u : List Char) :
          classAtom verbose (c :: u) = .ok (.literal ⟨c, false⟩, u) := by
        unfold classAtom
        split
        · next h => cases h
        · next h => exact absurd (List.cons.inj h).1 backslash
        · next h =>
          obtain ⟨rfl, rfl⟩ := List.cons.inj h
          rfl
      rw [plain, plain]
      exact follows_level h

/-- A dash makes no range in front of a bracket or of another dash. -/
def EndsRange (next : Option Char) : Prop := next = some ']' ∨ next = some '-'

/-- Neither a blank nor the mark of a comment ends a range. -/
theorem not_endsRange_head? (skipped : cs.dropWhile isBlank = [] ∨
    ∃ t, cs.dropWhile isBlank = '#' :: t) : ¬ EndsRange cs.head? := by
  have bracket : isBlank ']' = false := by decide
  have dash : isBlank '-' = false := by decide
  cases cs with
  | nil => simp [EndsRange]
  | cons c cs =>
    by_cases blank : isBlank c = true
    · rintro (h | h)
      · obtain rfl : c = ']' := Option.some.inj h
        rw [bracket] at blank
        cases blank
      · obtain rfl : c = '-' := Option.some.inj h
        rw [dash] at blank
        cases blank
    · rw [List.dropWhile_cons_of_neg blank] at skipped
      obtain h | ⟨t, h⟩ := skipped
      · cases h
      · obtain rfl := (List.cons.inj h).1
        simp [EndsRange]

theorem endsRange_peek?_iff (verbose : Bool) (h : Closed cs cs') :
    EndsRange (peek? verbose cs) ↔ EndsRange (peek? verbose cs') := by
  have close : ¬ EndsRange (some ')') := by simp [EndsRange]
  unfold peek?
  cases verbose with
  | false =>
    cases h with
    | close => exact iff_of_false (by simp [EndsRange]) close
    | lost => exact Iff.rfl
    | cons c h => exact Iff.rfl
  | true =>
    have dropped := h.dropWhile isBlank
    have head (blank : cs.dropWhile isBlank = [] ∨ ∃ t, cs.dropWhile isBlank = '#' :: t) :
        ¬ EndsRange cs.head? := not_endsRange_head? blank
    have head' (blank : cs'.dropWhile isBlank = [] ∨ ∃ t, cs'.dropWhile isBlank = '#' :: t) :
        ¬ EndsRange cs'.head? := not_endsRange_head? blank
    simp only [if_true]
    generalize cs.dropWhile isBlank = d at dropped head ⊢
    generalize cs'.dropWhile isBlank = d' at dropped head' ⊢
    -- With nothing but blanks left, the first of them is what is seen, and that ends no range.
    cases dropped with
    | close => exact iff_of_false (head (Or.inl rfl)) close
    | lost => exact iff_of_false (head (Or.inl rfl)) (head' (Or.inl rfl))
    | @cons c t t' closed =>
      by_cases comment : c = '#'
      · subst comment
        have dropped := closed.dropWhile isBlank
        simp only
        generalize t.dropWhile isBlank = e at dropped ⊢
        generalize t'.dropWhile isBlank = e' at dropped ⊢
        cases dropped with
        | close => exact iff_of_false (head (Or.inr ⟨_, rfl⟩)) close
        | lost => exact iff_of_false (head (Or.inr ⟨_, rfl⟩)) (head' (Or.inr ⟨_, rfl⟩))
        | cons d _ => exact Iff.rfl
      · simp only

/-- An item in brackets that is no range. -/
theorem follows_toClassItem? {rest rest' : List Char} (h : Closed rest rest')
    (atom : Atom) :
    Follows Level (do return (← atom.toClassItem?, rest))
      (do return (← atom.toClassItem?, rest')) := by
  refine (follows_refl (R := Eq) (fun _ => rfl) atom.toClassItem?).bind ?_
  rintro a _ rfl
  exact follows_level h

theorem follows_classItem (verbose : Bool) (h : Closed cs cs') :
    Follows Level (classItem verbose cs) (classItem verbose cs') := by
  unfold classItem
  refine (follows_classAtom verbose h).bind ?_
  rintro ⟨first, rest⟩ ⟨_, rest'⟩ ⟨rfl, closed⟩
  replace closed : Closed rest rest' := closed
  dsimp only
  have skipped := closed.skip verbose
  generalize skip verbose rest = s at skipped ⊢
  generalize skip verbose rest' = s' at skipped ⊢
  cases skipped with
  | close => exact follows_error _ _
  | lost => exact follows_error _ _
  | @cons c t t' closed =>
    by_cases dash : c = '-'
    · subst dash
      simp only
      -- both texts agree on whether the dash makes a range
      have ends := endsRange_peek?_iff verbose closed
      unfold EndsRange at ends
      by_cases noRange : peek? verbose t = some ']' ∨ peek? verbose t = some '-'
      · rw [if_pos noRange, if_pos (ends.1 noRange)]
        exact follows_toClassItem? (.cons '-' closed) first
      · rw [if_neg noRange, if_neg fun h => noRange (ends.2 h)]
        refine (follows_classAtom verbose (closed.skip verbose)).bind ?_
        rintro ⟨last, rest⟩ ⟨_, rest'⟩ ⟨rfl, closed⟩
        refine (follows_refl (R := Eq) (fun _ => rfl) first.toLiteral?).bind ?_
        rintro low _ rfl
        refine (follows_refl (R := Eq) (fun _ => rfl) last.toLiteral?).bind ?_
        rintro high _ rfl
        split
        · exact follows_level closed
        · exact follows_error _ _
    · split
      · next h => cases h
      · next h => exact absurd (List.cons.inj h).1 dash
      · split
        · next h => cases h
        · next h => exact absurd (List.cons.inj h).1 dash
        · exact follows_toClassItem? (.cons c closed) first

/-- What comes after the items of a class. -/
theorem follows_classRest {verbose : Bool} {fuel fuel' : Nat} (le : fuel ≤ fuel')
    (h : Closed cs cs') (frames : List ClassFrame) (items : List ClassTree) :
    Follows Level (classRest verbose fuel frames items cs)
      (classRest verbose fuel' frames items cs') := by
  induction fuel generalizing fuel' cs cs' frames items with
  | zero => exact follows_error _ _
  | succ fuel ih =>
    obtain ⟨fuel', rfl⟩ : ∃ n, fuel' = n + 1 := ⟨fuel' - 1, by omega⟩
    replace ih {cs cs' : List Char} (h : Closed cs cs') (frames : List ClassFrame)
        (items : List ClassTree) : Follows Level (classRest verbose fuel frames items cs)
          (classRest verbose fuel' frames items cs') :=
      ih (Nat.le_of_succ_le_succ le) h frames items
    have operation {t t' : List Char} (h : Closed t t') (op : SetOperation) : Follows Level
        (classRest verbose fuel
          (.operand op (closeOperations frames (.ofItems items.reverse)).1 ::
            (closeOperations frames (.ofItems items.reverse)).2) [] t)
        (classRest verbose fuel'
          (.operand op (closeOperations frames (.ofItems items.reverse)).1 ::
            (closeOperations frames (.ofItems items.reverse)).2) [] t') := ih h _ _
    unfold classRest
    dsimp only
    have skipped := h.skip verbose
    generalize skip verbose cs = s at skipped ⊢
    generalize skip verbose cs' = s' at skipped ⊢
    split
    · exact follows_error _ _
    · -- an inner class, or a named one
      obtain ⟨t', rfl, closed⟩ := skipped.exists_of_cons
      simp only
      have named := namedClass?_closed closed
      revert named
      cases namedClass? _ with
      | none =>
        cases namedClass? t' with
        | none =>
          intro _
          refine (follows_openClass verbose closed).bind ?_
          rintro ⟨negated, inner, rest⟩ ⟨_, _, rest'⟩ ⟨rfl, rfl, closed⟩
          exact ih closed _ _
        | some found => exact False.elim
      | some found =>
        cases namedClass? t' with
        | none => exact False.elim
        | some found' =>
          rintro ⟨same, closed⟩
          simp only [same]
          exact ih closed _ _
    · -- the end of the innermost brackets
      obtain ⟨t', rfl, closed⟩ := skipped.exists_of_cons
      simp only
      split
      · exact follows_level closed
      · exact ih closed _ _
      · exact follows_error _ _
    · obtain ⟨t', rfl, closed⟩ := skipped.exists_of_cons
      obtain ⟨u', rfl, behind⟩ := closed.exists_of_cons
      simp only
      exact operation behind .intersection
    · obtain ⟨t', rfl, closed⟩ := skipped.exists_of_cons
      obtain ⟨u', rfl, behind⟩ := closed.exists_of_cons
      simp only
      exact operation behind .difference
    · obtain ⟨t', rfl, closed⟩ := skipped.exists_of_cons
      obtain ⟨u', rfl, behind⟩ := closed.exists_of_cons
      simp only
      exact operation behind .symmetricDifference
    · next empty inner close both_and both_dash both_tilde =>
      -- another item, in both texts
      have item : Follows Level
          (classItem verbose s >>= fun found =>
            classRest verbose fuel frames (found.1 :: items) found.2)
          (classItem verbose s' >>= fun found =>
            classRest verbose fuel' frames (found.1 :: items) found.2) := by
        refine (follows_classItem verbose skipped).bind ?_
        rintro ⟨item, rest⟩ ⟨_, rest'⟩ ⟨rfl, closed⟩
        exact ih closed _ _
      split
      · exact absurd skipped.eq_nil empty
      · obtain ⟨t, rfl, -⟩ := skipped.exists_of_ne (by decide)
        exact absurd rfl (inner t)
      · obtain ⟨t, rfl, -⟩ := skipped.exists_of_ne (by decide)
        exact absurd rfl (close t)
      · obtain ⟨t, rfl, closed⟩ := skipped.exists_of_ne (by decide)
        obtain ⟨u, rfl, -⟩ := closed.exists_of_ne (by decide)
        exact absurd rfl (both_and u)
      · obtain ⟨t, rfl, closed⟩ := skipped.exists_of_ne (by decide)
        obtain ⟨u, rfl, -⟩ := closed.exists_of_ne (by decide)
        exact absurd rfl (both_dash u)
      · obtain ⟨t, rfl, closed⟩ := skipped.exists_of_ne (by decide)
        obtain ⟨u, rfl, -⟩ := closed.exists_of_ne (by decide)
        exact absurd rfl (both_tilde u)
      · exact item

/-- **A class in brackets** is read alike. -/
theorem follows_bracketed (verbose : Bool) (h : Closed cs cs') :
    Follows Level (bracketed verbose cs) (bracketed verbose cs') := by
  refine (follows_openClass verbose h).bind ?_
  rintro ⟨negated, items, rest⟩ ⟨_, _, rest'⟩ ⟨rfl, rfl, closed⟩
  exact follows_classRest (Nat.succ_le_succ closed.length_le) closed _ _

end Classes

end RuleLexer.Regex
