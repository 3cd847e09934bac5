import RuleLexer.Regex.Parser

/-!
# Texts with a parenthesis behind them

A regular expression that is read on its own is also read when it stands in a group, with the
closing parenthesis of the group behind it. Both readings go side by side: as long as the one on its
own has no error, the other does the same with the parenthesis still in front of it.

* `Closed` — two texts of which the second is the first with the parenthesis behind it;
* `Follows` — where one reading gives a value, the other one gives a related value;
* `Level` — the same value, with texts left over of which the second has the parenthesis behind it.

There is one way in which the parenthesis can get lost: with the `x` flag set, a comment at the end
of the expression swallows it. `Closed` allows for that, so that the readings go on side by side.

This module has the parts that every other part is made of: blanks, comments and escapes.
-/

namespace RuleLexer.Regex

open Unicode (isBlank hexValue?)

/-! ### Texts with a parenthesis behind them -/

/-- The second text is the first one with a closing parenthesis behind it, unless it was lost. -/
inductive Closed : List Char → List Char → Prop
  | close : Closed [] [')']
  | lost : Closed [] []
  | cons (c : Char) {cs cs' : List Char} : Closed cs cs' → Closed (c :: cs) (c :: cs')

theorem closed_append (cs : List Char) : Closed cs (cs ++ [')']) := by
  induction cs with
  | nil => exact .close
  | cons c cs ih => exact .cons c ih

theorem Closed.length_le {cs cs' : List Char} (h : Closed cs cs') : cs.length ≤ cs'.length := by
  induction h with
  | close => exact Nat.zero_le _
  | lost => exact Nat.le_refl _
  | cons c _ ih => exact Nat.succ_le_succ ih

theorem Closed.exists_of_cons {c : Char} {cs cs' : List Char} (h : Closed (c :: cs) cs') :
    ∃ t, cs' = c :: t ∧ Closed cs t := by
  cases h with
  | cons c h => exact ⟨_, rfl, h⟩

/-- A character of the second text that is no closing parenthesis is one of the first text. -/
theorem Closed.exists_of_ne {c : Char} {cs cs' : List Char} (h : Closed cs (c :: cs'))
    (ne : c ≠ ')') : ∃ t, cs = c :: t ∧ Closed t cs' := by
  cases h with
  | close => exact absurd rfl ne
  | cons c h => exact ⟨_, rfl, h⟩

/-- A character that the first text does not start with, the second one does not start with. -/
theorem Closed.ne_cons {c : Char} {cs cs' : List Char} (h : Closed cs cs') (ne : c ≠ ')')
    (no : ∀ t, cs = c :: t → False) : ∀ t, cs' = c :: t → False := by
  rintro t rfl
  obtain ⟨u, rfl, -⟩ := h.exists_of_ne ne
  exact no u rfl

theorem Closed.ne_cons_cons {c d : Char} {cs cs' : List Char} (h : Closed cs cs') (nec : c ≠ ')')
    (ned : d ≠ ')') (no : ∀ t, cs = c :: d :: t → False) :
    ∀ t, cs' = c :: d :: t → False := by
  rintro t rfl
  obtain ⟨u, rfl, closed⟩ := h.exists_of_ne nec
  obtain ⟨v, rfl, -⟩ := closed.exists_of_ne ned
  exact no v rfl

theorem Closed.eq_nil {cs : List Char} (h : Closed cs []) : cs = [] := by
  cases h
  rfl

/-! ### Readings side by side -/

/-- **A reading follows another one**: where that one gives a value, this one gives a related
one. -/
def Follows {α β : Type} (R : α → β → Prop) (x : Except SyntaxError α) (y : Except SyntaxError β) :
    Prop :=
  ∀ a, x = .ok a → ∃ b, y = .ok b ∧ R a b

/-- The same value, with texts left over of which the second one has the parenthesis behind it. -/
def Level {α : Type} (a b : α × List Char) : Prop := a.1 = b.1 ∧ Closed a.2 b.2

section Follows

variable {α β γ δ : Type} {R : α → β → Prop} {S : γ → δ → Prop}

theorem follows_error (e : SyntaxError) (y : Except SyntaxError β) : Follows R (.error e) y :=
  fun _ h => nomatch h

theorem follows_ok {a : α} {b : β} (h : R a b) : Follows R (.ok a) (.ok b) := by
  intro a' ha
  obtain rfl := Except.ok.inj ha
  exact ⟨b, rfl, h⟩

theorem follows_refl {R : α → α → Prop} (refl : ∀ a, R a a) (x : Except SyntaxError α) :
    Follows R x x := fun a h => ⟨a, h, refl a⟩

theorem Follows.bind {x : Except SyntaxError α} {y : Except SyntaxError β}
    {f : α → Except SyntaxError γ} {g : β → Except SyntaxError δ} (h : Follows R x y)
    (next : ∀ a b, R a b → Follows S (f a) (g b)) : Follows S (x >>= f) (y >>= g) := by
  intro c hc
  cases x with
  | error e => cases hc
  | ok a =>
    obtain ⟨b, rfl, hR⟩ := h a rfl
    exact next a b hR c hc

theorem Follows.map {x : Except SyntaxError α} {y : Except SyntaxError β} {f : α → γ} {g : β → δ}
    (h : Follows R x y) (next : ∀ a b, R a b → S (f a) (g b)) :
    Follows S (x.map f) (y.map g) := by
  intro c hc
  cases x with
  | error e => cases hc
  | ok a =>
    obtain ⟨b, rfl, hR⟩ := h a rfl
    obtain rfl := Except.ok.inj hc
    exact ⟨g b, rfl, next a b hR⟩

theorem follows_level {a : α} {rest rest' : List Char} (h : Closed rest rest') :
    Follows Level (.ok (a, rest)) (.ok (a, rest')) := follows_ok ⟨rfl, h⟩

/-- The same two values, with texts left over of which the second one has the parenthesis behind
it. -/
def LevelPair {α β : Type} (a b : α × β × List Char) : Prop := a.1 = b.1 ∧ Level a.2 b.2

theorem follows_levelPair {a : α} {b : β} {rest rest' : List Char} (h : Closed rest rest') :
    Follows LevelPair (.ok (a, b, rest)) (.ok (a, b, rest')) := follows_ok ⟨rfl, rfl, h⟩

end Follows

/-! ### Blanks, comments and escapes -/

section Escapes

variable {cs cs' : List Char}

theorem Closed.dropBlanks (h : Closed cs cs') (inComment : Bool) :
    Closed (dropBlanks inComment cs) (dropBlanks inComment cs') := by
  induction h generalizing inComment with
  -- This is where the parenthesis gets lost: a comment that is still open goes on over it.
  | close =>
    cases inComment with
    | true => exact .lost
    | false => exact .close
  | lost => exact .lost
  | cons c h ih =>
    unfold Regex.dropBlanks
    split
    · exact ih _
    · split
      · exact ih _
      · split
        · exact ih _
        · exact .cons c h

theorem Closed.skip (h : Closed cs cs') (verbose : Bool) :
    Closed (skip verbose cs) (skip verbose cs') := by
  unfold Regex.skip
  split
  · exact h.dropBlanks false
  · exact h

theorem length_dropBlanks_le (inComment : Bool) (cs : List Char) :
    (dropBlanks inComment cs).length ≤ cs.length := by
  induction cs generalizing inComment with
  | nil => exact Nat.le_refl 0
  | cons c cs ih =>
    unfold dropBlanks
    split
    · exact Nat.le_succ_of_le (ih _)
    · split
      · exact Nat.le_succ_of_le (ih _)
      · split
        · exact Nat.le_succ_of_le (ih _)
        · exact Nat.le_refl _

theorem length_skip_le (verbose : Bool) (cs : List Char) :
    (skip verbose cs).length ≤ cs.length := by
  unfold skip
  split
  · exact length_dropBlanks_le false cs
  · exact Nat.le_refl _

theorem Closed.dropWhile (h : Closed cs cs') (p : Char → Bool) :
    Closed (cs.dropWhile p) (cs'.dropWhile p) := by
  induction h with
  | close =>
    by_cases hp : p ')' = true
    · rw [List.dropWhile_cons_of_pos hp]
      exact .lost
    · rw [List.dropWhile_cons_of_neg hp]
      exact .close
  | lost => exact .lost
  | cons c h ih =>
    by_cases hp : p c = true
    · rw [List.dropWhile_cons_of_pos hp, List.dropWhile_cons_of_pos hp]
      exact ih
    · rw [List.dropWhile_cons_of_neg hp, List.dropWhile_cons_of_neg hp]
      exact .cons c h

/-- What stands in front of a character is the same in both texts, if the first has one. -/
theorem Closed.takeWhile (h : Closed cs cs') {p : Char → Bool} (some : cs.dropWhile p ≠ []) :
    cs'.takeWhile p = cs.takeWhile p := by
  induction h with
  | close | lost => exact absurd rfl some
  | cons c h ih =>
    by_cases hp : p c = true
    · rw [List.dropWhile_cons_of_pos hp] at some
      rw [List.takeWhile_cons_of_pos hp, List.takeWhile_cons_of_pos hp, ih some]
    · rw [List.takeWhile_cons_of_neg hp, List.takeWhile_cons_of_neg hp]

theorem follows_hexDigits (verbose : Bool) (count n : Nat) (h : Closed cs cs') :
    Follows Level (hexDigits verbose count n cs) (hexDigits verbose count n cs') := by
  induction count generalizing n cs cs' with
  | zero => exact follows_level h
  | succ count ih =>
    cases h with
    | close | lost => exact follows_error _ _
    | cons c h =>
      unfold hexDigits
      cases hexValue? c with
      | some d => exact ih _ (h.skip verbose)
      | none => exact follows_error _ _

theorem untilBrace_closed {verbose : Bool} {fuel fuel' : Nat} (le : fuel ≤ fuel')
    (h : Closed cs cs') {text rest : List Char}
    (hb : untilBrace verbose fuel cs = some (text, rest)) :
    ∃ rest', untilBrace verbose fuel' cs' = some (text, rest') ∧ Closed rest rest' := by
  induction fuel generalizing fuel' cs cs' text rest with
  | zero => cases hb
  | succ fuel ih =>
    -- the longer text has the more fuel
    obtain ⟨fuel', rfl⟩ : ∃ n, fuel' = n + 1 := ⟨fuel' - 1, by omega⟩
    cases h with
    | close | lost => cases hb
    | cons c h =>
      unfold untilBrace at hb ⊢
      by_cases brace : c = '}'
      · rw [if_pos brace] at hb ⊢
        obtain ⟨rfl, rfl⟩ := Prod.mk.inj (Option.some.inj hb)
        exact ⟨_, rfl, h⟩
      · rw [if_neg brace] at hb ⊢
        obtain ⟨⟨text, rest⟩, inner, eq⟩ := Option.map_eq_some_iff.1 hb
        obtain ⟨rfl, rfl⟩ := Prod.mk.inj eq
        obtain ⟨rest', hb', closed⟩ := ih (Nat.le_of_succ_le_succ le) (h.skip verbose) inner
        exact ⟨rest', by rw [hb', Option.map_some], closed⟩

/-- What stands in braces is read alike: with nothing found in the first text, there is nothing to
follow. -/
theorem follows_untilBrace {β : Type} {S : β → β → Prop} {verbose : Bool} {fuel fuel' : Nat}
    (le : fuel ≤ fuel') (h : Closed cs cs') {f : List Char → List Char → Except SyntaxError β}
    {e : SyntaxError}
    (next : ∀ text rest rest', Closed rest rest' → Follows S (f text rest) (f text rest')) :
    Follows S
      (match untilBrace verbose fuel cs with
        | some (text, rest) => f text rest
        | none => .error e)
      (match untilBrace verbose fuel' cs' with
        | some (text, rest) => f text rest
        | none => .error e) := by
  cases hb : untilBrace verbose fuel cs with
  | none => exact follows_error _ _
  | some found =>
    obtain ⟨text, rest⟩ := found
    obtain ⟨rest', hb', closed⟩ := untilBrace_closed le h hb
    rw [hb']
    exact next text rest rest' closed

theorem follows_hexEscape (verbose : Bool) (count : Nat) (h : Closed cs cs') :
    Follows Level (hexEscape verbose count cs) (hexEscape verbose count cs') := by
  unfold hexEscape
  have skipped := h.skip verbose
  generalize skip verbose cs = s at skipped ⊢
  generalize skip verbose cs' = s' at skipped ⊢
  cases skipped with
  | close | lost => exact follows_error _ _
  | @cons c t t' closed =>
    -- digits in braces, as many as there are, or a fixed number of digits
    by_cases brace : c = '{'
    · subst brace
      refine follows_untilBrace (Nat.succ_le_succ closed.length_le) (closed.skip verbose) ?_
      intro text rest rest' closed
      split
      · exact follows_error _ _
      · split
        · exact follows_level (closed.skip verbose)
        · exact follows_error _ _
    · split
      · next h => cases h
      · next h => exact absurd (List.cons.inj h).1 brace
      · split
        · next h => cases h
        · next h => exact absurd (List.cons.inj h).1 brace
        · refine (follows_hexDigits verbose count 0 (.cons c closed)).bind ?_
          rintro ⟨n, rest⟩ ⟨n', rest'⟩ ⟨same, closed⟩
          obtain rfl : n = n' := same
          dsimp only
          cases charOf? n with
          | some d => exact follows_level closed
          | none => exact follows_error _ _

theorem follows_propertyEscape (verbose negated : Bool) (h : Closed cs cs') :
    Follows Level (propertyEscape verbose negated cs) (propertyEscape verbose negated cs') := by
  unfold propertyEscape
  have skipped := h.skip verbose
  generalize skip verbose cs = s at skipped ⊢
  generalize skip verbose cs' = s' at skipped ⊢
  cases skipped with
  | close => exact follows_error _ _
  | lost => exact follows_error _ _
  | @cons c t t' closed =>
    by_cases brace : c = '{'
    · subst brace
      refine follows_untilBrace (Nat.succ_le_succ closed.length_le) (closed.skip verbose) ?_
      exact fun text rest rest' closed => follows_level closed
    · split
      · next h => cases h
      · next h => exact absurd (List.cons.inj h).1 brace
      · next h =>
        obtain ⟨rfl, rfl⟩ := List.cons.inj h
        split
        · exact follows_error _ _
        · exact follows_level (closed.skip verbose)

theorem boundaryName_closed {verbose : Bool} {fuel fuel' : Nat} (le : fuel ≤ fuel')
    (h : Closed cs cs') {name rest : List Char}
    (hb : boundaryName verbose fuel cs = (name, '}' :: rest)) :
    ∃ rest', boundaryName verbose fuel' cs' = (name, '}' :: rest') ∧ Closed rest rest' := by
  have brace : isBoundaryChar '}' = false := by decide
  -- A brace ends the name, whatever fuel is left.
  have ends {t t' : List Char} (fuel : Nat) (h : Closed ('}' :: t) t') :
      ∃ rest', boundaryName verbose fuel t' = ([], '}' :: rest') ∧ Closed t rest' := by
    obtain _ | _ | ⟨_, h⟩ := h
    cases fuel with
    | zero => exact ⟨_, rfl, h⟩
    | succ fuel => exact ⟨_, by rw [boundaryName, if_neg (by simp [brace])], h⟩
  induction fuel generalizing fuel' cs cs' name rest with
  | zero =>
    obtain ⟨rfl, rfl⟩ := Prod.mk.inj hb
    exact ends fuel' h
  | succ fuel ih =>
    obtain ⟨fuel', rfl⟩ : ∃ n, fuel' = n + 1 := ⟨fuel' - 1, by omega⟩
    cases h with
    | close => cases hb
    | lost => cases hb
    | cons c h =>
      unfold boundaryName at hb
      by_cases letter : isBoundaryChar c = true
      · rw [if_pos letter] at hb
        obtain ⟨rfl, hr⟩ := Prod.mk.inj hb
        obtain ⟨rest', hb', closed⟩ := ih (Nat.le_of_succ_le_succ le) (h.skip verbose)
          (Prod.ext rfl hr)
        refine ⟨rest', ?_, closed⟩
        rw [boundaryName, if_pos letter, hb']
      · rw [if_neg letter] at hb
        obtain ⟨rfl, same⟩ := Prod.mk.inj hb
        obtain ⟨rfl, rfl⟩ := List.cons.inj same
        exact ends (fuel' + 1) (.cons _ h)

theorem follows_wordBoundary (verbose : Bool) (h : Closed cs cs') :
    Follows Level (wordBoundary verbose cs) (wordBoundary verbose cs') := by
  -- the boundary without a name, which leaves all characters to be read
  have plain {cs cs' : List Char} (h : Closed cs cs') :
      Follows Level (.ok (Assertion.wordBoundary, cs)) (.ok (Assertion.wordBoundary, cs')) :=
    follows_level h
  cases h with
  | close => exact plain .close
  | lost => exact plain .lost
  | @cons c t t' h =>
    -- behind a brace there may be the name of a special boundary, or it starts a repetition
    by_cases brace : c = '{'
    · subst brace
      simp only [wordBoundary]
      have skipped := h.skip verbose
      generalize skip verbose t = s at skipped ⊢
      generalize skip verbose t' = s' at skipped ⊢
      cases skipped with
      | close => exact follows_error _ _
      | lost => exact follows_error _ _
      | @cons d u u' closed =>
        dsimp only
        by_cases letter : isBoundaryChar d = true
        · rw [if_pos letter, if_pos letter]
          split
          · next name rest hb =>
            obtain ⟨rest', hb', after⟩ :=
              boundaryName_closed (Nat.succ_le_succ closed.length_le) (.cons d closed) hb
            rw [hb']
            simp only
            split
            · exact follows_level after
            · exact follows_level after
            · exact follows_level after
            · exact follows_level after
            · exact follows_error _ _
          · exact follows_error _ _
        · rw [if_neg letter, if_neg letter]
          exact plain (.cons '{' h)
    · have same (t : List Char) :
          wordBoundary verbose (c :: t) = .ok (.wordBoundary, c :: t) := by
        unfold wordBoundary
        split
        · next h => exact absurd (List.cons.inj h).1 brace
        · rfl
      rw [same, same]
      exact plain (.cons c h)

/-- **An escape** is read alike. -/
theorem follows_escape (verbose : Bool) (h : Closed cs cs') :
    Follows Level (escape verbose cs) (escape verbose cs') := by
  cases h with
  | close => exact follows_error _ _
  | lost => exact follows_error _ _
  | @cons c t t' h =>
    have hex (count : Nat) : Follows Level
        ((hexEscape verbose count t).map fun found => (Atom.literal found.1, found.2))
        ((hexEscape verbose count t').map fun found => (Atom.literal found.1, found.2)) :=
      (follows_hexEscape verbose count h).map fun a b level =>
        ⟨congrArg Atom.literal level.1, level.2⟩
    have boundary : Follows Level
        ((wordBoundary verbose t).map fun found => (Atom.assertion found.1, found.2))
        ((wordBoundary verbose t').map fun found => (Atom.assertion found.1, found.2)) :=
      (follows_wordBoundary verbose h).map fun a b level =>
        ⟨congrArg Atom.assertion level.1, level.2⟩
    unfold escape
    dsimp only
    split
    · exact hex 2
    · exact hex 4
    · exact hex 8
    · exact follows_propertyEscape verbose false h
    · exact follows_propertyEscape verbose true h
    -- all that are one letter leave the text behind it as it is
    all_goals try exact follows_level h
    · exact boundary
    · split
      · exact follows_level h
      · exact follows_error _ _

end Escapes

end RuleLexer.Regex
