import RuleLexer.Proofs.Regex.ClosedClass
import RuleLexer.Proofs.Regex.Numbering

/-!
# Reading an expression inside a group

An expression that can be read on its own is read alike inside a group: `Enclosed` relates how far
the two readings have come, and every step keeps the relation, which is the main statement
(`Progress.follows_step`).
-/

namespace RuleLexer.Regex

open Unicode (isBlank)

/-! ### Repetitions and flags -/

section Repetitions

variable {cs cs' : List Char}

theorem countDigits_closed {verbose : Bool} {fuel fuel' : Nat} (lt : cs.length < fuel)
    (lt' : cs'.length < fuel') (h : Closed cs cs') :
    Level (countDigits verbose fuel cs) (countDigits verbose fuel' cs') := by
  induction fuel generalizing fuel' cs cs' with
  | zero => exact absurd lt (Nat.not_lt_zero _)
  | succ fuel ih =>
    obtain ⟨fuel', rfl⟩ : ∃ n, fuel' = n + 1 := ⟨fuel' - 1, by omega⟩
    cases h with
    | close => exact ⟨rfl, .close⟩
    | lost => exact ⟨rfl, .lost⟩
    | @cons c t t' h =>
      by_cases digit : c.isDigit = true
      · rw [List.length_cons] at lt lt'
        have short := length_skip_le verbose t
        have short' := length_skip_le verbose t'
        have level : Level (countDigits verbose fuel (skip verbose t))
            (countDigits verbose fuel' (skip verbose t')) :=
          ih (by omega) (by omega) (h.skip verbose)
        obtain ⟨same, closed⟩ := level
        rw [countDigits, if_pos digit, countDigits, if_pos digit]
        exact ⟨congrArg (c :: ·) same, closed⟩
      · rw [countDigits, if_neg digit, countDigits, if_neg digit]
        exact ⟨rfl, .cons c h⟩

theorem afterBlanks_closed {verbose : Bool} {fuel fuel' : Nat} (lt : cs.length < fuel)
    (lt' : cs'.length < fuel') (h : Closed cs cs') :
    Closed (count.afterBlanks verbose fuel cs) (count.afterBlanks verbose fuel' cs') := by
  induction fuel generalizing fuel' cs cs' with
  | zero => exact absurd lt (Nat.not_lt_zero _)
  | succ fuel ih =>
    obtain ⟨fuel', rfl⟩ : ∃ n, fuel' = n + 1 := ⟨fuel' - 1, by omega⟩
    cases h with
    | close => exact .close
    | lost => exact .lost
    | @cons c t t' h =>
      unfold count.afterBlanks
      split
      · rw [List.length_cons] at lt lt'
        have short := length_skip_le verbose t
        have short' := length_skip_le verbose t'
        exact ih (by omega) (by omega) (h.skip verbose)
      · exact .cons c h

theorem follows_count (verbose : Bool) (h : Closed cs cs') :
    Follows Level (count verbose cs) (count verbose cs') := by
  unfold count
  have dropped := h.dropWhile isBlank
  generalize cs.dropWhile isBlank = t at dropped ⊢
  generalize cs'.dropWhile isBlank = t' at dropped ⊢
  have digits : Level (countDigits verbose (t.length + 1) t)
      (countDigits verbose (t'.length + 1) t') :=
    countDigits_closed (Nat.lt_succ_self _) (Nat.lt_succ_self _) dropped
  dsimp only
  generalize countDigits verbose (t.length + 1) t = x at digits ⊢
  generalize countDigits verbose (t'.length + 1) t' = y at digits ⊢
  obtain ⟨same, closed⟩ := digits
  rw [same]
  split
  · exact follows_error _ _
  · exact follows_level (afterBlanks_closed (Nat.lt_succ_self _) (Nat.lt_succ_self _) closed)

/-- The end of the counts of a repetition. -/
def countsEnd (verbose : Bool) (least : Nat) (most : Option Nat) (cs : List Char) :
    Except SyntaxError (Nat × Option Nat × List Char) :=
  match cs with
  | '}' :: rest =>
    if most.all (least ≤ ·) then .ok (least, most, skip verbose rest) else .error .badCount
  | _ => .error .badCount

theorem follows_countsEnd (verbose : Bool) (least : Nat) (most : Option Nat) (h : Closed cs cs') :
    Follows LevelPair (countsEnd verbose least most cs) (countsEnd verbose least most cs') := by
  unfold countsEnd
  split
  · obtain ⟨t', rfl, behind⟩ := h.exists_of_cons
    simp only
    split
    · exact follows_levelPair (behind.skip verbose)
    · exact follows_error _ _
  · exact follows_error _ _

/-- **The counts of a repetition** are read alike. -/
theorem follows_counts (verbose : Bool) (h : Closed cs cs') :
    Follows LevelPair (counts verbose cs) (counts verbose cs') := by
  refine (follows_count verbose (h.skip verbose)).bind ?_
  rintro ⟨least, rest⟩ ⟨_, rest'⟩ ⟨rfl, closed⟩
  replace closed : Closed rest rest' := closed
  dsimp only
  split
  · -- the second count may be left out
    obtain ⟨t', rfl, behind⟩ := closed.exists_of_cons
    simp only
    have skipped := behind.skip verbose
    generalize skip verbose _ = s at skipped ⊢
    generalize skip verbose t' = s' at skipped ⊢
    split
    · obtain ⟨u', rfl, behind⟩ := skipped.exists_of_cons
      exact follows_countsEnd verbose least none (.cons '}' behind)
    · next no =>
      split
      · obtain ⟨u, rfl, -⟩ := skipped.exists_of_ne (by decide)
        exact absurd rfl (no u)
      · refine (follows_count verbose skipped).bind ?_
        rintro ⟨most, rest⟩ ⟨_, rest'⟩ ⟨rfl, closed⟩
        exact follows_countsEnd verbose least (some most) closed
  · next no =>
    split
    · obtain ⟨u, rfl, -⟩ := closed.exists_of_ne (by decide)
      exact absurd rfl (no u)
    · exact follows_countsEnd verbose least (some least) closed

/-- Whether a repetition is greedy is read alike. -/
theorem greediness_closed (h : Closed cs cs') : Level (greediness cs) (greediness cs') := by
  cases h with
  | close => exact ⟨rfl, .close⟩
  | lost => exact ⟨rfl, .lost⟩
  | @cons c t t' h =>
    by_cases lazy : c = '?'
    · subst lazy
      exact ⟨rfl, h⟩
    · have plain (u : List Char) : greediness (c :: u) = (true, c :: u) := by
        unfold greediness
        split
        · next h => exact absurd (List.cons.inj h).1 lazy
        · rfl
      rw [plain, plain]
      exact ⟨rfl, .cons c h⟩

/-- **The flags of a group** are read alike. -/
theorem follows_flagSettings (settings : FlagSettings) (off afterDash : Bool) (h : Closed cs cs') :
    Follows Level (flagSettings settings off afterDash cs)
      (flagSettings settings off afterDash cs') := by
  induction h generalizing settings off afterDash with
  | close => exact follows_error _ _
  | lost => exact follows_error _ _
  | cons c h ih =>
    unfold flagSettings
    split
    · split
      · exact follows_error _ _
      · exact follows_level (.cons c h)
    · split
      · split
        · exact follows_error _ _
        · exact ih _ _ _
      · split
        · split
          · exact follows_error _ _
          · exact ih _ _ _
        · exact follows_error _ _

/-- The flags of a group end at a colon or at a closing parenthesis. -/
theorem flagSettings_ends {settings found : FlagSettings} {off afterDash : Bool}
    {rest : List Char} (h : flagSettings settings off afterDash cs = .ok (found, rest)) :
    ∃ c t, rest = c :: t := by
  induction cs generalizing settings off afterDash with
  | nil => cases h
  | cons c cs ih =>
    unfold flagSettings at h
    split at h
    · split at h
      · cases h
      · obtain ⟨-, rfl⟩ := Prod.mk.inj (Except.ok.inj h)
        exact ⟨c, cs, rfl⟩
    · split at h
      · split at h
        · cases h
        · exact ih h
      · split at h
        · split at h
          · cases h
          · exact ih h
        · cases h

end Repetitions

/-! ### The whole expression -/

/-- A reading that has come as far as another one, inside further groups and with a text of its own
left. -/
def Progress.within (p : Progress) (outer : List Frame) (rest : List Char) : Progress :=
  { p with rest := rest, frames := p.frames ++ outer }

/-- **The second reading has come as far as the first**, inside further groups, and has the same
left with the parenthesis behind it. -/
def Enclosed (outer : List Frame) (p q : Progress) : Prop :=
  ∃ rest, Closed p.rest rest ∧ q = p.within outer rest

namespace Progress

variable {p : Progress} {outer : List Frame} {cs cs' : List Char} (r : List Char)

/-- A group that is closed on its own is closed inside the further groups, these staying open. -/
theorem follows_close (h : Closed cs cs') :
    Follows (Enclosed outer) (p.close cs) ((p.within outer r).close cs') := by
  unfold close
  split
  · exact follows_error _ _
  · next frame frames hf =>
    have hf' : (p.within outer r).frames = frame :: (frames ++ outer) := by
      show p.frames ++ outer = frame :: (frames ++ outer)
      rw [hf]
      rfl
    rw [hf']
    exact follows_ok ⟨cs', h, rfl⟩

theorem follows_repeatLast (least : Nat) (most : Option Nat) (h : Closed cs cs') :
    Follows (Enclosed outer) (p.repeatLast least most cs)
      ((p.within outer r).repeatLast least most cs') := by
  have items : (p.within outer r).items = p.items := rfl
  unfold repeatLast
  rw [items]
  split
  · exact follows_error _ _
  · exact follows_error _ _
  · exact follows_error _ _
  · have greedy := greediness_closed h
    generalize greediness cs = x at greedy ⊢
    generalize greediness cs' = y at greedy ⊢
    obtain ⟨greedy, rest⟩ := x
    obtain ⟨_, rest'⟩ := y
    obtain ⟨rfl, closed⟩ := greedy
    exact follows_ok ⟨rest', closed, rfl⟩

theorem follows_openNamed (h : Closed cs cs') :
    Follows (Enclosed outer) (p.openNamed cs) ((p.within outer r).openNamed cs') := by
  unfold openNamed
  dsimp only
  have taken : cs.dropWhile (· ≠ '>') ≠ [] → cs'.takeWhile (· ≠ '>') = cs.takeWhile (· ≠ '>') :=
    h.takeWhile
  have dropped := h.dropWhile (· ≠ '>')
  generalize cs.dropWhile (· ≠ '>') = d at dropped taken ⊢
  generalize cs'.dropWhile (· ≠ '>') = d' at dropped ⊢
  split
  · next first more _ rest hname =>
    obtain ⟨t', rfl, closed⟩ := dropped.exists_of_cons
    rw [taken (List.cons_ne_nil _ _), hname]
    simp only
    split
    · have names : (p.within outer r).names = p.names := rfl
      rw [names]
      split
      · exact follows_error _ _
      · exact follows_ok ⟨t', closed, rfl⟩
    · exact follows_error _ _
  · exact follows_error _ _

/-- Goes on behind flags: opens a group that has them, or sets them. -/
def useFlags (p : Progress) (settings : FlagSettings) (cs : List Char) :
    Except SyntaxError Progress :=
  let verbose := (settings.value? .verbose).getD p.verbose
  match cs with
  | ')' :: rest =>
    if settings.isEmpty then .error .badFlags
    else .ok { p.push (.flags settings) rest with verbose := verbose }
  | _ => .ok (p.openGroup (.plain settings) verbose (cs.drop 1))

/-- Goes on from the flags that `cs` starts with. -/
def openFlags (p : Progress) (cs : List Char) : Except SyntaxError Progress := do
  let (settings, rest) ← flagSettings [] false false cs
  p.useFlags settings rest

theorem follows_useFlags {c : Char} (settings : FlagSettings) (h : Closed cs cs') :
    Follows (Enclosed outer) (p.useFlags settings (c :: cs))
      ((p.within outer r).useFlags settings (c :: cs')) := by
  by_cases close : c = ')'
  · subst close
    simp only [useFlags]
    split
    · exact follows_error _ _
    · exact follows_ok ⟨cs', h, rfl⟩
  · have plain (q : Progress) (t : List Char) : q.useFlags settings (c :: t) =
        .ok (q.openGroup (.plain settings) ((settings.value? .verbose).getD q.verbose) t) := by
      unfold useFlags
      split
      · next same => exact absurd (List.cons.inj same).1 close
      · rfl
    rw [plain, plain]
    exact follows_ok ⟨cs', h, rfl⟩

theorem follows_openFlags (h : Closed cs cs') :
    Follows (Enclosed outer) (p.openFlags cs) ((p.within outer r).openFlags cs') := by
  intro q hq
  obtain ⟨⟨settings, rest⟩, own, hq⟩ := bind_eq_ok_iff.1 hq
  obtain ⟨⟨_, rest'⟩, group, rfl, closed⟩ := follows_flagSettings [] false false h _ own
  obtain ⟨c, t, rfl⟩ := flagSettings_ends own
  obtain ⟨t', rfl, behind⟩ := Closed.exists_of_cons closed
  obtain ⟨q', hq', enclosed⟩ := follows_useFlags r settings behind q hq
  exact ⟨q', bind_eq_ok_iff.2 ⟨_, group, hq'⟩, enclosed⟩

theorem follows_parenthesis (h : Closed cs cs') :
    Follows (Enclosed outer) (p.parenthesis cs) ((p.within outer r).parenthesis cs') := by
  have verbose : (p.within outer r).verbose = p.verbose := rfl
  unfold parenthesis
  rw [verbose]
  have skipped := h.skip p.verbose
  generalize skip p.verbose cs = s at skipped ⊢
  generalize skip p.verbose cs' = s' at skipped ⊢
  -- the cases are those of what stands behind the parenthesis: a look-around, which is refused,
  -- a named group, flags, or none of these. In each the other side has the same characters there.
  split
  · exact follows_error _ _
  · exact follows_error _ _
  · exact follows_error _ _
  · exact follows_error _ _
  · obtain ⟨t, rfl, closed⟩ := skipped.exists_of_cons
    obtain ⟨u, rfl, closed'⟩ := closed.exists_of_cons
    obtain ⟨v, rfl, behind⟩ := closed'.exists_of_cons
    simp only
    exact follows_openNamed r behind
  · next no_equal no_bang =>
    obtain ⟨t, rfl, closed⟩ := skipped.exists_of_cons
    obtain ⟨u, rfl, behind⟩ := closed.exists_of_cons
    split
    · next h => exact absurd h (by simp)
    · next h => exact absurd h (by simp)
    · next h =>
      have same := (List.cons.inj (List.cons.inj h).2).2
      exact (behind.ne_cons (by decide) no_equal _ same).elim
    · next h =>
      have same := (List.cons.inj (List.cons.inj h).2).2
      exact (behind.ne_cons (by decide) no_bang _ same).elim
    · next h => exact absurd h (by simp)
    · next h =>
      obtain rfl := (List.cons.inj (List.cons.inj h).2).2
      exact follows_openNamed r behind
    · next no_angle h => exact (no_angle _ (List.cons.inj h).2.symm).elim
    · next no => exact (no _ rfl).elim
  · next no_equal no_bang no_behind no_not_behind no_named no_angle =>
    obtain ⟨t, rfl, behind⟩ := skipped.exists_of_cons
    split
    · next h => exact (behind.ne_cons (by decide) no_equal _ (List.cons.inj h).2).elim
    · next h => exact (behind.ne_cons (by decide) no_bang _ (List.cons.inj h).2).elim
    · next h => exact (behind.ne_cons (by decide) no_angle _ (List.cons.inj h).2).elim
    · next h => exact (behind.ne_cons (by decide) no_angle _ (List.cons.inj h).2).elim
    · next h =>
      exact (behind.ne_cons_cons (by decide) (by decide) no_named _ (List.cons.inj h).2).elim
    · next h => exact (behind.ne_cons (by decide) no_angle _ (List.cons.inj h).2).elim
    · next h =>
      obtain rfl := (List.cons.inj h).2
      exact follows_openFlags r behind
    · next no => exact (no _ rfl).elim
  · next no =>
    have no' := skipped.ne_cons (by decide) no
    split
    all_goals try exact (no' _ rfl).elim
    exact follows_ok ⟨_, skipped, rfl⟩

/-- Goes on from the counts that `cs` starts with. -/
def repeatCounts (p : Progress) (cs : List Char) : Except SyntaxError Progress :=
  match p.items with
  | [] | .empty :: _ | .flags _ :: _ => .error .nothingToRepeat
  | _ => do
    let (least, most, rest) ← counts p.verbose cs
    p.repeatLast least most rest

theorem follows_repeatCounts (h : Closed cs cs') :
    Follows (Enclosed outer) (p.repeatCounts cs) ((p.within outer r).repeatCounts cs') := by
  have items : (p.within outer r).items = p.items := rfl
  unfold repeatCounts
  rw [items]
  split
  · exact follows_error _ _
  · exact follows_error _ _
  · exact follows_error _ _
  · refine (follows_counts p.verbose h).bind ?_
    rintro ⟨least, most, rest⟩ ⟨_, _, rest'⟩ ⟨rfl, rfl, closed⟩
    exact follows_repeatLast r least most closed

/-- **One step** inside the group does what it does outside. -/
theorem follows_step (c : Char) (h : Closed cs cs') :
    Follows (Enclosed outer) (p.step c cs) ((p.within outer r).step c cs') := by
  have push (item : Tree) : Follows (Enclosed outer) (.ok (p.push item cs))
      (.ok ((p.within outer r).push item cs')) := follows_ok ⟨cs', h, rfl⟩
  unfold step
  split
  · exact follows_parenthesis r h
  · exact follows_close r h
  · exact follows_ok ⟨cs', h, rfl⟩
  · refine (follows_bracketed p.verbose h).map ?_
    rintro ⟨item, rest⟩ ⟨_, rest'⟩ ⟨rfl, closed⟩
    exact ⟨rest', closed, rfl⟩
  · exact follows_repeatLast r 0 (some 1) h
  · exact follows_repeatLast r 0 none h
  · exact follows_repeatLast r 1 none h
  · exact follows_repeatCounts r h
  · refine (follows_escape p.verbose h).map ?_
    rintro ⟨atom, rest⟩ ⟨_, rest'⟩ ⟨rfl, closed⟩
    exact ⟨rest', closed, rfl⟩
  · exact push _
  · exact push _
  · exact push _
  · exact push _

end Progress

end RuleLexer.Regex
