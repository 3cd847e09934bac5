import RuleLexer.Proofs.Scan.Run

/-!
# Scanning in slices

The scan moves a cursor that holds the rest of its line, so that it can neither stand inside a
character nor run on forever. Here the same scan is told with nothing but a byte offset: the rest of
the line and the text before the offset are *slices* of the line, which do not exist when the offset
is no place of it, and the loop over a line goes on for as long as there is fuel.

* `Table.sliceStep` — one match at an offset, where a slice that does not exist is a way to halt;
* `Table.Iterates` — some iterations of the loop over a line. What the callbacks answer is left open
  and may change from one iteration to the next;
* `Table.sliceScan` — the loops over all lines of a text, with fuel.

The invariant is that a cursor stands at the offset. It holds at the start, and every iteration
keeps it and takes a character at least (`Table.Iterates.exists_at`), which bounds the iterations by
the characters of the line. The main statement, `Table.slices_inRange`, adds that no slice is ever
asked for at an offset that is no place, and that the loops, given more fuel than any line has
characters, come to an end with what the scan gives.
-/

namespace RuleLexer

open Text (byteLength after?)

/-! ### Places and slices -/

namespace Text

/-- An offset is a place of a text: some beginning of the text takes that many bytes. -/
def IsPlace (text : List Char) (offset : Nat) : Prop :=
  ∃ start rest, text = start ++ rest ∧ byteLength start = offset

theorem IsPlace.le {text : List Char} {offset : Nat} (h : IsPlace text offset) :
    offset ≤ byteLength text := by
  obtain ⟨start, rest, rfl, rfl⟩ := h
  rw [byteLength_append]
  exact Nat.le_add_right _ _

/-- **What stands before an offset**, if the offset is a place in the text. -/
def before? : List Char → (offset : Nat) → Option (List Char)
  | _, 0 => some []
  | [], _ + 1 => none
  | c :: cs, offset =>
    if c.utf8Size ≤ offset then (before? cs (offset - c.utf8Size)).map (c :: ·) else none

theorem before?_append (start rest : List Char) :
    before? (start ++ rest) (byteLength start) = some start := by
  induction start with
  | nil => cases rest <;> rfl
  | cons c cs ih =>
    have hpos := c.utf8Size_pos
    rw [List.cons_append, byteLength_cons]
    obtain ⟨n, hn⟩ : ∃ n, c.utf8Size + byteLength cs = n + 1 :=
      ⟨c.utf8Size + byteLength cs - 1, by omega⟩
    rw [hn, before?, ← hn, if_pos (Nat.le_add_right _ _), Nat.add_sub_cancel_left, ih]
    · rfl
    · omega

end Text

/-! ### One match -/

/-- How a scan in slices can halt before the end of a line. -/
inductive Halt
  /-- With a fault. -/
  | fault (fault : Fault)
  /-- At a slice that does not exist. -/
  | badSlice
  deriving DecidableEq, Repr

/-- The number of characters before an offset, counted in the slice before it. -/
def columnAt (line : List Char) (offset : Nat) : Except Halt Nat :=
  match Text.before? line offset with
  | some start => .ok start.length
  | none => .error .badSlice

/-- The slice that follows an offset. -/
def restAt (line : List Char) (offset : Nat) : Except Halt (List Char) :=
  match after? line offset with
  | some rest => .ok rest
  | none => .error .badSlice

/-- What the callback of a rule answers to a token; without a callback, that it is kept. -/
def Rule.answer (r : Rule) : Callback := r.onMatch.getD .keep

/-- What a match yields that has a character: the token, if any, and the spot behind the match. The
callback of the rule, if there is one, gives the answers `answer`. -/
def Rule.acceptAt (r : Rule) (answer : Callback) (number column : Nat) (s : Spot) (m : Match) :
    Except Halt (Option Token × Spot) :=
  if r.skips then .ok (none, ⟨m.stopFrom s.offset, s.last⟩)
  else
    let group := r.capture.getD 0
    match m.group? group with
    | none => .error (.fault (.captureMissing r.name group number column))
    | some value =>
      match settle (r.onMatch.map fun _ => answer) ⟨r.name, String.ofList value, number⟩ with
      | .error fault => .error (.fault fault)
      | .ok token => .ok (token, ⟨m.stopFrom s.offset, some r.name⟩)

namespace Table

/-- The first rule that is eligible and matches at a spot, with its match. -/
def pick? (t : Table) (line : List Char) (s : Spot) : Option (Rule × Match) :=
  (t.rules.filter (·.eligible s.last)).findSome? fun rule =>
    (rule.pattern.matchAt? line s.offset).map fun m => (rule, m)

/-- **One match at a byte offset** of a line, the callbacks giving the answers `answers`. -/
def sliceStep (t : Table) (options : ScanOptions) (answers : Rule → Callback) (number : Nat)
    (line : List Char) (s : Spot) : Except Halt (Option Token × Spot) :=
  match t.pick? line s with
  | none => do
    let column ← columnAt line s.offset
    let rest ← restAt line s.offset
    .error (.fault (t.noMatch options number ⟨column, rest, s.last⟩))
  | some (rule, m) => do
    let column ← columnAt line s.offset
    if m.text.isEmpty then .error (.fault (.zeroWidth rule.name number column))
    else rule.acceptAt (answers rule) number column s m

/-! ### Loops -/

/-- **Some iterations of the loop over a line**: it goes on before the end of the line, as long as
there is a match. The callbacks may answer differently in every iteration. -/
inductive Iterates (t : Table) (options : ScanOptions) (number : Nat) (line : List Char) :
    Spot → Nat → Spot → Prop
  /-- No iteration. -/
  | refl (s : Spot) : Iterates t options number line s 0 s
  /-- Some iterations, and one more. -/
  | tail {s s' next : Spot} {n : Nat} {token : Option Token} {answers : Rule → Callback}
      (before : Iterates t options number line s n s') (more : s'.offset < byteLength line)
      (step : t.sliceStep options answers number line s' = .ok (token, next)) :
      Iterates t options number line s (n + 1) next

/-- The loop over a line from a spot on, for as long as there is fuel. -/
def sliceLine (t : Table) (options : ScanOptions) (number : Nat) (line : List Char) :
    (fuel : Nat) → Spot → Option (Except Halt (List Token))
  | 0, _ => none
  | fuel + 1, s =>
    if s.offset < byteLength line then
      match t.sliceStep options Rule.answer number line s with
      | .error halt => some (.error halt)
      | .ok (token, next) =>
        (t.sliceLine options number line fuel next).map (·.map (token.toList ++ ·))
    else some (.ok [])

/-- The loops over lines that are numbered from `number` on, each with the same fuel. -/
def sliceLines (t : Table) (options : ScanOptions) (fuel : Nat) (number : Nat) :
    List (List Char) → Option (Except Halt (List Token))
  | [] => some (.ok [])
  | line :: lines =>
    match t.sliceLine options number line fuel .start with
    | none => none
    | some (.error halt) => some (.error halt)
    | some (.ok tokens) => (t.sliceLines options fuel (number + 1) lines).map (·.map (tokens ++ ·))

/-- **The loops over all lines of a text**; nothing, if a line is not finished when the fuel is. -/
def sliceScan (t : Table) (options : ScanOptions) (fuel : Nat) (text : String) :
    Option (Except Halt (List Token)) :=
  t.sliceLines options fuel 0 (Text.lines text.toList)

end Table

/-! ### Cursors at offsets -/

namespace Cursor.At

variable {line : List Char} {cur : Cursor} {s : Spot}

theorem isPlace (h : cur.At line s) : Text.IsPlace line s.offset := by
  obtain ⟨read, hline, -, hoff⟩ := h.split
  exact ⟨read, cur.rest, hline, hoff.symm⟩

/-- Both slices exist at the offset of a cursor, and are what the cursor holds. -/
theorem columnAt (h : cur.At line s) : columnAt line s.offset = .ok cur.column := by
  obtain ⟨read, hline, hcol, hoff⟩ := h.split
  rw [RuleLexer.columnAt, hoff, hline, Text.before?_append, hcol]

theorem restAt (h : cur.At line s) : restAt line s.offset = .ok cur.rest := by
  rw [RuleLexer.restAt, h.after?]

theorem pick? (h : cur.At line s) (t : Table) : t.pick? line s = t.firstMatch? cur := by
  rw [Table.pick?, Table.firstMatch?, h.last]
  simp only [h.matchAt?]

/-- The cursor has as many characters left as the line has behind those that it has read. -/
theorem column_add_length (h : cur.At line s) : cur.column + cur.rest.length = line.length := by
  obtain ⟨read, hline, hcol, -⟩ := h.split
  rw [hline, hcol, List.length_append]

end Cursor.At

/-- Accepting a match at an offset is accepting it at the cursor. -/
theorem Rule.acceptAt_answer {r : Rule} {number : Nat} {cur : Cursor} {s : Spot} {m : Match}
    (hlast : cur.last = s.last) :
    r.acceptAt r.answer number cur.column s m =
      match r.accept number cur m with
      | .error fault => .error (.fault fault)
      | .ok (token, next) => .ok (token, ⟨m.stopFrom s.offset, next.last⟩) := by
  -- where there is no callback, what it would answer does not matter
  have hsettle : r.onMatch.map (fun _ => r.answer) = r.onMatch := by
    unfold answer
    cases r.onMatch <;> rfl
  unfold acceptAt accept
  rw [hsettle]
  by_cases hskips : r.skips = true
  · rw [if_pos hskips, if_pos hskips]
    dsimp only
    rw [← hlast]
    rfl
  · rw [if_neg hskips, if_neg hskips]
    dsimp only
    cases m.group? (r.capture.getD 0) with
    | none => rfl
    | some value =>
      dsimp only
      cases settle r.onMatch ⟨r.name, String.ofList value, number⟩ <;> rfl

/-- Whatever the callback answers, a match that is accepted leads behind the match. -/
theorem Rule.acceptAt_cases (r : Rule) (answer : Callback) (number column : Nat) (s : Spot)
    (m : Match) :
    (∃ fault, r.acceptAt answer number column s m = .error (.fault fault)) ∨
      ∃ token last,
        r.acceptAt answer number column s m = .ok (token, ⟨m.stopFrom s.offset, last⟩) := by
  unfold acceptAt
  by_cases hskips : r.skips = true
  · rw [if_pos hskips]
    exact Or.inr ⟨_, _, rfl⟩
  · rw [if_neg hskips]
    dsimp only
    cases m.group? (r.capture.getD 0) with
    | none => exact Or.inl ⟨_, rfl⟩
    | some value =>
      dsimp only
      cases settle (r.onMatch.map fun _ => answer) ⟨r.name, String.ofList value, number⟩ with
      | error fault => exact Or.inl ⟨_, rfl⟩
      | ok token => exact Or.inr ⟨_, _, rfl⟩

namespace Table

variable {t : Table} {options : ScanOptions} {number : Nat} {line : List Char}

/-- **A step at an offset where a cursor stands** never asks for a slice that does not exist: it
ends with a fault, or leads behind the match that counts. -/
theorem sliceStep_cases {cur : Cursor} {s : Spot} (h : cur.At line s) (answers : Rule → Callback) :
    (∃ fault, t.sliceStep options answers number line s = .error (.fault fault)) ∨
      ∃ r m token last, t.Picks line s r m ∧ m.text ≠ [] ∧
        t.sliceStep options answers number line s = .ok (token, ⟨m.stopFrom s.offset, last⟩) := by
  unfold sliceStep
  rw [h.pick?, h.columnAt, h.restAt]
  cases hfirst : t.firstMatch? cur with
  | none => exact Or.inl ⟨_, rfl⟩
  | some found =>
    obtain ⟨r, m⟩ := found
    have hpicks := (firstMatch?_eq_some_iff h).1 hfirst
    by_cases hempty : m.text.isEmpty = true
    · left
      refine ⟨.zeroWidth r.name number cur.column, ?_⟩
      change (if m.text.isEmpty = true then _ else _) = _
      rw [if_pos hempty]
    · have hne : m.text ≠ [] := fun hnil => hempty (List.isEmpty_iff.2 hnil)
      change (∃ fault, (if m.text.isEmpty = true then _ else _) = _) ∨ ∃ r' m' token last, _ ∧ _ ∧
        (if m.text.isEmpty = true then _ else _) = _
      rw [if_neg hempty]
      rcases r.acceptAt_cases (answers r) number cur.column s m with hfault | ⟨token, last, hok⟩
      · exact Or.inl hfault
      · exact Or.inr ⟨r, m, token, last, hpicks, hne, hok⟩

/-- Behind a match that counts and has a character there stands a cursor again, with fewer
characters left. -/
theorem Picks.exists_at {cur : Cursor} {s : Spot} {r : Rule} {m : Match}
    (hpicks : t.Picks line s r m) (h : cur.At line s) (some : m.text ≠ []) (last : Option String) :
    ∃ next : Cursor, next.At line ⟨m.stopFrom s.offset, last⟩ ∧ cur.column < next.column := by
  refine ⟨_, hpicks.at_past h last, ?_⟩
  have hpos := List.length_pos_iff.2 some
  change cur.column < cur.column + (m.skipped.length + m.text.length)
  omega

/-- **The invariant of the loop**: after every iteration a cursor stands at the offset, and as many
characters are behind it as there were iterations, or more. -/
theorem Iterates.exists_at {s' : Spot} {n : Nat} (h : t.Iterates options number line .start n s') :
    ∃ cur : Cursor, cur.At line s' ∧ n ≤ cur.column := by
  induction h with
  | refl => exact ⟨.ofLine line, Cursor.at_ofLine line, Nat.zero_le _⟩
  | @tail s' next n token answers before more step ih =>
    obtain ⟨cur, hat, hn⟩ := ih
    -- A fault would have ended the loop, so that the iteration led behind a match.
    rcases sliceStep_cases hat answers with ⟨fault, hfault⟩ | ⟨r, m, token', last, hpicks, hne, hok⟩
    · rw [hfault] at step
      exact absurd step (by simp)
    · obtain ⟨-, rfl⟩ := Prod.mk.inj (Except.ok.inj (step.symm.trans hok))
      obtain ⟨cur', hat', hlt⟩ := hpicks.exists_at hat hne last
      exact ⟨cur', hat', by omega⟩

/-! ### The loops give what the scan gives -/

/-- A step with the callbacks of the rules themselves is a step of the cursor. -/
theorem sliceStep_answer {cur : Cursor} {s : Spot} (h : cur.At line s) :
    (∃ fault, t.step options number cur = .error fault ∧
        t.sliceStep options Rule.answer number line s = .error (.fault fault)) ∨
      ∃ token next s', t.step options number cur = .ok (token, next) ∧ next.At line s' ∧
        t.sliceStep options Rule.answer number line s = .ok (token, s') := by
  unfold sliceStep
  rw [h.pick?, h.columnAt, h.restAt]
  cases hstep : t.step options number cur with
  | error fault =>
    left
    refine ⟨fault, rfl, ?_⟩
    unfold step at hstep
    cases hfirst : t.firstMatch? cur with
    | none =>
      rw [hfirst] at hstep
      obtain rfl := Except.error.inj hstep
      rw [← h.last]
      rfl
    | some found =>
      obtain ⟨r, m⟩ := found
      rw [hfirst] at hstep
      change (if m.text.isEmpty = true then _ else _) = _ at hstep
      change (if m.text.isEmpty = true then _ else _) = _
      by_cases hempty : m.text.isEmpty = true
      · rw [if_pos hempty] at hstep ⊢
        obtain rfl := Except.error.inj hstep
        rfl
      · rw [if_neg hempty] at hstep ⊢
        rw [Rule.acceptAt_answer h.last, hstep]
  | ok found =>
    obtain ⟨token, next⟩ := found
    right
    -- the step of the cursor takes the match that counts, and the slices give the same one
    obtain ⟨r, m, last, hpicks, hne, -, rfl⟩ := (step_eq_ok_iff h).1 hstep
    refine ⟨token, _, _, rfl, hpicks.at_past h last, ?_⟩
    unfold step at hstep
    rw [(firstMatch?_eq_some_iff h).2 hpicks] at hstep ⊢
    have hempty : ¬ m.text.isEmpty = true := fun hnil => hne (List.isEmpty_iff.1 hnil)
    change (if m.text.isEmpty = true then _ else _) = _ at hstep
    change (if m.text.isEmpty = true then _ else _) = _
    rw [if_neg hempty] at hstep ⊢
    rw [Rule.acceptAt_answer h.last, hstep]

/-- The loop over a line, given more fuel than there are characters left, gives what the scan of the
line gives. -/
theorem sliceLine_eq {cur : Cursor} {s : Spot} {fuel : Nat} (h : cur.At line s)
    (enough : cur.rest.length < fuel) :
    t.sliceLine options number line fuel s =
      some ((t.scanLine options number cur).mapError .fault) := by
  induction fuel generalizing cur s with
  | zero => exact absurd enough (Nat.not_lt_zero _)
  | succ fuel ih =>
    rw [sliceLine, scanLine_eq]
    by_cases hend : cur.rest = []
    · rw [if_neg (by rw [h.rest_eq_nil_iff.1 hend]; exact Nat.lt_irrefl _), if_pos hend]
      rfl
    · have hmore : s.offset < byteLength line :=
        Nat.lt_of_le_of_ne h.isPlace.le fun heq => hend (h.rest_eq_nil_iff.2 heq)
      rw [if_pos hmore, if_neg hend]
      rcases sliceStep_answer h with ⟨fault, hstep, hslice⟩ | ⟨token, next, s', hstep, hat, hslice⟩
      · rw [hstep, hslice]
        rfl
      -- a step leaves fewer characters, and so less fuel is enough for them
      · have hlt := rest_step_lt hend hstep
        rw [hstep, hslice]
        dsimp only
        rw [ih hat (by omega)]
        change some _ = some (Except.mapError _ (Except.map _ _))
        cases t.scanLine options number next <;> rfl

theorem sliceLines_eq {fuel : Nat} {lines : List (List Char)}
    (enough : ∀ line ∈ lines, line.length < fuel) :
    t.sliceLines options fuel number lines =
      some ((t.scanLines options number lines).mapError .fault) := by
  induction lines generalizing number with
  | nil => rfl
  | cons line lines ih =>
    rw [sliceLines, scanLines,
      sliceLine_eq (Cursor.at_ofLine line) (enough line List.mem_cons_self)]
    cases t.scanLine options number (.ofLine line) with
    | error fault => rfl
    | ok tokens =>
      change Option.map _ (t.sliceLines options fuel (number + 1) lines) = _
      rw [ih fun l hl => enough l (List.mem_cons_of_mem _ hl)]
      cases t.scanLines options (number + 1) lines <;> rfl

/-- **The scan halts, and every slice that it takes exists.** Whatever the callbacks answer, an
offset that the loop over a line reaches is a place of the line, both slices at it exist, and every
further match moves it on; so there are no more iterations than the line has characters. And with
more fuel than any line of a text has characters, the loops over the text end with what the scan
gives. -/
theorem slices_inRange (t : Table) (options : ScanOptions) (text : String) :
    (∀ number line n s, t.Iterates options number line .start n s →
      (Text.IsPlace line s.offset ∧ s.offset ≤ byteLength line ∧ n ≤ line.length) ∧
      (∃ column rest, columnAt line s.offset = .ok column ∧ restAt line s.offset = .ok rest) ∧
      ∀ answers, t.sliceStep options answers number line s ≠ .error .badSlice ∧
        ∀ token next, t.sliceStep options answers number line s = .ok (token, next) →
          s.offset < next.offset) ∧
    ∀ fuel, (∀ line ∈ Text.lines text.toList, line.length < fuel) →
      t.sliceScan options fuel text = some ((t.scan options text).mapError .fault) := by
  refine ⟨fun number line n s h => ?_, fun fuel enough => sliceLines_eq enough⟩
  obtain ⟨cur, hat, hn⟩ := h.exists_at
  have hcolumn := hat.column_add_length
  refine ⟨⟨hat.isPlace, hat.isPlace.le, by omega⟩, ⟨_, _, hat.columnAt, hat.restAt⟩,
    fun answers => ?_⟩
  rcases sliceStep_cases hat answers with ⟨fault, hfault⟩ | ⟨r, m, token, last, -, hne, hok⟩
  · rw [hfault]
    exact ⟨by simp, fun _ _ hok => absurd hok (by simp)⟩
  · rw [hok]
    refine ⟨by simp, fun _ _ hnext => ?_⟩
    obtain ⟨-, rfl⟩ := Prod.mk.inj (Except.ok.inj hnext)
    have hpos := Text.byteLength_pos hne
    change s.offset < s.offset + byteLength m.skipped + byteLength m.text
    omega

/-- A rule for a letter of two bytes, and a rule that can match the empty text. -/
def accented : Table where
  rules :=
    [{ name := "LETTER", pattern := .ofValid ["é"] (by decide +kernel) },
     { name := "MAYBE", pattern := .ofValid ["a*"] (by decide +kernel) }]

/-- On the line `éb` the loop stands before the `b` after one iteration, and halts there with a
match of the empty text. -/
theorem slices_inRange_accented :
    (Text.IsPlace ['é', 'b'] 2 ∧ (2 ≤ byteLength ['é', 'b']) ∧ 1 ≤ ['é', 'b'].length) ∧
      (∃ column rest, columnAt ['é', 'b'] 2 = .ok column ∧ restAt ['é', 'b'] 2 = .ok rest) ∧
      (accented.scan {} "éb").mapError Halt.fault = .error (.fault (.zeroWidth "MAYBE" 0 1)) := by
  obtain ⟨hloop, hfuel⟩ := slices_inRange accented {} "éb"
  have hstep : accented.sliceStep {} Rule.answer 0 ['é', 'b'] .start =
      .ok (some ⟨"LETTER", "é", 0⟩, ⟨2, some "LETTER"⟩) := rfl
  have hiterates : accented.Iterates {} 0 ['é', 'b'] .start 1 ⟨2, some "LETTER"⟩ :=
    .tail (.refl _) (by decide) hstep
  obtain ⟨hplace, hslices, -⟩ := hloop 0 ['é', 'b'] 1 ⟨2, some "LETTER"⟩ hiterates
  have hlines : Text.lines "éb".toList = [['é', 'b']] := by decide +kernel
  have hends : accented.sliceScan {} 3 "éb" =
      some (.error (.fault (.zeroWidth "MAYBE" 0 1))) := by
    rw [sliceScan, hlines]
    rfl
  refine ⟨hplace, hslices, ?_⟩
  rw [hfuel 3 (by rw [hlines]; decide)] at hends
  exact Option.some.inj hends

end Table

end RuleLexer
