import RuleLexer.Proofs.Scan.Failure

/-!
# Where a scan fails

A fault names a line and a column. Here both are tied to the spot at which the step failed: the line
is the one that the scan had reached, and the column is the number of its characters before the
spot, also where the match that the fault is about had moved on already.

* `Quotes` — a text stands for the rest of a line, cut to the length that was chosen;
* `Table.Blames` — what a fault says about the spot where the step failed, with one case for each
  kind of fault.

A step at a cursor fails with exactly those faults that blame its spot (`Table.step_eq_error_iff`).
So no fault has a place before a spot that the scan reaches (`Table.Reaches.fails_behind`). With the
run that leads to the spot this gives the faults of a whole scan (`Table.scan_eq_error_iff`). The
main statement, `Table.fails_at_iff`, is about faults that have a place: a scan fails with such a
fault exactly when it reaches a spot on the line of that number, before the end of the line and
behind as many characters as the column says, and the fault says of that spot what is the case.
-/

namespace RuleLexer

open Text (byteLength)

/-! ### The rest of a line, quoted -/

/-- **A text quotes the rest of a line**: as it is, if it has `most` characters at most, and
otherwise its first `most` characters with dots behind them. -/
structure Quotes (most : Nat) (rest : List Char) (text : String) : Prop where
  /-- A rest that is short enough is quoted as it is. -/
  whole : rest.length ≤ most → text.toList = rest
  /-- A rest that is too long is cut. -/
  cut : most < rest.length → text.toList = rest.take most ++ ['.', '.', '.']

/-- The excerpt of the rest is the one text that quotes it. -/
theorem quotes_iff {most : Nat} {rest : List Char} {text : String} :
    Quotes most rest text ↔ text = Table.excerpt rest most := by
  have hdots : ("...").toList = ['.', '.', '.'] := by decide
  unfold Table.excerpt
  by_cases hlong : most < rest.length
  · rw [if_pos hlong]
    constructor
    · intro h
      apply String.toList_inj.1
      rw [h.cut hlong, String.toList_append, String.toList_ofList, hdots]
    · rintro rfl
      refine ⟨fun hshort => absurd hlong (Nat.not_lt.2 hshort), fun _ => ?_⟩
      rw [String.toList_append, String.toList_ofList, hdots]
  · rw [if_neg hlong]
    constructor
    · intro h
      apply String.toList_inj.1
      rw [h.whole (Nat.not_lt.1 hlong), String.toList_ofList]
    · rintro rfl
      exact ⟨fun _ => String.toList_ofList, fun h => absurd h hlong⟩

/-! ### The place of a cursor -/

/-- What a cursor has read and what it has left, cut from the line at its column. -/
theorem Cursor.At.drop_column {line : List Char} {cur : Cursor} {s : Spot} (h : cur.At line s) :
    line.drop cur.column = cur.rest ∧ s.offset = byteLength (line.take cur.column) := by
  obtain ⟨read, hline, hcol, hoff⟩ := h.split
  rw [hline, hcol, List.drop_left, List.take_left]
  exact ⟨rfl, hoff⟩

/-- A cursor stands at the spot behind any number of characters. -/
theorem Cursor.at_column {line : List Char} {s : Spot} {column : Nat} (inside : column ≤ line.length)
    (offset : s.offset = byteLength (line.take column)) :
    Cursor.At line ⟨column, line.drop column, s.last⟩ s where
  split := ⟨line.take column, (List.take_append_drop column line).symm,
    (List.length_take_of_le inside).symm, offset⟩
  last := rfl

/-! ### What a fault says about a spot -/

/-- The line and the column at which no rule matches, if that is what a fault reports. -/
def Fault.unmatched? : Fault → Option (Nat × Nat)
  | .unexpected line column _ | .described _ _ line column _ => some (line, column)
  | .captureMissing .. | .zeroWidth .. | .refused _ => none

namespace Table

variable {t : Table} {options : ScanOptions}

/-- **What a fault says about the spot at which a step failed.** The spot stands on a line of some
number, behind some number of characters; the fault gives both. -/
inductive Blames (t : Table) (options : ScanOptions) (number : Nat) (line : List Char)
    (column : Nat) (s : Spot) : Fault → Prop
  /-- No eligible rule matches, and no descriptor is selected. -/
  | unexpected {text : String} (unmatched : ∀ r ∈ t.rules, ¬ Matches line s r)
      (selects : t.Selects s.last .usual none)
      (quotes : Quotes options.maxErrorText (line.drop column) text) :
      Blames t options number line column s (.unexpected number column text)
  /-- No eligible rule matches, and a descriptor is selected. -/
  | described {origin : Origin} {d : Descriptor} {text : String}
      (unmatched : ∀ r ∈ t.rules, ¬ Matches line s r) (selects : t.Selects s.last origin (some d))
      (quotes : Quotes options.maxErrorText (line.drop column) text) :
      Blames t options number line column s
        (.described d.kind (d.render number column text) number column text)
  /-- The match that counts is empty. -/
  | zeroWidth {r : Rule} {m : Match} (picks : t.Picks line s r m) (empty : m.text = []) :
      Blames t options number line column s (.zeroWidth r.name number column)
  /-- The match that counts is not empty, but the group that its rule selects took no part in it. -/
  | captureMissing {r : Rule} {m : Match} (picks : t.Picks line s r m) (nonempty : m.text ≠ [])
      (skips : r.skips = false) (absent : m.group? (r.capture.getD 0) = none) :
      Blames t options number line column s
        (.captureMissing r.name (r.capture.getD 0) number column)
  /-- The callback of the rule whose match counts refuses the token. -/
  | refused {r : Rule} {m : Match} {value : List Char} {f : Callback} {message : String}
      (picks : t.Picks line s r m) (nonempty : m.text ≠ []) (skips : r.skips = false)
      (selected : m.group? (r.capture.getD 0) = some value) (calls : r.onMatch = some f)
      (refuses : f ⟨r.name, String.ofList value, number⟩ = .error message) :
      Blames t options number line column s (.refused message)

/-- A fault that has a place has the one of the spot. -/
theorem Blames.place {number column l c : Nat} {line : List Char} {s : Spot} {fault : Fault}
    (h : t.Blames options number line column s fault) (hline : fault.line? = some l)
    (hcolumn : fault.column? = some c) : number = l ∧ column = c := by
  cases h with
  | refused => exact absurd hline (by simp [Fault.line?])
  | _ => exact ⟨Option.some.inj hline, Option.some.inj hcolumn⟩

/-- A fault has the place of the spot, or it is the refusal of a callback. -/
theorem Blames.refused_or_placed {number column : Nat} {line : List Char} {s : Spot} {fault : Fault}
    (h : t.Blames options number line column s fault) :
    (∃ message, fault = .refused message) ∨
      (fault.line? = some number ∧ fault.column? = some column) := by
  cases h with
  | @refused _ _ _ _ message => exact Or.inl ⟨message, rfl⟩
  | _ => exact Or.inr ⟨rfl, rfl⟩

/-- A fault for want of a match has the place of the spot. -/
theorem Blames.unmatched {number column : Nat} {line : List Char} {s : Spot} {fault : Fault}
    {place : Nat × Nat} (h : t.Blames options number line column s fault)
    (unmatched : fault.unmatched? = some place) : place = (number, column) := by
  cases h with
  | unexpected => exact (Option.some.inj unmatched).symm
  | described => exact (Option.some.inj unmatched).symm
  | zeroWidth => exact absurd unmatched (by simp [Fault.unmatched?])
  | captureMissing => exact absurd unmatched (by simp [Fault.unmatched?])
  | refused => exact absurd unmatched (by simp [Fault.unmatched?])

/-- A failure that a selected descriptor reports blames the spot. -/
theorem blames_report {number column : Nat} {line : List Char} {s : Spot} {origin : Origin}
    {choice : Option Descriptor} (unmatched : ∀ r ∈ t.rules, ¬ Matches line s r)
    (selects : t.Selects s.last origin choice) :
    t.Blames options number line column s
      (report choice number column (excerpt (line.drop column) options.maxErrorText)) := by
  have hquotes := quotes_iff.2 (Eq.refl (excerpt (line.drop column) options.maxErrorText))
  cases choice with
  | some d => exact .described unmatched selects hquotes
  | none =>
    cases selects with
    | usual hnotDue hnotHeld hnone =>
      exact .unexpected unmatched (.usual hnotDue hnotHeld hnone) hquotes

/-- Where no eligible rule matches, the fault is what the selected descriptor reports there. -/
theorem step_eq_report {number : Nat} {line : List Char} {cur : Cursor} {s : Spot} {origin : Origin}
    {choice : Option Descriptor} (h : cur.At line s) (unmatched : ∀ r ∈ t.rules, ¬ Matches line s r)
    (selects : t.Selects s.last origin choice) :
    t.step options number cur = .error
      (report choice number cur.column
        (excerpt (line.drop cur.column) options.maxErrorText)) := by
  -- the selection goes by the rule that matched last, which cursor and spot agree on
  rw [← h.last] at selects
  rw [step, (firstMatch?_eq_none_iff h).2 unmatched, h.drop_column.1]
  exact congrArg Except.error (noMatch_eq_report selects)

/-! ### A step fails with what blames its spot -/

/-- A step at which a match that counts has a character is the acceptance of the match. -/
theorem Picks.step_eq_accept {number : Nat} {line : List Char} {cur : Cursor} {s : Spot} {r : Rule}
    {m : Match} (hpicks : t.Picks line s r m) (h : cur.At line s) (nonempty : m.text ≠ []) :
    t.step options number cur = r.accept number cur m := by
  rw [step, (firstMatch?_eq_some_iff h).2 hpicks]
  exact if_neg fun hnil => nonempty (List.isEmpty_iff.1 hnil)

/-- **A step fails with exactly those faults that blame its spot.** -/
theorem step_eq_error_iff {number : Nat} {line : List Char} {cur : Cursor} {s : Spot}
    {fault : Fault} (h : cur.At line s) :
    t.step options number cur = .error fault ↔
      t.Blames options number line cur.column s fault := by
  constructor
  · intro hstep
    rcases step_eq_error h hstep with ⟨hunmatched, -⟩ | ⟨r, m, hpicks, hfails⟩
    · obtain ⟨origin, choice, hselects, -⟩ := t.exists_selects_noMatch options number cur
      rw [h.last] at hselects
      rw [step_eq_report h hunmatched hselects] at hstep
      rw [← Except.error.inj hstep]
      exact blames_report hunmatched hselects
    · rcases hfails with ⟨hempty, rfl⟩ | ⟨hsome, haccept⟩
      · exact .zeroWidth hpicks hempty
      · obtain ⟨hskips, hfails⟩ := Rule.accept_eq_error haccept
        rcases hfails with ⟨habsent, rfl⟩ | ⟨value, f, message, hsel, hcalls, hrefuses, rfl⟩
        · exact .captureMissing hpicks hsome hskips habsent
        · exact .refused hpicks hsome hskips hsel hcalls hrefuses
  · -- what the step makes of the spot is determined by what the fault says about it
    intro hblames
    cases hblames with
    | unexpected hunmatched hselects hquotes =>
      rw [quotes_iff.1 hquotes]
      exact step_eq_report h hunmatched hselects
    | described hunmatched hselects hquotes =>
      rw [quotes_iff.1 hquotes]
      exact step_eq_report h hunmatched hselects
    | zeroWidth hpicks hempty =>
      rw [step, (firstMatch?_eq_some_iff h).2 hpicks]
      exact if_pos (List.isEmpty_iff.2 hempty)
    | captureMissing hpicks hsome hskips habsent =>
      rw [hpicks.step_eq_accept h hsome, Rule.accept, hskips]
      dsimp only
      rw [habsent]
      rfl
    | refused hpicks hsome hskips hsel hcalls hrefuses =>
      rw [hpicks.step_eq_accept h hsome, Rule.accept, hskips]
      dsimp only
      rw [hsel]
      simp only [Rule.settle, hcalls, hrefuses]
      rfl

/-! ### No scan fails before a spot that it reaches -/

/-- **Along a run the column grows.** -/
theorem Run.column_le {number : Nat} {line : List Char} {cur cur' : Cursor} {s s' : Spot}
    {trace : List (Rule × Match)} {tokens : List Token}
    (hrun : t.Run number line s trace tokens s') (h : cur.At line s) (h' : cur'.At line s') :
    cur.column ≤ cur'.column := by
  -- on the run; a match moves the cursor by what it skips and takes
  induction hrun generalizing cur with
  | stop s =>
    obtain rfl := h.unique h'
    exact Nat.le_refl _
  | @move s s' r m out tokens last trace hpicks hsome hleaves hrest ih =>
    have hbehind := ih (hpicks.at_past h last) h'
    calc cur.column
        ≤ cur.column + m.extent := Nat.le_add_right _ _
      _ ≤ cur'.column := hbehind

/-- A scan of a line that fails, fails at one step, and its fault has the place of that step unless
it is the refusal of a callback. -/
theorem exists_place_of_scanLine_eq_error {number : Nat} {line : List Char} {cur : Cursor}
    {s : Spot} {fault : Fault} (h : cur.At line s) (hscan : t.scanLine options number cur = .error fault) :
    (∃ message, fault = .refused message) ∨
      ∃ column, fault.line? = some number ∧ fault.column? = some column ∧ cur.column ≤ column := by
  obtain ⟨trace, tokens, s', cur', hrun, hat, -, hstep⟩ := (scanLine_eq_error_iff h).1 hscan
  have hblames := (step_eq_error_iff hat).1 hstep
  rcases hblames.refused_or_placed with hrefused | ⟨hline, hcolumn⟩
  · exact Or.inl hrefused
  · exact Or.inr ⟨cur'.column, hline, hcolumn, hrun.column_le h hat⟩

/-- **No scan fails before a spot that it reaches**: unless a callback refuses a token, a scan that
fails does so at the spot, behind it on its line, or on a line further down. -/
theorem Reaches.fails_behind {text : String} {number : Nat} {line : List Char}
    {trace : List (Rule × Match)} {s : Spot} {cur : Cursor} {fault : Fault}
    (h : t.Reaches text number line trace s) (hat : cur.At line s)
    (fails : t.scan options text = .error fault) :
    (∃ message, fault = .refused message) ∨ ∃ number' column',
      fault.line? = some number' ∧ fault.column? = some column' ∧
        (number < number' ∨ number = number' ∧ cur.column ≤ column') := by
  obtain ⟨i, line', hline', -, hfails⟩ := scanLines_eq_error_iff.1 fails
  rw [Nat.zero_add] at hfails
  rcases Nat.lt_trichotomy i number with hlt | rfl | hgt
  · -- the lines before are scanned
    obtain ⟨tokens, hcovers⟩ := h.before i line' hlt hline'
    have hscanned : t.scanLine options i (.ofLine line') = .ok tokens :=
      (scanLine_eq_ok_iff (Cursor.at_ofLine line')).2 hcovers
    exact absurd (hscanned.symm.trans hfails) (by simp)
  · -- the run that leads to the spot is scanned, so that the failure comes behind it
    obtain rfl := Option.some.inj (h.onLine.symm.trans hline')
    obtain ⟨tokens, hrun⟩ := h.run
    obtain ⟨cur', hat', hscan⟩ : ∃ cur' : Cursor, cur'.At line s ∧
        t.scanLine options i (.ofLine line) = (t.scanLine options i cur').map (tokens ++ ·) :=
      hrun.scanLine_eq (Cursor.at_ofLine line)
    obtain rfl := hat'.unique hat
    rw [hfails] at hscan
    have hbehind := exists_place_of_scanLine_eq_error hat (map_eq_error_iff.1 hscan.symm)
    rcases hbehind with hrefused | ⟨column, hl, hc, hle⟩
    · exact Or.inl hrefused
    · exact Or.inr ⟨i, column, hl, hc, Or.inr ⟨rfl, hle⟩⟩
  · rcases exists_place_of_scanLine_eq_error (Cursor.at_ofLine line') hfails with
      hrefused | ⟨column, hl, hc, -⟩
    · exact Or.inl hrefused
    · exact Or.inr ⟨i, column, hl, hc, Or.inl hgt⟩

/-! ### A scan fails where it can get no further -/

/-- **A scan fails exactly where a spot is reached that the fault blames.** -/
theorem scan_eq_error_iff {text : String} {fault : Fault} :
    t.scan options text = .error fault ↔ ∃ number line trace s column,
      t.Reaches text number line trace s ∧ column < line.length ∧
        s.offset = byteLength (line.take column) ∧
        t.Blames options number line column s fault := by
  constructor
  · intro hscan
    obtain ⟨i, line, hline, hbefore, hfails⟩ := scanLines_eq_error_iff.1 hscan
    rw [Nat.zero_add] at hfails
    obtain ⟨trace, tokens, s, cur, hrun, hat, hmore, hstep⟩ :=
      (scanLine_eq_error_iff (Cursor.at_ofLine line)).1 hfails
    obtain ⟨hrest, hoffset⟩ := hat.drop_column
    have hinside : cur.column < line.length := by
      rw [← hrest] at hmore
      exact Nat.not_le.1 fun hle => hmore (List.drop_eq_nil_of_le hle)
    have hleft : s.offset < byteLength line := by
      have hpos := Text.byteLength_pos hmore
      have hsplit := congrArg byteLength (List.take_append_drop cur.column line)
      rw [Text.byteLength_append, hrest] at hsplit
      omega
    refine ⟨i, line, trace, s, cur.column, ⟨hline, fun j l hj hl => ?_, ⟨tokens, hrun⟩, hleft⟩,
      hinside, hoffset, (step_eq_error_iff hat).1 hstep⟩
    obtain ⟨tokens', hcovers⟩ := hbefore j l hj hl
    rw [Nat.zero_add] at hcovers
    exact ⟨tokens', hcovers⟩
  · rintro ⟨number, line, trace, s, column, hreaches, hinside, hoffset, hblames⟩
    refine hreaches.scan_eq fun cur hcur => (step_eq_error_iff hcur).2 ?_
    -- only one cursor stands at the spot, and its column is that of the fault
    obtain rfl := hcur.unique (Cursor.at_column (Nat.le_of_lt hinside) hoffset)
    exact hblames

/-- **The exact place of a failure.** A scan fails with a fault that gives a line and a column
exactly when it reaches a spot on the line of that number, all lines before it being scanned; the
column is the number of characters of the line before the spot, and less than the line has; and the
fault says of that spot what is the case: that no eligible rule matches there, with what follows the
spot as the text that is quoted, or that the match of the first eligible rule that matches there is
empty, or lacks the group that the rule selects. -/
theorem fails_at_iff (t : Table) (options : ScanOptions) (text : String) {fault : Fault}
    {number column : Nat} (hline : fault.line? = some number)
    (hcolumn : fault.column? = some column) :
    t.scan options text = .error fault ↔ ∃ line trace s,
      t.Reaches text number line trace s ∧ column < line.length ∧
        s.offset = byteLength (line.take column) ∧
        t.Blames options number line column s fault := by
  rw [scan_eq_error_iff]
  constructor
  · rintro ⟨number', line, trace, s, column', hreaches, hinside, hoffset, hblames⟩
    obtain ⟨rfl, rfl⟩ := hblames.place hline hcolumn
    exact ⟨line, trace, s, hreaches, hinside, hoffset, hblames⟩
  · rintro ⟨line, trace, s, hreaches, hinside, hoffset, hblames⟩
    exact ⟨number, line, trace, s, column, hreaches, hinside, hoffset, hblames⟩

/-- A rule for a letter of two bytes, and a rule that selects a group of its second choice. -/
def choosing : Table where
  rules :=
    [{ name := "LETTER", pattern := .ofValid ["ü"] (by decide +kernel) },
     { name := "X", pattern := .ofValid ["(x)|(y)"] (by decide +kernel), capture := some 2 }]

/-- On the second line the fault is at column 1, in front of the match that lacks the group, and
behind a letter of two bytes. -/
theorem fails_at_iff_choosing :
    choosing.scan {} "ü\nüx" = .error (.captureMissing "X" 2 1 1) ∧
      ∃ line trace s, choosing.Reaches "ü\nüx" 1 line trace s ∧ 1 < line.length ∧
        s.offset = byteLength (line.take 1) ∧
        choosing.Blames {} 1 line 1 s (.captureMissing "X" 2 1 1) := by
  have hscan : choosing.scan {} "ü\nüx" = .error (.captureMissing "X" 2 1 1) := by decide +kernel
  exact ⟨hscan, (fails_at_iff choosing {} "ü\nüx" rfl rfl).1 hscan⟩

end Table

end RuleLexer
