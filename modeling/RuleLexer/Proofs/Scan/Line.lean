import RuleLexer.Proofs.Scan.Suffix

/-!
# The scan of a line, match by match

What is known of the matches along a line gives the scan of the line: a match of a rule that skips
is left out (`Table.scanLine_of_skips`), any other match puts its token in front of what is scanned
behind it (`Table.scanLine_of_yields`), and the scan ends at the end of the line. A text without
line feeds is scanned as one line (`Table.scan_of_plain`).
-/

namespace RuleLexer

open Text (lines linesFrom)

/-- A text without line feeds is one line, if it has a character. -/
theorem Text.lines_of_plain {text : List Char} (plain : '\n' ∉ text) (some : text ≠ []) :
    lines text = [text] := by
  have whole := linesFrom_append plain [] []
  rw [List.append_nil, List.append_nil] at whole
  rw [lines, whole, linesFrom, if_neg (by simpa using some), List.reverse_reverse]

namespace Table

variable {t : Table} {options : ScanOptions} {number : Nat} {cur : Cursor} {r : Rule} {m : Match}

/-- The match of the rule that matches first is that of its pattern. -/
theorem matchOn?_of_firstMatch? (h : t.firstMatch? cur = some (r, m)) :
    r.pattern.matchOn? cur.rest = some m := by
  obtain ⟨q, -, hq⟩ := List.exists_of_findSome?_eq_some h
  obtain ⟨m', hm, eq⟩ := Option.map_eq_some_iff.1 hq
  obtain ⟨rfl, rfl⟩ := Prod.mk.inj eq
  exact hm

/-- **The rule that matches first** is eligible and matches, and no eligible rule in front of it
does. -/
theorem firstMatch?_eq_of_split {before after : List Rule} (split : t.rules = before ++ r :: after)
    (eligible : r.eligible cur.last = true) (found : r.pattern.matchOn? cur.rest = some m)
    (others : ∀ q ∈ before, q.eligible cur.last = true → q.pattern.matchOn? cur.rest = none) :
    t.firstMatch? cur = some (r, m) := by
  have none_before : (before.filter (·.eligible cur.last)).findSome?
      (fun rule => (rule.pattern.matchOn? cur.rest).map fun m => (rule, m)) = none := by
    refine List.findSome?_eq_none_iff.2 fun q hq => ?_
    obtain ⟨hq, held⟩ := List.mem_filter.1 hq
    rw [others q hq held, Option.map_none]
  rw [firstMatch?, split, List.filter_append, List.filter_cons, if_pos eligible,
    List.findSome?_append, none_before, Option.none_or, List.findSome?_cons, found]
  rfl

theorem rest_ne_nil_of_firstMatch? (h : t.firstMatch? cur = some (r, m)) (some : m.text ≠ []) :
    cur.rest ≠ [] := by
  intro ends
  obtain ⟨tail, split⟩ := Pattern.append_of_matchOn? (matchOn?_of_firstMatch? h)
  rw [ends] at split
  exact some (List.append_eq_nil_iff.1 (List.append_eq_nil_iff.1 split.symm).1).2

/-- The rule that matches first decides about the step. -/
theorem step_of_firstMatch? (h : t.firstMatch? cur = some (r, m)) (some : m.text ≠ []) :
    t.step options number cur = r.accept number cur m := by
  simp only [step, h, List.isEmpty_iff, if_neg some]

theorem scanLine_of_end (ends : cur.rest = []) : t.scanLine options number cur = .ok [] := by
  rw [scanLine_eq, if_pos ends]

section Held

variable {column : Nat} {w tail value : List Char} {last : Option String}
  {captures : List (Option (List Char))}

/-- The cursor behind a match that begins where it stands. -/
theorem past_held : Cursor.past ⟨column, w ++ tail, last⟩ ⟨[], w, captures⟩ =
    ⟨column + w.length, tail, last⟩ := by
  simp only [Cursor.past, Match.extent, List.length_nil, Nat.zero_add, List.drop_left]

/-- **Behind a match that is passed over** the scan goes on as if nothing had been there. -/
theorem scanLine_of_skips (options : ScanOptions) (number : Nat)
    (h : t.firstMatch? ⟨column, w ++ tail, last⟩ = some (r, ⟨[], w, captures⟩))
    (some : w ≠ []) (skips : r.skips = true) :
    t.scanLine options number ⟨column, w ++ tail, last⟩ =
      t.scanLine options number ⟨column + w.length, tail, last⟩ := by
  have step : t.step options number ⟨column, w ++ tail, last⟩ =
      .ok (none, ⟨column + w.length, tail, last⟩) := by
    rw [step_of_firstMatch? h some, Rule.accept, if_pos skips, past_held]
  rw [scanLine_eq, if_neg (rest_ne_nil_of_firstMatch? h some), step]
  show (t.scanLine options number ⟨column + w.length, tail, last⟩).map ([] ++ ·) = _
  cases t.scanLine options number ⟨column + w.length, tail, last⟩ <;> rfl

/-- **Behind a match that yields a token** the scan goes on, the rule being the last one that
matched. -/
theorem scanLine_of_yields (options : ScanOptions) (number : Nat)
    (h : t.firstMatch? ⟨column, w ++ tail, last⟩ = some (r, ⟨[], w, captures⟩)) (some : w ≠ [])
    (kept : r.skips = false) (uncalled : r.onMatch = none)
    (selected : Match.group? ⟨[], w, captures⟩ (r.capture.getD 0) = .some value) :
    t.scanLine options number ⟨column, w ++ tail, last⟩ =
      (t.scanLine options number ⟨column + w.length, tail, .some r.name⟩).map
        (⟨r.name, String.ofList value, number⟩ :: ·) := by
  have step : t.step options number ⟨column, w ++ tail, last⟩ =
      .ok (.some ⟨r.name, String.ofList value, number⟩,
        ⟨column + w.length, tail, .some r.name⟩) := by
    rw [step_of_firstMatch? h some, Rule.accept, if_neg (by rw [kept]; exact Bool.false_ne_true),
      past_held]
    simp only [selected, uncalled, Rule.settle]
    rfl
  rw [scanLine_eq, if_neg (rest_ne_nil_of_firstMatch? h some), step]
  rfl

end Held

/-- A text without line feeds is scanned as one line. -/
theorem scan_of_plain {text : String} (plain : '\n' ∉ text.toList) (some : text.toList ≠ []) :
    t.scan options text = t.scanLine options 0 (.ofLine text.toList) := by
  rw [scan, Text.lines_of_plain plain some, scanLines]
  cases t.scanLine options 0 (.ofLine text.toList) with
  | error fault => rfl
  | ok tokens => exact congrArg Except.ok (List.append_nil tokens)

end Table

end RuleLexer
