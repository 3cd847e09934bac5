import RuleLexer.Proofs.Scan.Run

/-!
# Simulations between scans

Two scans that take the same steps yield the same, whatever "the same" is to mean. The scans may be
those of two tables, with two choices of options, and they may stand at two cursors; what has to be
shown is about one step only:

* `Table.Simulation` — cursors that are related end together, and a step from related cursors yields
  the same token and leads to related cursors again, or ends with faults that are related.

From this follow the same tokens or related faults for a line (`Simulation.scanLine`), and for all
lines of a text, if every line is begun at related cursors (`scan_alike`). The induction over the
steps of a line is done here, once. Where both scans stand at the same cursors, it is enough that
the steps are alike as long as some invariant holds (`scan_alike_of_invariant`), or at every cursor
(`scan_alike_of_step`).
-/

namespace RuleLexer

namespace Table

/-- **A simulation** between the scans of two tables on a line of some number, along a relation of
cursors and a relation of faults. -/
structure Simulation (t t' : Table) (options options' : ScanOptions) (number : Nat)
    (Sim : Cursor → Cursor → Prop) (R : Fault → Fault → Prop) : Prop where
  /-- Both are at the end of their lines, or neither. -/
  done : ∀ {cur cur' : Cursor}, Sim cur cur' → (cur.rest = [] ↔ cur'.rest = [])
  /-- A step keeps to the relations, with the same token. -/
  step : ∀ {cur cur' : Cursor}, Sim cur cur' → cur.rest ≠ [] →
    Alike (fun found found' => found.1 = found'.1 ∧ Sim found.2 found'.2) R
      (t.step options number cur) (t'.step options' number cur')

variable {t t' : Table} {options options' : ScanOptions} {Sim : Cursor → Cursor → Prop}
  {R : Fault → Fault → Prop}

/-- **Scans of a line that take the same steps** yield the same tokens, or related faults. -/
theorem Simulation.scanLine {number : Nat} (sim : Simulation t t' options options' number Sim R)
    {cur cur' : Cursor} (h : Sim cur cur') :
    Alike Eq R (t.scanLine options number cur) (t'.scanLine options' number cur') := by
  -- every step leaves fewer characters
  induction hn : cur.rest.length using Nat.strongRecOn generalizing cur cur' with
  | ind n ih =>
    subst hn
    rw [scanLine_eq, scanLine_eq]
    by_cases hend : cur.rest = []
    · rw [if_pos hend, if_pos ((sim.done h).1 hend)]
      exact .ok rfl
    · have hend' : cur'.rest ≠ [] := fun hnil => hend ((sim.done h).2 hnil)
      rw [if_neg hend, if_neg hend']
      refine (sim.step h hend).bind fun found found' hstep ⟨htoken, hnext⟩ => ?_
      have hlt : found.2.rest.length < cur.rest.length := rest_step_lt hend hstep
      -- the tokens of the step are the same, and those of the rest are by induction
      refine (ih _ hlt hnext rfl).map fun tokens tokens' htokens => ?_
      rw [htoken, htokens]

theorem scanLines_alike (sim : ∀ number, Simulation t t' options options' number Sim R)
    (number : Nat) {lines : List (List Char)}
    (start : ∀ line ∈ lines, Sim (.ofLine line) (.ofLine line)) :
    Alike Eq R (t.scanLines options number lines) (t'.scanLines options' number lines) := by
  induction lines generalizing number with
  | nil => exact .ok rfl
  | cons line lines ih =>
    rw [scanLines, scanLines]
    -- the relation need not survive the end of a line, since the next one is begun anew
    have hline := (sim number).scanLine (start line List.mem_cons_self)
    have hlines := ih (number + 1) fun l hl => start l (List.mem_cons_of_mem line hl)
    refine hline.bind fun tokens tokens' _ htokens => ?_
    refine hlines.bind fun later later' _ hlater => .ok ?_
    rw [htokens, hlater]

/-- **Scans of a text that take the same steps** yield the same tokens, or related faults. -/
theorem scan_alike (sim : ∀ number, Simulation t t' options options' number Sim R)
    {text : String} (start : ∀ line ∈ Text.lines text.toList, Sim (.ofLine line) (.ofLine line)) :
    Alike Eq R (t.scan options text) (t'.scan options' text) :=
  scanLines_alike sim 0 start

/-- **Tables whose steps are alike at every cursor that is met** scan alike: at cursors of which an
invariant holds, which holds at the start of every line and is kept by every step. -/
theorem scan_alike_of_invariant {P : Cursor → Prop} {text : String}
    (start : ∀ line ∈ Text.lines text.toList, P (.ofLine line))
    (keeps : ∀ number cur token next, P cur →
      t.step options number cur = .ok (token, next) → P next)
    (alike : ∀ number cur, P cur → cur.rest ≠ [] →
      Alike Eq R (t.step options number cur) (t'.step options' number cur)) :
    Alike Eq R (t.scan options text) (t'.scan options' text) := by
  -- the simulation is along the equality of cursors
  have sim : ∀ number, Simulation t t' options options' number
      (fun cur cur' => cur = cur' ∧ P cur) R := by
    intro number
    constructor
    · rintro cur _ ⟨rfl, -⟩
      exact Iff.rfl
    · rintro cur _ ⟨rfl, hP⟩ hmore
      refine (alike number cur hP hmore).imp ?_
      rintro ⟨token, next⟩ _ hstep rfl
      exact ⟨rfl, rfl, keeps number cur token next hP hstep⟩
  exact scan_alike sim fun line hline => ⟨rfl, start line hline⟩

/-- **Tables whose steps are alike at every cursor** scan alike. -/
theorem scan_alike_of_step
    (alike : ∀ number cur, Alike Eq R (t.step options number cur) (t'.step options' number cur))
    (text : String) : Alike Eq R (t.scan options text) (t'.scan options' text) :=
  scan_alike_of_invariant (P := fun _ => True) (fun _ _ => trivial) (fun _ _ _ _ _ _ => trivial)
    fun number cur _ _ => alike number cur

end Table

end RuleLexer
