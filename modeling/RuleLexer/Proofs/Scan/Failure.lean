import RuleLexer.Proofs.Scan.Simulation

/-!
# Failures of a scan

A scan that fails, fails at one step: the lines before are scanned, a run leads to a spot on the
line, and the step at that spot fails (`Table.scanLines_eq_error_iff`,
`Table.scanLine_eq_error_iff`).

The step fails for want of a match when no eligible rule matches. Which descriptor then words the
fault is told by `Table.Selects`: that of the first rule that was *due*, else that of the first rule
that was *held* back, else the fallback of the table, else none. The main statement,
`Table.selects_of_reaches`, is that a scan that reaches such a spot fails with the fault that the
selected descriptor makes of it. Rules are due only after a match of the rule that they depend on,
so none is due as long as all rules that matched skip; and the descriptors of rules without a
dependency can be changed at will (`Table.scan_redescribe`).
-/

namespace RuleLexer

open Text (byteLength)

/-! ### Where a scan fails -/

/-- A match that has a character is refused for want of the group that the rule selects, or by the
callback of the rule; never if the rule skips. -/
theorem Rule.accept_eq_error {r : Rule} {number : Nat} {cur : Cursor} {m : Match} {fault : Fault}
    (h : r.accept number cur m = .error fault) :
    r.skips = false ∧
      ((m.group? (r.capture.getD 0) = none ∧
          fault = .captureMissing r.name (r.capture.getD 0) number cur.column) ∨
        ∃ value f message, m.group? (r.capture.getD 0) = some value ∧ r.onMatch = some f ∧
          f ⟨r.name, String.ofList value, number⟩ = .error message ∧ fault = .refused message) := by
  unfold accept at h
  by_cases hskips : r.skips = true
  · rw [if_pos hskips] at h
    exact absurd h (by simp)
  · rw [if_neg hskips] at h
    refine ⟨Bool.eq_false_iff.2 hskips, ?_⟩
    dsimp only at h
    -- without the group there is no token that a callback could see
    cases hsel : m.group? (r.capture.getD 0) with
    | none =>
      rw [hsel] at h
      exact Or.inl ⟨rfl, (Except.error.inj h).symm⟩
    | some value =>
      rw [hsel] at h
      rcases bind_eq_error_iff.1 h with hsettle | ⟨_, _, ⟨⟩⟩
      cases hf : r.onMatch with
      | none =>
        rw [hf] at hsettle
        exact absurd hsettle (by simp [settle])
      | some f =>
        rw [hf] at hsettle
        simp only [settle] at hsettle
        split at hsettle
        · next message hsays =>
          exact Or.inr ⟨value, f, message, rfl, rfl, hsays, (Except.error.inj hsettle).symm⟩
        all_goals exact absurd hsettle (by simp)

namespace Table

variable {t : Table} {options : ScanOptions}

/-- **The ways in which a step fails**: no eligible rule matches, or the match that counts is empty,
or it is refused. -/
theorem step_eq_error {number : Nat} {line : List Char} {cur : Cursor} {s : Spot} {fault : Fault}
    (h : cur.At line s) (hstep : t.step options number cur = .error fault) :
    ((∀ r ∈ t.rules, ¬ Matches line s r) ∧ fault = t.noMatch options number cur) ∨
      ∃ r m, t.Picks line s r m ∧
        ((m.text = [] ∧ fault = .zeroWidth r.name number cur.column) ∨
          (m.text ≠ [] ∧ r.accept number cur m = .error fault)) := by
  unfold step at hstep
  cases hfirst : t.firstMatch? cur with
  | none =>
    rw [hfirst] at hstep
    exact Or.inl ⟨(firstMatch?_eq_none_iff h).1 hfirst, (Except.error.inj hstep).symm⟩
  | some found =>
    obtain ⟨r, m⟩ := found
    rw [hfirst] at hstep
    refine Or.inr ⟨r, m, (firstMatch?_eq_some_iff h).1 hfirst, ?_⟩
    by_cases hempty : m.text = []
    · dsimp only at hstep
      rw [if_pos (List.isEmpty_iff.2 hempty)] at hstep
      exact Or.inl ⟨hempty, (Except.error.inj hstep).symm⟩
    · dsimp only at hstep
      rw [if_neg fun hnil => hempty (List.isEmpty_iff.1 hnil)] at hstep
      exact Or.inr ⟨hempty, hstep⟩

/-- **A scan of a line fails at one step**, which a run leads to. -/
theorem scanLine_eq_error_iff {number : Nat} {line : List Char} {cur : Cursor} {s : Spot}
    {fault : Fault} (h : cur.At line s) :
    t.scanLine options number cur = .error fault ↔ ∃ trace tokens s' cur',
      t.Run number line s trace tokens s' ∧ cur'.At line s' ∧ cur'.rest ≠ [] ∧
        t.step options number cur' = .error fault := by
  constructor
  · intro hscan
    -- every step leaves fewer characters
    induction hn : cur.rest.length using Nat.strongRecOn generalizing cur s with
    | ind n ih =>
      subst hn
      rw [scanLine_eq] at hscan
      by_cases hend : cur.rest = []
      · rw [if_pos hend] at hscan
        exact absurd hscan (by simp)
      · rw [if_neg hend] at hscan
        rcases bind_eq_error_iff.1 hscan with hstep | ⟨⟨token, next⟩, hstep, hmap⟩
        · exact ⟨[], [], s, cur, .stop s, h, hend, hstep⟩
        · have hlt := rest_step_lt hend hstep
          obtain ⟨r, m, last, hpicks, hsome, hleaves, rfl⟩ := (step_eq_ok_iff h).1 hstep
          obtain ⟨trace, tokens, s', cur', hrun, hat, hmore, hfails⟩ :=
            ih _ hlt (hpicks.at_past h last) (map_eq_error_iff.1 hmap) rfl
          exact ⟨_, _, s', cur', .move hpicks hsome hleaves hrun, hat, hmore, hfails⟩
  · rintro ⟨trace, tokens, s', cur', hrun, hat, hmore, hfails⟩
    obtain ⟨cur'', hat', hscan⟩ := hrun.scanLine_eq h
    -- only one cursor stands at the spot where the run ends
    obtain rfl := hat'.unique hat
    rw [hscan, scanLine_eq, if_neg hmore, hfails]
    rfl

/-- **A scan of several lines fails on one of them**, and the lines before it have runs. -/
theorem scanLines_eq_error_iff {number : Nat} {lines : List (List Char)} {fault : Fault} :
    t.scanLines options number lines = .error fault ↔ ∃ i line, lines[i]? = some line ∧
      (∀ j l, j < i → lines[j]? = some l → ∃ tokens, t.Covers (l, number + j) tokens) ∧
      t.scanLine options (number + i) (.ofLine line) = .error fault := by
  -- on the lines; the first one fails, or it has a run and one of the others fails
  induction lines generalizing number with
  | nil =>
    constructor
    · rintro ⟨⟩
    · rintro ⟨i, line, hline, -⟩
      exact absurd hline (by simp)
  | cons line lines ih =>
    rw [scanLines, bind_eq_error_iff]
    constructor
    · rintro (hfirst | ⟨tokens, hline, hbind⟩)
      · exact ⟨0, line, rfl, fun j l hj => absurd hj (Nat.not_lt_zero j), hfirst⟩
      · rcases bind_eq_error_iff.1 hbind with hrest | ⟨_, _, ⟨⟩⟩
        obtain ⟨i, l, hl, hbefore, hfails⟩ := ih.1 hrest
        refine ⟨i + 1, l, hl, fun j l' hj hl' => ?_, ?_⟩
        · cases j with
          | zero =>
            obtain rfl := Option.some.inj hl'
            exact ⟨tokens, (scanLine_eq_ok_iff (Cursor.at_ofLine line)).1 hline⟩
          | succ j =>
            obtain ⟨tokens', hcovers⟩ := hbefore j l' (by omega) hl'
            exact ⟨tokens', by rw [← Nat.add_assoc, Nat.add_right_comm]; exact hcovers⟩
        · rw [← Nat.add_assoc, Nat.add_right_comm]
          exact hfails
    · rintro ⟨i, l, hl, hbefore, hfails⟩
      cases i with
      | zero =>
        obtain rfl := Option.some.inj hl
        exact Or.inl hfails
      | succ i =>
        obtain ⟨tokens, hcovers⟩ := hbefore 0 line (Nat.zero_lt_succ i) rfl
        refine Or.inr ⟨tokens, (scanLine_eq_ok_iff (Cursor.at_ofLine line)).2 hcovers, ?_⟩
        refine bind_eq_error_iff.2 (Or.inl (ih.2 ⟨i, l, hl, fun j l' hj hl' => ?_, ?_⟩))
        · obtain ⟨tokens', hcovers'⟩ := hbefore (j + 1) l' (by omega) hl'
          exact ⟨tokens', by rw [Nat.add_right_comm, Nat.add_assoc]; exact hcovers'⟩
        · rw [Nat.add_right_comm, Nat.add_assoc]
          exact hfails

/-! ### The descriptor that words a failure -/

/-- A rule was tried because the rule that it depends on matched last, and it describes failures. -/
def Due (last : Option String) (r : Rule) : Prop :=
  (r.dependsOn.isSome = true ∧ r.eligible last = true) ∧ r.descriptor.isSome = true

/-- A rule was left out because another rule than the one that it depends on matched last, and it
describes failures. -/
def Held (last : Option String) (r : Rule) : Prop :=
  r.eligible last = false ∧ r.descriptor.isSome = true

/-- Only a rule that depends on another one is ever left out. -/
theorem Held.dependsOn {last : Option String} {r : Rule} (h : Held last r) :
    r.dependsOn.isSome = true := by
  obtain ⟨hel, -⟩ := h
  cases hdep : r.dependsOn with
  | none =>
    rw [Rule.eligible, hdep] at hel
    exact absurd hel (by simp)
  | some dependency => rfl

/-- Where the wording of a failure comes from. -/
inductive Origin
  /-- From a rule that was due. -/
  | due
  /-- From a rule that was held back. -/
  | held
  /-- From the table. -/
  | fallback
  /-- From nowhere: it is the usual one. -/
  | usual
  deriving DecidableEq, Repr

/-- **The selection of a descriptor** where no rule matches, `last` being the rule that matched
last: the first rule that is due comes before any rule that is held back, wherever they stand, and
both come before the fallback of the table. -/
inductive Selects (t : Table) (last : Option String) : Origin → Option Descriptor → Prop
  /-- The first rule that is due. -/
  | due {r : Rule} {d : Descriptor} (first : t.First (Due last) r)
      (brings : r.descriptor = some d) :
      Selects t last .due (some d)
  /-- No rule is due, and it is the first rule that is held back. -/
  | held {r : Rule} {d : Descriptor} (notDue : ∀ q ∈ t.rules, ¬ Due last q)
      (first : t.First (Held last) r) (brings : r.descriptor = some d) :
      Selects t last .held (some d)
  /-- No rule is due or held back, and the table has a fallback. -/
  | fallback {d : Descriptor} (notDue : ∀ q ∈ t.rules, ¬ Due last q)
      (notHeld : ∀ q ∈ t.rules, ¬ Held last q) (brings : t.fallback = some d) :
      Selects t last .fallback (some d)
  /-- No rule is due or held back, and the table has no fallback. -/
  | usual (notDue : ∀ q ∈ t.rules, ¬ Due last q) (notHeld : ∀ q ∈ t.rules, ¬ Held last q)
      (noFallback : t.fallback = none) : Selects t last .usual none

/-- The fault that a selected descriptor makes of a failure, or the usual one without. -/
def report (choice : Option Descriptor) (line column : Nat) (text : String) : Fault :=
  match choice with
  | some d => .ofDescriptor d line column text
  | none => .unexpected line column text

theorem due_iff {last : Option String} {r : Rule} :
    ((r.dependsOn.isSome && r.eligible last) = true ∧ r.descriptor.isSome = true) ↔ Due last r := by
  rw [Due, Bool.and_eq_true]

theorem held_iff {last : Option String} {r : Rule} :
    ((!r.eligible last) = true ∧ r.descriptor.isSome = true) ↔ Held last r := by
  rw [Held, Bool.not_eq_true']

/-- The descriptors that the table looks up are those of the rules that the selection names. -/
theorem dueDescriptor?_eq_some_iff {last : Option String} {d : Descriptor} :
    t.dueDescriptor? last = some d ↔ ∃ r, t.First (Due last) r ∧ r.descriptor = some d := by
  rw [dueDescriptor?, findSome?_filter_eq_some_iff]
  simp only [due_iff]

theorem dueDescriptor?_eq_none_iff {last : Option String} :
    t.dueDescriptor? last = none ↔ ∀ q ∈ t.rules, ¬ Due last q := by
  rw [dueDescriptor?, findSome?_filter_eq_none_iff]
  simp only [due_iff]

theorem heldDescriptor?_eq_some_iff {last : Option String} {d : Descriptor} :
    t.heldDescriptor? last = some d ↔ ∃ r, t.First (Held last) r ∧ r.descriptor = some d := by
  rw [heldDescriptor?, findSome?_filter_eq_some_iff]
  simp only [held_iff]

theorem heldDescriptor?_eq_none_iff {last : Option String} :
    t.heldDescriptor? last = none ↔ ∀ q ∈ t.rules, ¬ Held last q := by
  rw [heldDescriptor?, findSome?_filter_eq_none_iff]
  simp only [held_iff]

/-- **The selection is determined** by the table and the rule that matched last. -/
theorem Selects.unique {last : Option String} {origin origin' : Origin}
    {choice choice' : Option Descriptor} (h : t.Selects last origin choice)
    (h' : t.Selects last origin' choice') : origin = origin' ∧ choice = choice' := by
  -- each origin is chosen only where none before it has anything to choose
  cases h with
  | due hfirst hbrings =>
    cases h' with
    | due hfirst' hbrings' =>
      obtain rfl := hfirst.unique hfirst'
      exact ⟨rfl, hbrings.symm.trans hbrings'⟩
    | held hnotDue => exact absurd hfirst.1 (hnotDue _ hfirst.mem)
    | fallback hnotDue => exact absurd hfirst.1 (hnotDue _ hfirst.mem)
    | usual hnotDue => exact absurd hfirst.1 (hnotDue _ hfirst.mem)
  | held hnotDue hfirst hbrings =>
    cases h' with
    | due hfirst' => exact absurd hfirst'.1 (hnotDue _ hfirst'.mem)
    | held _ hfirst' hbrings' =>
      obtain rfl := hfirst.unique hfirst'
      exact ⟨rfl, hbrings.symm.trans hbrings'⟩
    | fallback _ hnotHeld => exact absurd hfirst.1 (hnotHeld _ hfirst.mem)
    | usual _ hnotHeld => exact absurd hfirst.1 (hnotHeld _ hfirst.mem)
  | fallback hnotDue hnotHeld hbrings =>
    cases h' with
    | due hfirst' => exact absurd hfirst'.1 (hnotDue _ hfirst'.mem)
    | held _ hfirst' => exact absurd hfirst'.1 (hnotHeld _ hfirst'.mem)
    | fallback _ _ hbrings' => exact ⟨rfl, hbrings.symm.trans hbrings'⟩
    | usual _ _ hnone => exact absurd (hbrings.symm.trans hnone) (by simp)
  | usual hnotDue hnotHeld hnone =>
    cases h' with
    | due hfirst' => exact absurd hfirst'.1 (hnotDue _ hfirst'.mem)
    | held _ hfirst' => exact absurd hfirst'.1 (hnotHeld _ hfirst'.mem)
    | fallback _ _ hbrings' => exact absurd (hbrings'.symm.trans hnone) (by simp)
    | usual => exact ⟨rfl, rfl⟩

/-- A selected descriptor is that of a rule with a dependency, or the fallback of the table. -/
theorem Selects.brings {last : Option String} {origin : Origin} {d : Descriptor}
    (h : t.Selects last origin (some d)) :
    t.fallback = some d ∨ ∃ r ∈ t.rules, r.dependsOn.isSome = true ∧ r.descriptor = some d := by
  cases h with
  | due hfirst hbrings => exact Or.inr ⟨_, hfirst.mem, hfirst.1.1.1, hbrings⟩
  | held _ hfirst hbrings => exact Or.inr ⟨_, hfirst.mem, hfirst.1.dependsOn, hbrings⟩
  | fallback _ _ hbrings => exact Or.inl hbrings

/-- **Something is selected**, and the fault where no rule matches is what it makes of the
failure. -/
theorem exists_selects_noMatch (t : Table) (options : ScanOptions) (number : Nat) (cur : Cursor) :
    ∃ origin choice, t.Selects cur.last origin choice ∧ t.noMatch options number cur =
      report choice number cur.column (excerpt cur.rest options.maxErrorText) := by
  unfold noMatch
  cases hdue : t.dueDescriptor? cur.last with
  | some d =>
    obtain ⟨r, hfirst, hbrings⟩ := dueDescriptor?_eq_some_iff.1 hdue
    exact ⟨.due, some d, .due hfirst hbrings, rfl⟩
  | none =>
    have hnotDue := dueDescriptor?_eq_none_iff.1 hdue
    cases hheld : t.heldDescriptor? cur.last with
    | some d =>
      obtain ⟨r, hfirst, hbrings⟩ := heldDescriptor?_eq_some_iff.1 hheld
      exact ⟨.held, some d, .held hnotDue hfirst hbrings, rfl⟩
    | none =>
      have hnotHeld := heldDescriptor?_eq_none_iff.1 hheld
      cases hfallback : t.fallback with
      | some d => exact ⟨.fallback, some d, .fallback hnotDue hnotHeld hfallback, rfl⟩
      | none => exact ⟨.usual, none, .usual hnotDue hnotHeld hfallback, rfl⟩

/-- Where no rule matches, the fault is what the selected descriptor makes of the failure. -/
theorem noMatch_eq_report {number : Nat} {cur : Cursor} {origin : Origin}
    {choice : Option Descriptor} (selects : t.Selects cur.last origin choice) :
    t.noMatch options number cur =
      report choice number cur.column (excerpt cur.rest options.maxErrorText) := by
  obtain ⟨origin', choice', hselects, hreport⟩ := t.exists_selects_noMatch options number cur
  obtain ⟨-, rfl⟩ := selects.unique hselects
  exact hreport

/-- No rule is due when no rule matched last. -/
theorem not_due_none (r : Rule) : ¬ Due none r := by
  rintro ⟨⟨hdep, hel⟩, -⟩
  obtain ⟨dependency, hdep⟩ := Option.isSome_iff_exists.1 hdep
  rw [Rule.eligible, hdep] at hel
  exact absurd hel (by simp)

/-- Where a run ends, a cursor stands. -/
theorem Run.exists_at {number : Nat} {line : List Char} {cur : Cursor} {s s' : Spot}
    {trace : List (Rule × Match)} {tokens : List Token}
    (hrun : t.Run number line s trace tokens s') (h : cur.At line s) :
    ∃ cur' : Cursor, cur'.At line s' := by
  obtain ⟨cur', hat, -⟩ := @Run.scanLine_eq t {} number line cur s s' trace tokens hrun h
  exact ⟨cur', hat⟩

/-- A run of skipping matches leaves no rule as the one that matched last. -/
theorem Run.last_eq {number : Nat} {line : List Char} {s s' : Spot} {trace : List (Rule × Match)}
    {tokens : List Token} (hrun : t.Run number line s trace tokens s')
    (skips : ∀ p ∈ trace, p.1.skips = true) : s'.last = s.last := by
  induction hrun with
  | stop => rfl
  | @move s s' r m out tokens last trace hpicks hsome hleaves hrest ih =>
    have hr : r.skips = true := skips (r, m) List.mem_cons_self
    rw [ih fun p hp => skips p (List.mem_cons_of_mem _ hp)]
    cases hleaves with
    | skip => rfl
    | keep h => exact absurd (hr.symm.trans h) (by simp)
    | replace h => exact absurd (hr.symm.trans h) (by simp)
    | suppress h => exact absurd (hr.symm.trans h) (by simp)

/-- **A scan reaches a spot** on a line: all lines before have runs over all of them, and a run
leads to the spot, which is not the end of the line. -/
structure Reaches (t : Table) (text : String) (number : Nat) (line : List Char)
    (trace : List (Rule × Match)) (s : Spot) : Prop where
  /-- The line is the one of that number. -/
  onLine : (Text.lines text.toList)[number]? = some line
  /-- The lines before are scanned. -/
  before : ∀ i l, i < number → (Text.lines text.toList)[i]? = some l →
    ∃ tokens, t.Covers (l, i) tokens
  /-- The matches lead to the spot. -/
  run : ∃ tokens, t.Run number line .start trace tokens s
  /-- There is something left. -/
  more : s.offset < byteLength line

/-- A scan that reaches a spot where the step fails, fails with that fault. -/
theorem Reaches.scan_eq {text : String} {number : Nat} {line : List Char}
    {trace : List (Rule × Match)} {s : Spot} {fault : Fault}
    (h : t.Reaches text number line trace s)
    (fails : ∀ cur : Cursor, cur.At line s → t.step options number cur = .error fault) :
    t.scan options text = .error fault := by
  obtain ⟨tokens, hrun⟩ := h.run
  obtain ⟨cur, hat⟩ := hrun.exists_at (Cursor.at_ofLine line)
  have hmore : cur.rest ≠ [] := fun hend => absurd h.more (by
    rw [hat.rest_eq_nil_iff.1 hend]
    exact Nat.lt_irrefl _)
  refine scanLines_eq_error_iff.2 ⟨number, line, h.onLine, fun i l hi hl => ?_, ?_⟩
  · rw [Nat.zero_add]
    exact h.before i l hi hl
  · rw [Nat.zero_add]
    exact (scanLine_eq_error_iff (Cursor.at_ofLine line)).2
      ⟨trace, tokens, s, cur, hrun, hat, hmore, fails cur hat⟩

/-- A scan that reaches a spot where no rule matches, fails as the selected descriptor says. -/
theorem Reaches.scan_eq_report {text : String} {number : Nat} {line start rest : List Char}
    {trace : List (Rule × Match)} {s : Spot} {origin : Origin} {choice : Option Descriptor}
    (h : t.Reaches text number line trace s) (unmatched : ∀ r ∈ t.rules, ¬ Matches line s r)
    (selects : t.Selects s.last origin choice) (split : line = start ++ rest)
    (offset : s.offset = byteLength start) :
    t.scan options text =
      .error (report choice number start.length (excerpt rest options.maxErrorText)) := by
  have hat : Cursor.At line ⟨start.length, rest, s.last⟩ s := ⟨⟨start, split, rfl, offset⟩, rfl⟩
  refine h.scan_eq fun cur hcur => ?_
  obtain rfl := hcur.unique hat
  rw [step, (firstMatch?_eq_none_iff hcur).2 unmatched]
  exact congrArg Except.error (noMatch_eq_report selects)

/-! ### Descriptors that are never used -/

/-- A rule with another descriptor, or none, if it depends on no other rule. -/
def redescribed (f : Rule → Option Descriptor) (r : Rule) : Rule :=
  if r.dependsOn.isNone then { r with descriptor := f r } else r

/-- The table with other descriptors, or none, for the rules that depend on no other rule. -/
def redescribe (t : Table) (f : Rule → Option Descriptor) : Table :=
  { t with rules := t.rules.map (redescribed f) }

section Redescribe

variable (f : Rule → Option Descriptor)

/-- Everything but the descriptor stays. -/
theorem redescribed_eq (r : Rule) :
    redescribed f r = { r with descriptor := (redescribed f r).descriptor } := by
  unfold redescribed
  split <;> rfl

/-- A rule that depends on another one keeps its descriptor. -/
theorem redescribed_of_dependsOn {r : Rule} (h : r.dependsOn.isSome = true) :
    redescribed f r = r := by
  have hnone : ¬ r.dependsOn.isNone = true := by
    rw [Option.isNone_eq_false_iff.2 h]
    exact Bool.false_ne_true
  rw [redescribed, if_neg hnone]

/-- Among rules that depend on others, chosen without regard to descriptors, the same one brings the
first descriptor. -/
theorem findSome?_redescribe (t : Table) (p : Rule → Bool)
    (same : ∀ r, p (redescribed f r) = p r)
    (dependent : ∀ r, p r = true → r.dependsOn.isSome = true) :
    ((t.redescribe f).rules.filter p).findSome? (·.descriptor) =
      (t.rules.filter p).findSome? (·.descriptor) := by
  have hcomp : p ∘ redescribed f = p := funext same
  -- none of the rules that are chosen gets another descriptor
  have hkeep : (t.rules.filter p).map (redescribed f) = (t.rules.filter p).map id :=
    List.map_congr_left fun r hr =>
      redescribed_of_dependsOn f (dependent r (List.mem_filter.1 hr).2)
  calc ((t.rules.map (redescribed f)).filter p).findSome? (·.descriptor)
      = ((t.rules.filter p).map (redescribed f)).findSome? (·.descriptor) := by
        rw [List.filter_map, hcomp]
    _ = (t.rules.filter p).findSome? (·.descriptor) := by rw [hkeep, List.map_id]

theorem noMatch_redescribe (t : Table) (number : Nat) (cur : Cursor) :
    (t.redescribe f).noMatch options number cur = t.noMatch options number cur := by
  have hdue : (t.redescribe f).dueDescriptor? cur.last = t.dueDescriptor? cur.last := by
    refine findSome?_redescribe f t _ (fun r => ?_) fun r hr => (Bool.and_eq_true_iff.1 hr).1
    rw [redescribed_eq]
    rfl
  have hheld : (t.redescribe f).heldDescriptor? cur.last = t.heldDescriptor? cur.last := by
    refine findSome?_redescribe f t _ (fun r => ?_) fun r hr => ?_
    · rw [redescribed_eq]
      rfl
    · cases hdep : r.dependsOn with
      | none =>
        rw [Rule.eligible, hdep] at hr
        exact absurd hr (by simp)
      | some dependency => rfl
  rw [noMatch, noMatch, hdue, hheld]
  rfl

theorem firstMatch?_redescribe (t : Table) (cur : Cursor) :
    (t.redescribe f).firstMatch? cur =
      (t.firstMatch? cur).map fun found => (redescribed f found.1, found.2) :=
  firstMatch?_map (fun r => by rw [redescribed_eq]) (fun r => by rw [redescribed_eq]) t cur

theorem step_redescribe (t : Table) (number : Nat) (cur : Cursor) :
    (t.redescribe f).step options number cur = t.step options number cur := by
  rw [step, step, firstMatch?_redescribe]
  cases t.firstMatch? cur with
  | none => exact congrArg Except.error (noMatch_redescribe f t number cur)
  | some found =>
    obtain ⟨r, m⟩ := found
    dsimp only [Option.map_some]
    rw [redescribed_eq]
    rfl

theorem scan_redescribe (t : Table) (options : ScanOptions) (text : String) :
    (t.redescribe f).scan options text = t.scan options text :=
  alike_eq_iff.1 (scan_alike_of_step
    (fun number cur => alike_eq_iff.2 (step_redescribe f t number cur)) text)

end Redescribe

/-- A fault that is worded by a descriptor stems from the fallback of the table, or from a rule that
depends on another one. -/
theorem described_of_scan {text : String} {kind message found : String} {number column : Nat}
    (h : t.scan options text = .error (.described kind message number column found)) :
    ∃ d, (t.fallback = some d ∨
        ∃ r ∈ t.rules, r.dependsOn.isSome = true ∧ r.descriptor = some d) ∧
      Fault.described kind message number column found = .ofDescriptor d number column found := by
  obtain ⟨i, line, -, -, hline⟩ := scanLines_eq_error_iff.1 h
  obtain ⟨trace, tokens, s, cur, -, hat, -, hstep⟩ :=
    (scanLine_eq_error_iff (Cursor.at_ofLine line)).1 hline
  rcases step_eq_error hat hstep with ⟨-, hnoMatch⟩ | ⟨r, m, -, ⟨-, ⟨⟩⟩ | ⟨-, haccept⟩⟩
  · obtain ⟨origin, choice, hselects, hreport⟩ := t.exists_selects_noMatch options (0 + i) cur
    rw [hreport] at hnoMatch
    cases choice with
    | none => exact absurd hnoMatch (by simp [report])
    | some d =>
      refine ⟨d, hselects.brings, ?_⟩
      obtain ⟨-, -, rfl, rfl, rfl⟩ := Fault.described.inj hnoMatch
      exact hnoMatch
  · rcases Rule.accept_eq_error haccept with ⟨-, ⟨-, ⟨⟩⟩ | ⟨_, _, _, _, _, _, ⟨⟩⟩⟩

/-- **Which error a scan without a match gives.** A scan that reaches a spot where no eligible rule
matches fails with the fault that the selected descriptor makes of the failure: with the number of
the line, the number of characters before the spot, and what follows it, cut to the length that was
chosen. No rule is due as long as every rule that matched on the line skips. The descriptors of
rules that depend on no other rule have no effect on any scan, and every fault that is worded by a
descriptor stems from the fallback of the table or from a rule that depends on another one. -/
theorem selects_of_reaches (t : Table) (options : ScanOptions) (text : String) :
    (∀ number line trace s, t.Reaches text number line trace s →
      (∀ r ∈ t.rules, ¬ Matches line s r) →
      (∃ origin choice, t.Selects s.last origin choice) ∧
      ∀ origin choice, t.Selects s.last origin choice →
        (∃ start rest, line = start ++ rest ∧ s.offset = byteLength start ∧
          t.scan options text =
            .error (report choice number start.length (excerpt rest options.maxErrorText))) ∧
        ((∀ p ∈ trace, p.1.skips = true) → origin ≠ .due)) ∧
    (∀ f, (t.redescribe f).scan options text = t.scan options text) ∧
    ∀ kind message number column found,
      t.scan options text = .error (.described kind message number column found) →
      ∃ d, (t.fallback = some d ∨
          ∃ r ∈ t.rules, r.dependsOn.isSome = true ∧ r.descriptor = some d) ∧
        Fault.described kind message number column found = .ofDescriptor d number column found := by
  refine ⟨fun number line trace s hreaches hunmatched => ⟨?_, ?_⟩,
    fun f => scan_redescribe f t options text, fun _ _ _ _ _ h => described_of_scan h⟩
  · obtain ⟨origin, choice, hselects, -⟩ := t.exists_selects_noMatch options number ⟨0, [], s.last⟩
    exact ⟨origin, choice, hselects⟩
  · intro origin choice hselects
    obtain ⟨tokens, hrun⟩ := hreaches.run
    obtain ⟨cur, hat⟩ := hrun.exists_at (Cursor.at_ofLine line)
    obtain ⟨start, hsplit, -, hoffset⟩ := hat.split
    refine ⟨⟨start, cur.rest, hsplit, hoffset,
      hreaches.scan_eq_report hunmatched hselects hsplit hoffset⟩, fun hskips hdue => ?_⟩
    -- matches that skip leave no name behind, and without one no rule is due
    have hlast : s.last = none := hrun.last_eq hskips
    subst hdue
    rw [hlast] at hselects
    cases hselects with
    | due hfirst => exact not_due_none _ hfirst.1

/-- Two keywords, each with a rule that depends on it and describes failures. -/
def branching : Table where
  rules :=
    [{ name := "WS", pattern := .ofValid [" +"] (by decide +kernel), skips := true },
     { name := "IF", pattern := .ofValid ["if"] (by decide +kernel) },
     { name := "ELSE", pattern := .ofValid ["else"] (by decide +kernel) },
     { name := "BODY", pattern := .ofValid ["[a-z]"] (by decide +kernel), dependsOn := some "ELSE"
       descriptor := some ⟨"ExpectedBody", "expected a body"⟩ },
     { name := "PAREN", pattern := .ofValid ["\\("] (by decide +kernel), dependsOn := some "IF"
       descriptor := some ⟨"ExpectedParen", "expected '(' at [[COLUMN]]"⟩ }]

/-- After `if` and a blank, the rule that is due words the fault, although a rule that is held back
stands before it. -/
theorem selects_of_reaches_branching : ∃ trace,
    branching.Reaches "if 9" 0 ['i', 'f', ' ', '9'] trace ⟨3, some "IF"⟩ ∧
    (∀ r ∈ branching.rules, ¬ Matches ['i', 'f', ' ', '9'] ⟨3, some "IF"⟩ r) ∧
    branching.Selects (some "IF") .due (some ⟨"ExpectedParen", "expected '(' at [[COLUMN]]"⟩) ∧
    ∃ start rest, ['i', 'f', ' ', '9'] = start ++ rest ∧ 3 = byteLength start ∧
      branching.scan {} "if 9" =
        .error (report (some ⟨"ExpectedParen", "expected '(' at [[COLUMN]]"⟩) 0 start.length
          (excerpt rest 40)) := by
  have hat0 := Cursor.at_ofLine ['i', 'f', ' ', '9']
  have hkeyword : branching.Picks ['i', 'f', ' ', '9'] .start _ _ :=
    (firstMatch?_eq_some_iff hat0).1 rfl
  have hat2 := hkeyword.at_past hat0 (some "IF")
  have hblank : branching.Picks ['i', 'f', ' ', '9'] ⟨2, some "IF"⟩ _ _ :=
    (firstMatch?_eq_some_iff hat2).1 rfl
  have hat3 := hblank.at_past hat2 (some "IF")
  have hunmatched : ∀ r ∈ branching.rules, ¬ Matches ['i', 'f', ' ', '9'] ⟨3, some "IF"⟩ r :=
    (firstMatch?_eq_none_iff hat3).1 rfl
  have hrun : branching.Run 0 ['i', 'f', ' ', '9'] .start _ _ ⟨3, some "IF"⟩ :=
    .move hkeyword (by decide) (.keep rfl rfl fun _ hf => absurd hf (by simp))
      (.move hblank (by decide) (.skip rfl) (.stop _))
  have hlines : Text.lines "if 9".toList = [['i', 'f', ' ', '9']] := by decide +kernel
  have hreaches : branching.Reaches "if 9" 0 ['i', 'f', ' ', '9'] _ ⟨3, some "IF"⟩ :=
    ⟨by rw [hlines]; rfl, fun i _ hi => absurd hi (Nat.not_lt_zero i), ⟨_, hrun⟩, by decide⟩
  have hdue : branching.dueDescriptor? (some "IF") =
      some ⟨"ExpectedParen", "expected '(' at [[COLUMN]]"⟩ := rfl
  obtain ⟨r, hfirst, hbrings⟩ := dueDescriptor?_eq_some_iff.1 hdue
  obtain ⟨hall, -⟩ := selects_of_reaches branching {} "if 9"
  obtain ⟨-, hselected⟩ := hall 0 _ _ _ hreaches hunmatched
  obtain ⟨hscan, -⟩ := hselected .due _ (.due hfirst hbrings)
  exact ⟨_, hreaches, hunmatched, .due hfirst hbrings, hscan⟩

end Table

end RuleLexer
