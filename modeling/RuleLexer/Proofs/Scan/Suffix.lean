import RuleLexer.Proofs.Scan.Failure
import RuleLexer.Proofs.Scan.Simulation

/-!
# A scan depends on what is left of the line

Where the scan of a line goes on from a cursor depends on the characters behind the cursor and on
the rule that matched last. What stands in front of the cursor shows in the columns of faults alone.

* `Table.attempt` — how far the scan of a line comes from a cursor on: the tokens that it collects,
  and the fault that ends it, if there is one;
* `Fault.Shifted` — the same failure on two lines, as far behind one column as behind another;
* `Table.Akin` — after matches of two rules, the same rules may be tried;
* `Table.Abreast` — two cursors have the same left, and may try the same rules there.

Cursors that are abreast take the same steps (`Table.simulation_abreast`), and so they come equally
far. In a table without dependencies every rule may be tried everywhere, so that a cursor is abreast
with the start of a line that consists of what it has left. The main statement,
`Table.scans_from_rest`, says both: how the scan goes on from a cursor, and what the scan of the
part of a text gives that begins behind a match.
-/

namespace RuleLexer

open Text (byteLength after?)

/-! ### A text of one line -/

namespace Text

theorem dropReturn_subset (line : List Char) : dropReturn line ⊆ line := by
  unfold dropReturn
  split
  · exact List.subset_cons_self _ _
  · exact List.Subset.refl _

theorem length_dropReturn_le (line : List Char) : (dropReturn line).length ≤ line.length := by
  unfold dropReturn
  split
  · exact Nat.le_succ _
  · exact Nat.le_refl _

/-- No line has a line feed. -/
theorem feed_not_mem_of_mem_linesFrom {start text line : List Char}
    (h : line ∈ linesFrom start text) (plain : '\n' ∉ start) : '\n' ∉ line := by
  induction text generalizing start with
  | nil =>
    rw [linesFrom] at h
    split at h
    · exact absurd h List.not_mem_nil
    · rw [List.mem_singleton.1 h, List.mem_reverse]
      exact plain
  | cons c cs ih =>
    rw [linesFrom] at h
    split at h
    · rcases List.mem_cons.1 h with rfl | h
      · rw [List.mem_reverse]
        exact fun hmem => plain (dropReturn_subset start hmem)
      · exact ih h List.not_mem_nil
    · next ne => exact ih h (List.not_mem_cons_of_ne_of_not_mem (Ne.symm ne) plain)

/-- The first line is what the text begins with. -/
theorem isPrefix_of_linesFrom {start text line : List Char} {lines : List (List Char)}
    (h : linesFrom start text = line :: lines) : line <+: start.reverse ++ text := by
  induction text generalizing start with
  | nil =>
    rw [linesFrom] at h
    split at h
    · cases h
    · refine ⟨[], ?_⟩
      rw [List.append_nil, List.append_nil, (List.cons.inj h).1]
  | cons c cs ih =>
    rw [linesFrom] at h
    split at h
    · obtain ⟨rfl, -⟩ := List.cons.inj h
      -- a carriage return that is dropped stands at the end of the line
      have start_prefix : (dropReturn start).reverse <+: start.reverse := by
        rw [List.reverse_prefix]
        unfold dropReturn
        split
        · exact List.suffix_cons _ _
        · exact List.suffix_rfl
      exact start_prefix.trans (List.prefix_append _ _)
    · have := ih h
      rwa [List.reverse_cons, List.append_assoc, List.singleton_append] at this

theorem linesFrom_append {read : List Char} (plain : '\n' ∉ read) (start rest : List Char) :
    linesFrom start (read ++ rest) = linesFrom (read.reverse ++ start) rest := by
  induction read generalizing start with
  | nil => rfl
  | cons c cs ih =>
    have hc : '\n' ≠ c := List.ne_of_not_mem_cons plain
    rw [List.cons_append, linesFrom, if_neg (Ne.symm hc), ih (List.not_mem_of_not_mem_cons plain),
      List.reverse_cons, List.append_assoc, List.singleton_append]

/-- The one line of a text, taken up in the middle: with what was read left out, it is the one line
of what is left, if anything is left at all. -/
theorem linesFrom_of_singleton {read start rest tail : List Char}
    (h : linesFrom (start ++ read) rest = [read.reverse ++ tail]) :
    linesFrom start rest = [tail] ∨ tail = [] ∧ linesFrom start rest = [] := by
  induction rest generalizing start with
  | nil =>
    rw [linesFrom] at h
    split at h
    · cases h
    · have same : tail = start.reverse := by
        have whole := (List.cons.inj h).1
        rw [List.reverse_append] at whole
        exact (List.append_cancel_left whole).symm
      cases start with
      | nil => exact Or.inr ⟨same, rfl⟩
      | cons c cs =>
        rw [same]
        exact Or.inl rfl
  | cons c cs ih =>
    rw [linesFrom] at h
    by_cases feed : c = '\n'
    · rw [if_pos feed] at h
      obtain ⟨whole, none⟩ := List.cons.inj h
      rw [linesFrom, if_pos feed, none]
      refine Or.inl (congrArg (fun line => [line]) ?_)
      -- Dropping a carriage return takes it from the line in progress, or from what was read; but
      -- of that nothing is missing.
      cases start with
      | nil =>
        have len := congrArg List.length whole
        have le := length_dropReturn_le read
        rw [List.nil_append, List.length_reverse, List.length_append, List.length_reverse] at len
        exact (List.length_eq_zero_iff.1 (by omega)).symm
      | cons d ds =>
        have apart : dropReturn (d :: ds ++ read) = dropReturn (d :: ds) ++ read := by
          rw [List.cons_append]
          unfold dropReturn
          split <;> simp_all
        rw [apart, List.reverse_append] at whole
        exact List.append_cancel_left whole
    · rw [if_neg feed] at h
      rw [linesFrom, if_neg feed]
      exact ih h

/-- **What is left of a text of one line** behind some of its characters has one line, or none if
nothing is left. -/
theorem lines_of_after? {text read tail rest : List Char} (one : lines text = [read ++ tail])
    (behind : after? text (byteLength read) = some rest) :
    lines rest = [tail] ∨ tail = [] ∧ lines rest = [] := by
  have plain : '\n' ∉ read ++ tail :=
    feed_not_mem_of_mem_linesFrom (one ▸ List.mem_cons_self) List.not_mem_nil
  obtain ⟨more, rfl⟩ := isPrefix_of_linesFrom one
  rw [List.append_assoc] at behind one
  obtain rfl : tail ++ more = rest :=
    Option.some.inj ((after?_append read (tail ++ more)).symm.trans behind)
  have taken := linesFrom_append (fun h => plain (List.mem_append_left tail h)) [] (tail ++ more)
  have whole : linesFrom ([] ++ read.reverse) (tail ++ more) = [read.reverse.reverse ++ tail] := by
    rw [List.nil_append, List.reverse_reverse, ← List.append_nil read.reverse, ← taken]
    exact one
  exact linesFrom_of_singleton whole

end Text

/-- At every place of a line there stands a cursor. -/
theorem Cursor.exists_at {line rest : List Char} {offset : Nat} (h : after? line offset = some rest)
    (last : Option String) :
    ∃ cur : Cursor, cur.At line ⟨offset, last⟩ ∧ cur.rest = rest ∧ cur.last = last := by
  obtain ⟨read, hline, hoffset⟩ := Text.after?_eq_some_iff.1 h
  exact ⟨⟨read.length, rest, last⟩, ⟨⟨read, hline, rfl, hoffset.symm⟩, rfl⟩, rfl, rfl⟩

/-! ### How far a scan comes -/

/-- **How far the scan of a line comes.** -/
structure Attempt where
  /-- The tokens that it collects. -/
  tokens : List Token
  /-- The fault that ends it, if it does not come to the end of the line. -/
  fault? : Option Fault
  deriving DecidableEq, Repr

/-- The tokens, if the end of the line was reached, or else the fault. -/
def Attempt.outcome (a : Attempt) : Except Fault (List Token) :=
  match a.fault? with
  | none => .ok a.tokens
  | some fault => .error fault

/-- Further tokens in front. -/
def Attempt.behind (tokens : List Token) (a : Attempt) : Attempt :=
  { a with tokens := tokens ++ a.tokens }

/-- The same failure on two lines, as many characters behind the column `a` as behind the column
`b`. A message is rendered for the column from the same descriptor. -/
inductive Fault.Shifted (a b : Nat) : Fault → Fault → Prop
  | captureMissing (rule : String) (group line k : Nat) :
    Shifted a b (.captureMissing rule group line (a + k)) (.captureMissing rule group line (b + k))
  | zeroWidth (rule : String) (line k : Nat) :
    Shifted a b (.zeroWidth rule line (a + k)) (.zeroWidth rule line (b + k))
  | unexpected (line k : Nat) (text : String) :
    Shifted a b (.unexpected line (a + k) text) (.unexpected line (b + k) text)
  | described (d : Descriptor) (line k : Nat) (text : String) :
    Shifted a b (.ofDescriptor d line (a + k) text) (.ofDescriptor d line (b + k) text)
  /-- The refusal of a callback has no place. -/
  | refused (message : String) : Shifted a b (.refused message) (.refused message)

namespace Table

variable {t t' : Table} {options options' : ScanOptions} {number : Nat} {cur cur' : Cursor}

/-- **How far the scan of a line comes** from a cursor on. -/
def attempt (t : Table) (options : ScanOptions) (number : Nat) (cur : Cursor) : Attempt :=
  if more : cur.rest = [] then ⟨[], none⟩
  else
    match h : t.step options number cur with
    | .error fault => ⟨[], some fault⟩
    | .ok (token, next) =>
      have := rest_step_lt more h
      (t.attempt options number next).behind token.toList
termination_by cur.rest.length

theorem attempt_of_end (ends : cur.rest = []) : t.attempt options number cur = ⟨[], none⟩ := by
  rw [attempt, dif_pos ends]

theorem attempt_of_fails {fault : Fault} (more : cur.rest ≠ [])
    (h : t.step options number cur = .error fault) :
    t.attempt options number cur = ⟨[], some fault⟩ := by
  rw [attempt, dif_neg more]
  split
  · next h' =>
    obtain rfl := Except.error.inj (h.symm.trans h')
    rfl
  · next h' => cases h.symm.trans h'

theorem attempt_of_goes {token : Option Token} {next : Cursor} (more : cur.rest ≠ [])
    (h : t.step options number cur = .ok (token, next)) :
    t.attempt options number cur = (t.attempt options number next).behind token.toList := by
  rw [attempt, dif_neg more]
  split
  · next h' => cases h.symm.trans h'
  · next h' =>
    obtain ⟨rfl, rfl⟩ := Prod.mk.inj (Except.ok.inj (h.symm.trans h'))
    rfl

theorem Attempt.outcome_behind (tokens : List Token) (a : Attempt) :
    (a.behind tokens).outcome = a.outcome.map (tokens ++ ·) := by
  obtain ⟨later, fault⟩ := a
  cases fault <;> rfl

/-- The scan of a line gives what it collects, if it comes to the end. -/
theorem scanLine_eq_outcome (t : Table) (options : ScanOptions) (number : Nat) (cur : Cursor) :
    t.scanLine options number cur = (t.attempt options number cur).outcome := by
  -- every step leaves fewer characters
  induction hn : cur.rest.length using Nat.strongRecOn generalizing cur with
  | ind n ih =>
    subst hn
    rw [scanLine_eq]
    by_cases hend : cur.rest = []
    · rw [if_pos hend, attempt_of_end hend]
      rfl
    · rw [if_neg hend]
      cases hstep : t.step options number cur with
      | error fault =>
        rw [attempt_of_fails hend hstep]
        rfl
      | ok found =>
        obtain ⟨token, next⟩ := found
        rw [attempt_of_goes hend hstep, Attempt.outcome_behind,
          ← ih _ (rest_step_lt hend hstep) next rfl]
        rfl

/-- **Scans that take the same steps come equally far**: they collect the same tokens, and end both
without a fault or with related faults. -/
theorem Simulation.attempt {Sim : Cursor → Cursor → Prop} {R : Fault → Fault → Prop}
    (sim : Simulation t t' options options' number Sim R) (h : Sim cur cur') :
    (t.attempt options number cur).tokens = (t'.attempt options' number cur').tokens ∧
      Option.Rel R (t.attempt options number cur).fault?
        (t'.attempt options' number cur').fault? := by
  induction hn : cur.rest.length using Nat.strongRecOn generalizing cur cur' with
  | ind n ih =>
    subst hn
    by_cases hend : cur.rest = []
    · rw [attempt_of_end hend, attempt_of_end ((sim.done h).1 hend)]
      exact ⟨rfl, .none⟩
    · have hend' : cur'.rest ≠ [] := fun hnil => hend ((sim.done h).2 hnil)
      have steps := sim.step h hend
      cases hstep : t.step options number cur with
      | error fault =>
        rw [hstep] at steps
        generalize hstep' : t'.step options' number cur' = found' at steps
        cases steps with
        | error related =>
          rw [attempt_of_fails hend hstep, attempt_of_fails hend' hstep']
          exact ⟨rfl, .some related⟩
      | ok found =>
        rw [hstep] at steps
        generalize hstep' : t'.step options' number cur' = found' at steps
        cases steps with
        | ok same =>
          obtain ⟨htoken, hnext⟩ := same
          obtain ⟨tokens, faults⟩ := ih _ (rest_step_lt hend hstep) hnext rfl
          rw [attempt_of_goes hend hstep, attempt_of_goes hend' hstep']
          refine ⟨?_, faults⟩
          show found.1.toList ++ _ = _ ++ _
          rw [htoken, tokens]

/-! ### Cursors that are abreast -/

/-- After matches of two rules, or at the start of a line, the same rules may be tried. -/
def Akin (t : Table) (last last' : Option String) : Prop :=
  ∀ r ∈ t.rules, r.eligible last = r.eligible last'

/-- **Two cursors are abreast**: they have the same left, may try the same rules there, and have
come as far from the column `a` as from the column `b`. -/
structure Abreast (t : Table) (a b : Nat) (cur cur' : Cursor) : Prop where
  /-- They have the same characters left. -/
  rest : cur.rest = cur'.rest
  /-- They may try the same rules. -/
  akin : t.Akin cur.last cur'.last
  /-- They have come equally far. -/
  columns : ∃ k, cur.column = a + k ∧ cur'.column = b + k

theorem akin_of_free (free : ∀ r ∈ t.rules, r.dependsOn = none) (last last' : Option String) :
    t.Akin last last' := by
  intro r hr
  rw [Rule.eligible, Rule.eligible, free r hr]

namespace Abreast

variable {a b : Nat}

theorem firstMatch?_eq (h : t.Abreast a b cur cur') : t.firstMatch? cur = t.firstMatch? cur' := by
  rw [firstMatch?, firstMatch?, h.rest, List.filter_congr h.akin]

/-- Where no rule matches, both cursors fail alike. -/
theorem noMatch (h : t.Abreast a b cur cur') (options : ScanOptions) (number : Nat) :
    Fault.Shifted a b (t.noMatch options number cur) (t.noMatch options number cur') := by
  have due : t.dueDescriptor? cur.last = t.dueDescriptor? cur'.last := by
    rw [dueDescriptor?, dueDescriptor?]
    exact congrArg _ (List.filter_congr fun r hr => by rw [h.akin r hr])
  have held : t.heldDescriptor? cur.last = t.heldDescriptor? cur'.last := by
    rw [heldDescriptor?, heldDescriptor?]
    exact congrArg _ (List.filter_congr fun r hr => by rw [h.akin r hr])
  obtain ⟨k, hk, hk'⟩ := h.columns
  rw [Table.noMatch, Table.noMatch, due, held, h.rest, hk, hk']
  split
  · exact .described _ number k _
  · exact .unexpected number k _

/-- Behind the same match, cursors that are abreast are so again, whatever rule matched last. -/
theorem past (h : t.Abreast a b cur cur') (m : Match) {last last' : Option String}
    (akin : t.Akin last last') :
    t.Abreast a b { cur.past m with last := last } { cur'.past m with last := last' } where
  rest := congrArg (List.drop m.extent) h.rest
  akin := akin
  columns := by
    obtain ⟨k, hk, hk'⟩ := h.columns
    refine ⟨k + m.extent, ?_, ?_⟩
    · rw [Cursor.past, hk, Nat.add_assoc]
    · rw [Cursor.past, hk', Nat.add_assoc]

/-- A match is accepted alike at both cursors. -/
theorem accept (h : t.Abreast a b cur cur') (r : Rule) (number : Nat) (m : Match) :
    Alike (fun found found' => found.1 = found'.1 ∧ t.Abreast a b found.2 found'.2)
      (Fault.Shifted a b) (r.accept number cur m) (r.accept number cur' m) := by
  unfold Rule.accept
  split
  · exact .ok ⟨rfl, h.past m h.akin⟩
  · dsimp only
    split
    · obtain ⟨k, hk, hk'⟩ := h.columns
      rw [hk, hk']
      exact .error (.captureMissing r.name _ number k)
    · next value _ =>
      cases hsettle : Rule.settle r.onMatch ⟨r.name, String.ofList value, number⟩ with
      | ok token => exact .ok ⟨rfl, h.past m fun _ _ => rfl⟩
      | error fault =>
        obtain ⟨message, rfl⟩ : ∃ message, fault = .refused message := by
          unfold Rule.settle at hsettle
          split at hsettle
          · cases hsettle
          · split at hsettle <;> cases hsettle
            exact ⟨_, rfl⟩
        exact .error (.refused message)

/-- **Cursors that are abreast take the same step.** -/
theorem step (h : t.Abreast a b cur cur') (options : ScanOptions) (number : Nat) :
    Alike (fun found found' => found.1 = found'.1 ∧ t.Abreast a b found.2 found'.2)
      (Fault.Shifted a b) (t.step options number cur) (t.step options number cur') := by
  unfold Table.step
  rw [h.firstMatch?_eq]
  split
  · exact .error (h.noMatch options number)
  · next r m _ =>
    split
    · obtain ⟨k, hk, hk'⟩ := h.columns
      rw [hk, hk']
      exact .error (.zeroWidth r.name number k)
    · exact h.accept r number m

end Abreast

/-- **Scans from cursors that are abreast** run side by side. -/
theorem simulation_abreast (t : Table) (options : ScanOptions) (number a b : Nat) :
    Simulation t t options options number (t.Abreast a b) (Fault.Shifted a b) where
  done h := by rw [h.rest]
  step h _ := h.step options number

/-- The scan of what is left of a line is the scan of the line from there on, if no rule depends on
what matched before. -/
theorem scanLine_ofLine_rest (free : ∀ r ∈ t.rules, r.dependsOn = none) {tokens : List Token}
    (scanned : t.scanLine options number cur = .ok tokens) :
    t.scanLine options number (.ofLine cur.rest) = .ok tokens := by
  have abreast : t.Abreast cur.column 0 cur (.ofLine cur.rest) :=
    ⟨rfl, akin_of_free free _ _, 0, rfl, rfl⟩
  have alike := (simulation_abreast t options number _ _).scanLine abreast
  rw [scanned] at alike
  generalize t.scanLine options number (.ofLine cur.rest) = scanned' at alike
  cases alike with
  | ok same => rw [same]

/-- **A scan depends on what is left of the line and on the rule that matched last.** The scan of a
line goes as far as it is attempted. Attempted from two places, on lines of the same number, that
the same characters follow and at which the same rule matched last, it collects the same tokens and
comes to the end, or fails alike, with as many characters more in front of the place of the fault as
in front of the place of the start. So in a table without dependencies, what follows a match in a
text of one line is scanned to the tokens of the matches behind it. -/
theorem scans_from_rest (t : Table) (options : ScanOptions) :
    (∀ number cur,
      t.scanLine options number cur = (t.attempt options number cur).outcome) ∧
    (∀ number line line' offset offset' last rest,
      after? line offset = some rest → after? line' offset' = some rest →
        ∃ cur cur' : Cursor, cur.At line ⟨offset, last⟩ ∧ cur'.At line' ⟨offset', last⟩ ∧
          (t.attempt options number cur).tokens = (t.attempt options number cur').tokens ∧
          Option.Rel (Fault.Shifted cur.column cur'.column) (t.attempt options number cur).fault?
            (t.attempt options number cur').fault?) ∧
    ((∀ r ∈ t.rules, r.dependsOn = none) →
      ∀ (text : String) line trace trace' tokens tokens' s last rest,
        Text.lines text.toList = [line] → t.Run 0 line .start trace tokens s →
          t.Run 0 line s trace' tokens' ⟨byteLength line, last⟩ →
          after? text.toList s.offset = some rest →
          t.scan options (String.ofList rest) = .ok tokens') := by
  refine ⟨scanLine_eq_outcome t options, ?_, ?_⟩
  · intro number line line' offset offset' last rest here there
    obtain ⟨cur, hat, hrest, hlast⟩ := Cursor.exists_at here last
    obtain ⟨cur', hat', hrest', hlast'⟩ := Cursor.exists_at there last
    have akin : t.Akin cur.last cur'.last := by
      rw [hlast, hlast']
      exact fun _ _ => rfl
    exact ⟨cur, cur', hat, hat', (simulation_abreast t options number _ _).attempt
      ⟨hrest.trans hrest'.symm, akin, 0, rfl, rfl⟩⟩
  · intro free text line trace trace' tokens tokens' s last rest one before behind hrest
    obtain ⟨cur, hat⟩ := before.exists_at (Cursor.at_ofLine line)
    have scanned : t.scanLine options 0 cur = .ok tokens' :=
      (scanLine_eq_ok_iff hat).2 ⟨trace', last, behind⟩
    obtain ⟨read, rfl, -, offset⟩ := hat.split
    rw [offset] at hrest
    rw [scan, String.toList_ofList]
    rcases Text.lines_of_after? one hrest with left | ⟨none, left⟩
    · rw [left, scanLines, scanLine_ofLine_rest free scanned]
      exact congrArg Except.ok (List.append_nil tokens')
    · -- nothing is left, and nothing matches there
      rw [scanLine_eq, if_pos none] at scanned
      rw [left]
      exact scanned

/-- A rule for letters, one of which takes two bytes, a rule that skips blanks, and a descriptor
that gives the column of what is neither. -/
def spelling : Table where
  rules :=
    [{ name := "LETTER", pattern := .ofValid ["[a-zé]"] (by decide +kernel) },
     { name := "BLANK", pattern := .ofValid ["[ ]"] (by decide +kernel), skips := true }]
  fallback := some ⟨"Letter", "[[COLUMN]]: [[TEXT]]"⟩

/-- Behind the `é` of `é b7` and at the start of ` b7` the same letter is collected, and the faults
are at the columns 3 and 2. What follows the `é` in a text of the line `é b` is scanned to the one
token that is left. -/
theorem scans_from_rest_spelling :
    (after? "é b7".toList 2 = some " b7".toList ∧ after? " b7".toList 0 = some " b7".toList ∧
      ∃ cur cur' : Cursor, cur.At "é b7".toList ⟨2, some "LETTER"⟩ ∧
        cur'.At " b7".toList ⟨0, some "LETTER"⟩ ∧
        (spelling.attempt {} 0 cur).tokens = (spelling.attempt {} 0 cur').tokens ∧
        Option.Rel (Fault.Shifted cur.column cur'.column) (spelling.attempt {} 0 cur).fault?
          (spelling.attempt {} 0 cur').fault?) ∧
    (spelling.attempt {} 0 ⟨1, " b7".toList, some "LETTER"⟩ =
        ⟨[⟨"LETTER", "b", 0⟩], some (.described "Letter" "3: 7" 0 3 "7")⟩ ∧
      spelling.attempt {} 0 ⟨0, " b7".toList, some "LETTER"⟩ =
        ⟨[⟨"LETTER", "b", 0⟩], some (.described "Letter" "2: 7" 0 2 "7")⟩) ∧
    (∀ r ∈ spelling.rules, r.dependsOn = none) ∧
    Text.lines "é b\r\n".toList = ["é b".toList] ∧
    ∃ trace trace' s last,
      spelling.Run 0 "é b".toList .start trace [⟨"LETTER", "é", 0⟩] s ∧
      spelling.Run 0 "é b".toList s trace' [⟨"LETTER", "b", 0⟩] ⟨byteLength "é b".toList, last⟩ ∧
      after? "é b\r\n".toList s.offset = some " b\r\n".toList ∧
      spelling.scan {} (String.ofList " b\r\n".toList) = .ok [⟨"LETTER", "b", 0⟩] := by
  obtain ⟨-, alike, suffix⟩ := scans_from_rest spelling {}
  have here : after? "é b7".toList 2 = some " b7".toList := by decide +kernel
  have there : after? " b7".toList 0 = some " b7".toList := by decide +kernel
  have free : ∀ r ∈ spelling.rules, r.dependsOn = none := by decide +kernel
  have one : Text.lines "é b\r\n".toList = ["é b".toList] := by decide +kernel
  have hat := Cursor.at_ofLine "é b".toList
  have letter : spelling.Picks "é b".toList .start _ _ := (firstMatch?_eq_some_iff hat).1 rfl
  have before : spelling.Run 0 "é b".toList .start _ _ ⟨2, some "LETTER"⟩ :=
    .move letter (by decide) (.keep rfl rfl fun _ hf => absurd hf (by simp)) (.stop _)
  obtain ⟨trace', last, behind⟩ := (scanLine_eq_ok_iff (letter.at_past hat (some "LETTER"))).1
    (show spelling.scanLine {} 0 _ = .ok [⟨"LETTER", "b", 0⟩] by decide +kernel)
  have rest : after? "é b\r\n".toList 2 = some " b\r\n".toList := by decide +kernel
  exact ⟨⟨here, there, alike 0 _ _ 2 0 (some "LETTER") _ here there⟩,
    ⟨by decide +kernel, by decide +kernel⟩, free, one, _, trace', _, last, before, behind, rest,
    suffix free _ _ _ trace' _ _ _ last _ one before behind rest⟩

end Table

end RuleLexer
