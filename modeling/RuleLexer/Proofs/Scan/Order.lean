import Mathlib.Data.List.Nodup
import RuleLexer.Proofs.Scan.Wording

/-!
# The order of rules that do not compete

The order of the rules is an order of priority: it decides between rules that match at the same
place. Where no two rules do, it has no say in what is found.

* `Table.Unrivalled` — at each place of a line one rule matches at most;
* `Fault.Reselects` — a fault and the same failure, worded by another descriptor at most: the same
  fault where a rule matched, and where none did a fault with the same place and the same text, and
  worded by a descriptor if the other one is.

With the rules in another order the same match is found (`firstMatch?_of_perm`). Where there is
none, whether a rule is due or held back does not hang on the order, although which of them comes
first does; so there is a descriptor in both orders or in none (`reselects_noMatch`). The main
statement is `Table.scan_of_perm`.
-/

namespace RuleLexer

open Text (byteLength)

/-- **The same failure, worded by another descriptor at most.** -/
inductive Fault.Reselects : Fault → Fault → Prop
  /-- A rule matched: there is nothing to be worded. -/
  | same {fault : Fault} (matched : fault.unmatched? = none) : Reselects fault fault
  /-- No rule matches, and no descriptor says how to report it. -/
  | unexpected {line column : Nat} {text : String} :
      Reselects (.unexpected line column text) (.unexpected line column text)
  /-- No rule matches, and a descriptor says how to report it, be it another one. -/
  | described {kind kind' message message' : String} {line column : Nat} {text : String} :
      Reselects (.described kind message line column text)
        (.described kind' message' line column text)

namespace Table

variable {t t' : Table} {options : ScanOptions} {number : Nat} {line : List Char} {cur : Cursor}
  {s : Spot} {last : Option String}

/-- **No two rules compete on a line**: at each place before its end, one of them matches at
most. -/
def Unrivalled (t : Table) (line : List Char) : Prop :=
  ∀ offset < byteLength line, ∀ r ∈ t.rules, ∀ q ∈ t.rules,
    (r.pattern.matchAt? line offset).isSome = true →
    (q.pattern.matchAt? line offset).isSome = true → r = q

/-! ### What is found in another order -/

/-- A search that has one place to end at, at most, ends there in every order. -/
theorem findSome?_of_perm {α : Type} {f : Rule → Option α} {rules rules' : List Rule}
    (perm : rules.Perm rules')
    (unrivalled : ∀ r ∈ rules, ∀ q ∈ rules, (f r).isSome = true → (f q).isSome = true → r = q) :
    rules.findSome? f = rules'.findSome? f := by
  cases hfound' : rules'.findSome? f with
  | none =>
    rw [List.findSome?_eq_none_iff] at hfound' ⊢
    exact fun r hr => hfound' r (perm.mem_iff.1 hr)
  | some a =>
    obtain ⟨q, hq, hqa⟩ := List.exists_of_findSome?_eq_some hfound'
    have hq' : q ∈ rules := perm.mem_iff.2 hq
    cases hfound : rules.findSome? f with
    | none =>
      rw [List.findSome?_eq_none_iff] at hfound
      exact absurd ((hfound q hq').symm.trans hqa) (by simp)
    | some b =>
      -- both searches ended at the same rule
      obtain ⟨r, hr, hrb⟩ := List.exists_of_findSome?_eq_some hfound
      obtain rfl := unrivalled r hr q hq' (by rw [hrb]; rfl) (by rw [hqa]; rfl)
      exact hrb.symm.trans hqa

/-- **In another order the same match is found**, on a line on which no two rules compete. -/
theorem firstMatch?_of_perm (perm : t.rules.Perm t'.rules) (unrivalled : t.Unrivalled line)
    (h : cur.At line s) (more : cur.rest ≠ []) : t'.firstMatch? cur = t.firstMatch? cur := by
  symm
  refine findSome?_of_perm (perm.filter _) fun r hr q hq hrsome hqsome => ?_
  rw [Option.isSome_map, ← h.matchAt?] at hrsome hqsome
  exact unrivalled s.offset (h.offset_lt more) r (List.mem_filter.1 hr).1 q
    (List.mem_filter.1 hq).1 hrsome hqsome

/-! ### What is reported in another order -/

/-- Whether a search ends anywhere does not hang on the order. -/
theorem isSome_findSome?_of_perm {α : Type} {rules rules' : List Rule} (perm : rules.Perm rules')
    (f : Rule → Option α) : (rules.findSome? f).isSome = (rules'.findSome? f).isSome := by
  rw [Bool.eq_iff_iff, List.findSome?_isSome_iff, List.findSome?_isSome_iff]
  simp only [perm.mem_iff]

/-- **In another order the fault for want of a match is worded by a descriptor if it is in this
one.** -/
theorem reselects_noMatch (perm : t.rules.Perm t'.rules) (fallback : t.fallback = t'.fallback)
    (options : ScanOptions) (number : Nat) (cur : Cursor) :
    Fault.Reselects (t.noMatch options number cur) (t'.noMatch options number cur) := by
  have hdue : (t.dueDescriptor? cur.last).isSome = (t'.dueDescriptor? cur.last).isSome :=
    isSome_findSome?_of_perm (perm.filter _) _
  have hheld : (t.heldDescriptor? cur.last).isSome = (t'.heldDescriptor? cur.last).isSome :=
    isSome_findSome?_of_perm (perm.filter _) _
  have hsome : (t.dueDescriptor? cur.last <|> t.heldDescriptor? cur.last <|> t.fallback).isSome =
      (t'.dueDescriptor? cur.last <|> t'.heldDescriptor? cur.last <|> t'.fallback).isSome := by
    simp only [Option.orElse_eq_orElse, Option.orElse_eq_or, Option.isSome_or, hdue, hheld, fallback]
  unfold noMatch
  generalize (t.dueDescriptor? cur.last <|> t.heldDescriptor? cur.last <|> t.fallback) = choice
    at hsome
  generalize (t'.dueDescriptor? cur.last <|> t'.heldDescriptor? cur.last <|> t'.fallback) = choice'
    at hsome
  -- either both are there or neither is
  cases choice with
  | none =>
    obtain rfl := Option.isNone_iff_eq_none.1 (Option.isSome_eq_false_iff.1 hsome.symm)
    exact .unexpected
  | some d =>
    obtain ⟨d', rfl⟩ := Option.isSome_iff_exists.1 hsome.symm
    exact .described

/-! ### Scans in another order -/

/-- **Order matters only between rules that compete.** If two tables have the same rules, in
whatever order, and the same fallback, and at each place of each line of a text one rule matches at
most, then both scan the text to the same tokens, or both fail with the same fault, a match being
empty, lacking a group or refused by a callback, or both fail for want of a match at the same line
and column, with the same text, and either both with the usual words or both as some descriptor
says. -/
theorem scan_of_perm {t t' : Table} (perm : t.rules.Perm t'.rules)
    (fallback : t.fallback = t'.fallback) (options : ScanOptions) {text : String}
    (unrivalled : ∀ line ∈ Text.lines text.toList, t.Unrivalled line) :
    Alike Eq Fault.Reselects (t.scan options text) (t'.scan options text) := by
  -- the cursors that are met stand on the lines of the text
  refine scan_alike_of_invariant
    (P := fun cur => ∃ line ∈ Text.lines text.toList, ∃ s, cur.At line s)
    (fun line hline => ⟨line, hline, .start, Cursor.at_ofLine line⟩) ?_ ?_
  · rintro number cur token next ⟨line, hline, s, hat⟩ hstep
    obtain ⟨r, m, last, hpicks, -, -, rfl⟩ := (step_eq_ok_iff hat).1 hstep
    exact ⟨line, hline, _, hpicks.at_past hat last⟩
  · rintro number cur ⟨line, hline, s, hat⟩ hmore
    exact alike_step_of_firstMatch?
      (firstMatch?_of_perm perm (unrivalled line hline) hat hmore) (fun _ => .same)
      (reselects_noMatch perm fallback options number cur)

/-- A letter, and two more that depend on it and describe failures, the rules for them in some
order. -/
def lettering (order : List Rule → List Rule) : Table where
  rules := { name := "A", pattern := .ofValid ["a+"] (by decide +kernel) } ::
    order
      [{ name := "B", pattern := .ofValid ["b"] (by decide +kernel), dependsOn := some "A"
         descriptor := some ⟨"B", "expected b"⟩ },
       { name := "C", pattern := .ofValid ["c"] (by decide +kernel), dependsOn := some "A"
         descriptor := some ⟨"C", "expected c"⟩ }]

/-- Behind the letter that both rules depend on, each order words the failure by the descriptor of
its first rule. -/
theorem scan_of_perm_lettering :
    (lettering id).rules.Perm (lettering List.reverse).rules ∧
    (∀ line ∈ Text.lines "abaac\naz".toList, (lettering id).Unrivalled line) ∧
    (lettering id).scan {} "abaac\naz" = .error (.described "B" "expected b" 1 1 "z") ∧
    ∃ fault', (lettering List.reverse).scan {} "abaac\naz" = .error fault' ∧
      Fault.Reselects (.described "B" "expected b" 1 1 "z") fault' ∧
      fault' = .described "C" "expected c" 1 1 "z" := by
  have hperm : (lettering id).rules.Perm (lettering List.reverse).rules := .cons _ (.swap _ _ _)
  have hlines : Text.lines "abaac\naz".toList = [['a', 'b', 'a', 'a', 'c'], ['a', 'z']] := by
    decide +kernel
  have hdistinct : (lettering id).names.Nodup := by decide +kernel
  have hnames : ∀ line ∈ [['a', 'b', 'a', 'a', 'c'], ['a', 'z']], ∀ offset < byteLength line,
      ∀ r ∈ (lettering id).rules, ∀ q ∈ (lettering id).rules,
        (r.pattern.matchAt? line offset).isSome = true →
        (q.pattern.matchAt? line offset).isSome = true → r.name = q.name := by decide +kernel
  have hunrivalled : ∀ line ∈ Text.lines "abaac\naz".toList, (lettering id).Unrivalled line := by
    rw [hlines]
    intro line hline offset hoffset r hr q hq hrsome hqsome
    exact List.inj_on_of_nodup_map hdistinct hr hq
      (hnames line hline offset hoffset r hr q hq hrsome hqsome)
  have hscan : (lettering id).scan {} "abaac\naz" =
      .error (.described "B" "expected b" 1 1 "z") := by decide +kernel
  have hscan' : (lettering List.reverse).scan {} "abaac\naz" =
      .error (.described "C" "expected c" 1 1 "z") := by decide +kernel
  have halike := scan_of_perm hperm rfl {} hunrivalled
  rw [hscan, hscan'] at halike
  refine ⟨hperm, hunrivalled, hscan, _, hscan', ?_, rfl⟩
  cases halike with
  | error hreselects => exact hreselects

end Table

end RuleLexer
