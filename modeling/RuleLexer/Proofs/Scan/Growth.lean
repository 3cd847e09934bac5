import RuleLexer.Proofs.Scan.Position
import RuleLexer.Proofs.Table.Extend

/-!
# Tables that grow

Rules are added at the end of a table, where their priority is the lowest. They are tried only where
no rule in front of them matches, and so they have no say in what was decided without them: whatever
they depend on, skip, match or describe.

* `Table.Grows` — a table grows into another when rules are added to it.

The rules of the grown table begin with those of the table (`Grows.exists_rules_eq`). The first rule
that matches at a spot is therefore still the first one (`Grows.picks`), a run is still a run
(`Grows.run`), and what a scan reaches it still reaches (`Grows.reaches`). Where a rule matched, the
fault that blames the spot stays the same (`Grows.blames`); where none matched, the scan now fails
at the spot or behind it, if it fails at all. The main statement is `Table.scan_of_grows`.
-/

namespace RuleLexer

namespace Table

variable {t t' : Table}

/-! ### Adding rules -/

/-- **A table grows into another** when rules are added to it, one alone or several in a row, and
none of them is refused. -/
inductive Grows (t : Table) : Table → Prop
  /-- No rule is added. -/
  | refl : Grows t t
  /-- One more rule is added. -/
  | add {t₁ t₂ : Table} {rule : Rule} (grows : Grows t t₁) (added : t₁.add rule = .ok t₂) :
      Grows t t₂
  /-- Several more rules are added. -/
  | extend {t₁ t₂ : Table} {rules : List Rule} (grows : Grows t t₁)
      (added : t₁.extend? rules = .ok t₂) : Grows t t₂

namespace Grows

/-- **The rules of the table come first** in the grown one. -/
theorem exists_rules_eq (h : t.Grows t') : ∃ more, t'.rules = t.rules ++ more := by
  -- on the way from the table to the grown one
  induction h with
  | refl => exact ⟨[], (List.append_nil _).symm⟩
  | @add t₁ t₂ rule _ hadd ih =>
    obtain ⟨more, hmore⟩ := ih
    obtain ⟨-, -, rfl⟩ := add_eq_ok_iff.1 hadd
    refine ⟨more ++ [rule], ?_⟩
    change t₁.rules ++ [rule] = _
    rw [hmore, List.append_assoc]
  | @extend t₁ t₂ rules _ hadd ih =>
    obtain ⟨more, hmore⟩ := ih
    refine ⟨more ++ rules, ?_⟩
    rw [rules_of_extend (extend?_eq_ok_iff.1 hadd), hmore, List.append_assoc]

/-! ### What was decided stays decided -/

variable {options : ScanOptions} {number : Nat} {line : List Char} {s s' : Spot}
  {trace : List (Rule × Match)} {tokens : List Token}

/-- The first rule of which something holds is still the first one. -/
theorem first (h : t.Grows t') {P : Rule → Prop} {r : Rule} (hfirst : t.First P r) :
    t'.First P r := by
  obtain ⟨hr, before, after, hrules, hbefore⟩ := hfirst
  obtain ⟨more, hmore⟩ := h.exists_rules_eq
  -- the rules in front of it are the same ones, and more stand behind it
  refine ⟨hr, before, after ++ more, ?_, hbefore⟩
  rw [hmore, hrules, List.append_assoc, List.cons_append]

/-- **The match that counts at a spot still counts.** -/
theorem picks (h : t.Grows t') {r : Rule} {m : Match} (hpicks : t.Picks line s r m) :
    t'.Picks line s r m where
  first := h.first hpicks.first
  found := hpicks.found

/-- **A run is still a run**, by the same matches. -/
theorem run (h : t.Grows t') (hrun : t.Run number line s trace tokens s') :
    t'.Run number line s trace tokens s' := by
  induction hrun with
  | stop s => exact .stop s
  | move hpicks hsome hleaves _ ih => exact .move (h.picks hpicks) hsome hleaves ih

theorem covers (h : t.Grows t') {l : List Char × Nat} (hcovers : t.Covers l tokens) :
    t'.Covers l tokens := by
  obtain ⟨trace, last, hrun⟩ := hcovers
  exact ⟨trace, last, h.run hrun⟩

/-- **What a scan reaches, it still reaches.** -/
theorem reaches (h : t.Grows t') {text : String} (hreaches : t.Reaches text number line trace s) :
    t'.Reaches text number line trace s where
  onLine := hreaches.onLine
  before := by
    intro i l hi hl
    obtain ⟨tokens, hcovers⟩ := hreaches.before i l hi hl
    exact ⟨tokens, h.covers hcovers⟩
  run := by
    obtain ⟨tokens, hrun⟩ := hreaches.run
    exact ⟨tokens, h.run hrun⟩
  more := hreaches.more

/-- Where a rule matches and the step fails all the same, it still fails, with the same fault. -/
theorem blames (h : t.Grows t') {column : Nat} {fault : Fault}
    (hblames : t.Blames options number line column s fault) (matched : fault.unmatched? = none) :
    t'.Blames options number line column s fault := by
  -- a rule that matches still does, whereas "no rule matches" may cease to hold
  cases hblames with
  | unexpected => exact absurd matched (by simp [Fault.unmatched?])
  | described => exact absurd matched (by simp [Fault.unmatched?])
  | zeroWidth hpicks hempty => exact .zeroWidth (h.picks hpicks) hempty
  | captureMissing hpicks hsome hskips habsent =>
    exact .captureMissing (h.picks hpicks) hsome hskips habsent
  | refused hpicks hsome hskips hsel hcalls hrefuses =>
    exact .refused (h.picks hpicks) hsome hskips hsel hcalls hrefuses

end Grows

/-- **Rules that are added disturb nothing that was decided without them.** If the table scans a
text, the grown table scans it to the same tokens. If the scan fails because of a match, by its
being empty, by a group that took no part in it or by the callback of its rule, it still fails with
the same fault. If it fails because no rule matches at some line and column, the scan with the grown
table succeeds, or fails by the refusal of a callback or at a place that does not come before that
line and column. And every run is still a run, by the same matches and with the same tokens. -/
theorem scan_of_grows {t t' : Table} (grows : t.Grows t') (options : ScanOptions) (text : String) :
    (∀ tokens, t.scan options text = .ok tokens → t'.scan options text = .ok tokens) ∧
    (∀ fault, t.scan options text = .error fault → fault.unmatched? = none →
      t'.scan options text = .error fault) ∧
    (∀ fault line column, t.scan options text = .error fault →
      fault.unmatched? = some (line, column) →
      (∃ tokens, t'.scan options text = .ok tokens) ∨
      (∃ message, t'.scan options text = .error (.refused message)) ∨
      ∃ fault' line' column', t'.scan options text = .error fault' ∧
        fault'.line? = some line' ∧ fault'.column? = some column' ∧
        (line < line' ∨ line = line' ∧ column ≤ column')) ∧
    ∀ number line s trace tokens s', t.Run number line s trace tokens s' →
      t'.Run number line s trace tokens s' := by
  refine ⟨fun tokens hscan => ?_, fun fault hscan hmatched => ?_,
    fun fault number column hscan hunmatched => ?_, fun _ _ _ _ _ _ hrun => grows.run hrun⟩
  · -- every line keeps its run
    obtain ⟨parts, hparts, rfl⟩ := scanLines_eq_ok_iff.1 hscan
    have hcovers : List.Forall₂ t'.Covers (Text.lines text.toList).zipIdx parts :=
      hparts.imp fun _ _ h => grows.covers h
    exact scanLines_eq_ok_iff.2 ⟨parts, hcovers, rfl⟩
  · -- the spot is still reached, and the fault still blames it
    obtain ⟨number, line, trace, s, column, hreaches, hinside, hoffset, hblames⟩ :=
      scan_eq_error_iff.1 hscan
    exact scan_eq_error_iff.2 ⟨number, line, trace, s, column, grows.reaches hreaches, hinside,
      hoffset, grows.blames hblames hmatched⟩
  · -- an added rule may match at the spot, and then all that is left is that it is reached
    obtain ⟨number', line, trace, s, column', hreaches, hinside, hoffset, hblames⟩ :=
      scan_eq_error_iff.1 hscan
    obtain ⟨rfl, rfl⟩ := Prod.mk.inj (hblames.unmatched hunmatched)
    cases hscan' : t'.scan options text with
    | ok tokens => exact Or.inl ⟨tokens, rfl⟩
    | error fault' =>
      -- the grown table reaches the spot, and a scan does not fail before a spot that it reaches
      have hat := Cursor.at_column (Nat.le_of_lt hinside) hoffset
      rcases (grows.reaches hreaches).fails_behind hat hscan' with
        ⟨message, rfl⟩ | ⟨line', column', hline, hcolumn, hbehind⟩
      · exact Or.inr (Or.inl ⟨message, rfl⟩)
      · exact Or.inr (Or.inr ⟨fault', line', column', rfl, hline, hcolumn, hbehind⟩)

/-- A rule for letters, and one that selects the group of its second choice. -/
def sparse : Table where
  rules :=
    [{ name := "LETTER", pattern := .ofValid ["[a-w]"] (by decide +kernel) },
     { name := "MARK", pattern := .ofValid ["(x)|(z)"] (by decide +kernel), capture := some 2 }]

/-- A rule that depends on another one and describes failures, and one that skips and may match
nothing. -/
def additions : List Rule :=
  [{ name := "DIGIT", pattern := .ofValid ["[0-8]"] (by decide +kernel), dependsOn := some "LETTER"
     descriptor := some ⟨"Digit", "expected a digit"⟩ },
   { name := "BLANK", pattern := .ofValid ["[ ]*"] (by decide +kernel), skips := true }]

/-- With two more rules, the letters and the missing group are what they were, and the scan that
failed at a blank now fails behind it. -/
theorem scan_of_grows_sparse : ∃ t', sparse.Grows t' ∧
    (sparse.scan {} "bz" = .ok [⟨"LETTER", "b", 0⟩, ⟨"MARK", "z", 0⟩] ∧
      t'.scan {} "bz" = .ok [⟨"LETTER", "b", 0⟩, ⟨"MARK", "z", 0⟩]) ∧
    (sparse.scan {} "bx" = .error (.captureMissing "MARK" 2 0 1) ∧
      t'.scan {} "bx" = .error (.captureMissing "MARK" 2 0 1)) ∧
    (sparse.scan {} "b !" = .error (.unexpected 0 1 " !") ∧
      t'.scan {} "b !" = .error (.zeroWidth "BLANK" 0 2) ∧
      ∃ fault' line' column', t'.scan {} "b !" = .error fault' ∧
        fault'.line? = some line' ∧ fault'.column? = some column' ∧
        (0 < line' ∨ 0 = line' ∧ 1 ≤ column')) ∧
    ∃ trace tokens s', sparse.Run 0 ['b', 'z'] .start trace tokens s' ∧
      t'.Run 0 ['b', 'z'] .start trace tokens s' := by
  have hadded : sparse.extend? additions = .ok (sparse.extend additions).1 :=
    extend?_eq_ok_iff.2 (Prod.ext rfl (by decide +kernel))
  have hgrows : sparse.Grows (sparse.extend additions).1 := .extend .refl hadded
  have hok : sparse.scan {} "bz" = .ok [⟨"LETTER", "b", 0⟩, ⟨"MARK", "z", 0⟩] := by decide +kernel
  have hmissing : sparse.scan {} "bx" = .error (.captureMissing "MARK" 2 0 1) := by decide +kernel
  have hblank : sparse.scan {} "b !" = .error (.unexpected 0 1 " !") := by decide +kernel
  have hempty : (sparse.extend additions).1.scan {} "b !" = .error (.zeroWidth "BLANK" 0 2) := by
    decide +kernel
  have hline : sparse.scanLine {} 0 (.ofLine ['b', 'z']) =
      .ok [⟨"LETTER", "b", 0⟩, ⟨"MARK", "z", 0⟩] := by decide +kernel
  obtain ⟨trace, last, hrun⟩ := (scanLine_eq_ok_iff (Cursor.at_ofLine _)).1 hline
  obtain ⟨hscanned, -, -, hruns⟩ := scan_of_grows hgrows {} "bz"
  obtain ⟨-, hmatched, -, -⟩ := scan_of_grows hgrows {} "bx"
  obtain ⟨-, -, hunmatched, -⟩ := scan_of_grows hgrows {} "b !"
  refine ⟨_, hgrows, ⟨hok, hscanned _ hok⟩, ⟨hmissing, hmatched _ hmissing rfl⟩,
    ⟨hblank, hempty, ?_⟩, trace, _, _, hrun, hruns _ _ _ _ _ _ hrun⟩
  -- the scan neither succeeds nor is refused
  rcases hunmatched _ 0 1 hblank rfl with ⟨tokens, hscan⟩ | ⟨message, hscan⟩ | hbehind
  · exact absurd (hscan.symm.trans hempty) (by simp)
  · exact absurd (hscan.symm.trans hempty) (by simp)
  · exact hbehind

end Table

end RuleLexer
