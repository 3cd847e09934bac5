import RuleLexer.Proofs.Scan.Position

/-!
# What words a failure does not steer the scan

Descriptors, the fallback of a table and the length to which texts are quoted say how a failure is
reported. None of them has a say in which rule matches where, in the tokens, or in the place of a
failure.

* `Rule.undescribed` — a rule but for its descriptor;
* `Fault.Rewords` — a fault and the same failure, worded anew: the same fault where a rule matched,
  and a fault for want of a match at the same place where none did.

Two tables that have the same rules but for descriptors find the same match at a cursor
(`Table.firstMatch?_undescribed`), and accept it alike. So their steps are alike
(`Table.alike_step`), and with them their scans. The main statement is `Table.scan_rewords`.
-/

namespace RuleLexer

/-- **The rule but for its descriptor.** -/
def Rule.undescribed (r : Rule) : Rule := { r with descriptor := none }

/-- **The same failure, worded anew.** -/
inductive Fault.Rewords : Fault → Fault → Prop
  /-- A rule matched: there is nothing to be worded. -/
  | same {fault : Fault} (matched : fault.unmatched? = none) : Rewords fault fault
  /-- No rule matches at some line and column. -/
  | unmatched {fault fault' : Fault} {place : Nat × Nat} (h : fault.unmatched? = some place)
      (h' : fault'.unmatched? = some place) : Rewords fault fault'

/-- A match that is refused is a match. -/
theorem Rule.unmatched?_of_accept {r : Rule} {number : Nat} {cur : Cursor} {m : Match}
    {fault : Fault} (h : r.accept number cur m = .error fault) : fault.unmatched? = none := by
  obtain ⟨-, ⟨-, rfl⟩ | ⟨_, _, _, -, -, -, rfl⟩⟩ := accept_eq_error h
  · rfl
  · rfl

namespace Table

variable {t t' : Table} {options options' : ScanOptions} {number : Nat} {cur : Cursor}

/-- A fault for want of a match gives the place of the cursor. -/
theorem unmatched?_noMatch (t : Table) (options : ScanOptions) (number : Nat) (cur : Cursor) :
    (t.noMatch options number cur).unmatched? = some (number, cur.column) := by
  obtain ⟨origin, choice, -, hreport⟩ := t.exists_selects_noMatch options number cur
  rw [hreport]
  cases choice with
  | some d => rfl
  | none => rfl

/-- **Where two tables find the same match**, their steps are alike: they accept it alike, and only
where there is none may their faults differ. -/
theorem alike_step_of_firstMatch? {R : Fault → Fault → Prop}
    (found : t'.firstMatch? cur = t.firstMatch? cur)
    (same : ∀ fault, fault.unmatched? = none → R fault fault)
    (want : R (t.noMatch options number cur) (t'.noMatch options' number cur)) :
    Alike Eq R (t.step options number cur) (t'.step options' number cur) := by
  unfold step
  rw [found]
  cases t.firstMatch? cur with
  | none => exact .error want
  | some found =>
    obtain ⟨r, m⟩ := found
    dsimp only
    by_cases hempty : m.text.isEmpty = true
    · rw [if_pos hempty]
      exact .error (same _ rfl)
    · rw [if_neg hempty]
      cases houtcome : r.accept number cur m with
      | ok found => exact .ok rfl
      | error fault => exact .error (same fault (Rule.unmatched?_of_accept houtcome))

/-- **The same match is found**, whatever the descriptors. -/
theorem firstMatch?_undescribed
    (same : t.rules.map Rule.undescribed = t'.rules.map Rule.undescribed) (cur : Cursor) :
    (t.firstMatch? cur).map (fun found => (found.1.undescribed, found.2)) =
      (t'.firstMatch? cur).map fun found => (found.1.undescribed, found.2) := by
  have hpattern : ∀ r : Rule, r.undescribed.pattern = r.pattern := fun _ => rfl
  have hdependsOn : ∀ r : Rule, r.undescribed.dependsOn = r.dependsOn := fun _ => rfl
  -- the search among the rules without their descriptors, which are the same for both tables
  rw [← firstMatch?_map hpattern hdependsOn, ← firstMatch?_map hpattern hdependsOn]
  rw [firstMatch?, firstMatch?]
  dsimp only
  rw [same]

/-- **One step** of two tables that have the same rules but for descriptors. -/
theorem alike_step (same : t.rules.map Rule.undescribed = t'.rules.map Rule.undescribed)
    (options options' : ScanOptions) (number : Nat) (cur : Cursor) :
    Alike Eq Fault.Rewords (t.step options number cur) (t'.step options' number cur) := by
  -- both tables find the same match, or neither finds one
  have hfound := firstMatch?_undescribed same cur
  unfold step
  cases hfirst : t.firstMatch? cur with
  | none =>
    rw [hfirst, Option.map_none] at hfound
    rw [Option.map_eq_none_iff.1 hfound.symm]
    -- the words may differ here, and only here
    exact .error (.unmatched (unmatched?_noMatch t options number cur)
      (unmatched?_noMatch t' options' number cur))
  | some found =>
    obtain ⟨r, m⟩ := found
    rw [hfirst, Option.map_some] at hfound
    obtain ⟨⟨r', m'⟩, hfirst', hpair⟩ := Option.map_eq_some_iff.1 hfound.symm
    obtain ⟨hrule, rfl⟩ : r'.undescribed = r.undescribed ∧ m' = m := Prod.mk.inj hpair
    rw [hfirst']
    dsimp only
    -- but for its descriptor, the rule is the same, and so it treats the match alike
    have hname : r'.name = r.name :=
      calc r'.name
          = r'.undescribed.name := rfl
        _ = r.undescribed.name := by rw [hrule]
        _ = r.name := rfl
    have haccept : r'.accept number cur m' = r.accept number cur m' :=
      calc r'.accept number cur m'
          = r'.undescribed.accept number cur m' := rfl
        _ = r.undescribed.accept number cur m' := by rw [hrule]
        _ = r.accept number cur m' := rfl
    by_cases hempty : m'.text.isEmpty = true
    · rw [if_pos hempty, if_pos hempty, hname]
      exact .error (.same rfl)
    · rw [if_neg hempty, if_neg hempty, haccept]
      cases houtcome : r.accept number cur m' with
      | ok found => exact .ok rfl
      | error fault => exact .error (.same (Rule.unmatched?_of_accept houtcome))

/-- **Descriptors, fallback and the length of quotes do not steer the scan.** If two tables have the
same rules but for descriptors, then for every choice of options both scan a text to the same
tokens, or both fail with the same fault, a match being empty, lacking a group or refused by a
callback, or both fail for want of a match, at the same line and column. -/
theorem scan_rewords {t t' : Table}
    (same : t.rules.map Rule.undescribed = t'.rules.map Rule.undescribed)
    (options options' : ScanOptions) (text : String) :
    (∃ tokens, t.scan options text = .ok tokens ∧ t'.scan options' text = .ok tokens) ∨
    (∃ fault, fault.unmatched? = none ∧ t.scan options text = .error fault ∧
      t'.scan options' text = .error fault) ∨
    ∃ fault fault' line column, fault.unmatched? = some (line, column) ∧
      fault'.unmatched? = some (line, column) ∧ t.scan options text = .error fault ∧
        t'.scan options' text = .error fault' := by
  have halike : Alike Eq Fault.Rewords (t.scan options text) (t'.scan options' text) :=
    scan_alike_of_step (alike_step same options options') text
  generalize t.scan options text = outcome at halike
  generalize t'.scan options' text = outcome' at halike
  cases halike with
  | @ok tokens tokens' htokens => exact Or.inl ⟨tokens, rfl, congrArg Except.ok htokens.symm⟩
  | @error fault fault' hrewords =>
    cases hrewords with
    | same hmatched => exact Or.inr (Or.inl ⟨fault, hmatched, rfl, rfl⟩)
    | unmatched h h' => exact Or.inr (Or.inr ⟨fault, fault', _, _, h, h', rfl, rfl⟩)

/-- A keyword, a name that depends on it and may describe failures, and blanks that may be none. -/
def letting (descriptor fallback : Option Descriptor) : Table where
  rules :=
    [{ name := "LET", pattern := .ofValid ["let"] (by decide +kernel) },
     { name := "NAME", pattern := .ofValid ["[a-x]+"] (by decide +kernel), dependsOn := some "LET"
       descriptor := descriptor },
     { name := "BLANK", pattern := .ofValid [" *"] (by decide +kernel), dependsOn := some "NAME"
       skips := true }]
  fallback := fallback

/-- The rules without any descriptor. -/
def terse : Table := letting none none

/-- The rules with a descriptor for names, and a fallback. -/
def wordy : Table := letting (some ⟨"Name", "found [[TEXT]]"⟩) (some ⟨"Other", "no match"⟩)

/-- With and without descriptors, and with quotes of no character and of very many, the scans agree
but for the words. -/
theorem scan_rewords_letting :
    terse.rules.map Rule.undescribed = wordy.rules.map Rule.undescribed ∧
    (terse.scan ⟨0⟩ "letx" = .ok [⟨"LET", "let", 0⟩, ⟨"NAME", "x", 0⟩] ∧
      wordy.scan ⟨18446744073709551615⟩ "letx" = .ok [⟨"LET", "let", 0⟩, ⟨"NAME", "x", 0⟩]) ∧
    (terse.scan ⟨0⟩ "letx!" = .error (.zeroWidth "BLANK" 0 4) ∧
      wordy.scan ⟨18446744073709551615⟩ "letx!" = .error (.zeroWidth "BLANK" 0 4)) ∧
    terse.scan ⟨0⟩ "let!" = .error (.unexpected 0 3 "...") ∧
    ∃ fault', fault'.unmatched? = some (0, 3) ∧
      wordy.scan ⟨18446744073709551615⟩ "let!" = .error fault' ∧
      fault' = .described "Name" "found !" 0 3 "!" := by
  have hsame : terse.rules.map Rule.undescribed = wordy.rules.map Rule.undescribed := rfl
  have hok : terse.scan ⟨0⟩ "letx" = .ok [⟨"LET", "let", 0⟩, ⟨"NAME", "x", 0⟩] := by decide +kernel
  have hempty : terse.scan ⟨0⟩ "letx!" = .error (.zeroWidth "BLANK" 0 4) := by decide +kernel
  have hwant : terse.scan ⟨0⟩ "let!" = .error (.unexpected 0 3 "...") := by decide +kernel
  have hworded : wordy.scan ⟨18446744073709551615⟩ "let!" =
      .error (.described "Name" "found !" 0 3 "!") := by decide +kernel
  refine ⟨hsame, ⟨hok, ?_⟩, ⟨hempty, ?_⟩, hwant, ?_⟩
  · rcases scan_rewords hsame ⟨0⟩ ⟨18446744073709551615⟩ "letx" with
      ⟨_, h, h'⟩ | ⟨_, -, h, -⟩ | ⟨_, _, _, _, -, -, h, -⟩
    · rw [h', ← h, hok]
    all_goals exact absurd (h.symm.trans hok) (by simp)
  · rcases scan_rewords hsame ⟨0⟩ ⟨18446744073709551615⟩ "letx!" with
      ⟨_, h, -⟩ | ⟨_, -, h, h'⟩ | ⟨_, _, _, _, hunmatched, -, h, -⟩
    · exact absurd (h.symm.trans hempty) (by simp)
    · rw [h', ← h, hempty]
    · obtain rfl := Except.error.inj (h.symm.trans hempty)
      exact absurd hunmatched (by simp [Fault.unmatched?])
  · rcases scan_rewords hsame ⟨0⟩ ⟨18446744073709551615⟩ "let!" with
      ⟨_, h, -⟩ | ⟨_, hmatched, h, -⟩ | ⟨_, fault', _, _, hunmatched, hunmatched', h, h'⟩
    · exact absurd (h.symm.trans hwant) (by simp)
    · obtain rfl := Except.error.inj (h.symm.trans hwant)
      exact absurd hmatched (by simp [Fault.unmatched?])
    · obtain rfl := Except.error.inj (h.symm.trans hwant)
      rw [← hunmatched] at hunmatched'
      exact ⟨fault', hunmatched', h', Except.error.inj (h'.symm.trans hworded)⟩

end Table

end RuleLexer
