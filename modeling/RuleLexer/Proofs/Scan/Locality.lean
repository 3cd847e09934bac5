import RuleLexer.Proofs.Scan.Position

/-!
# Lines are scanned on their own

Behind a line feed a scan begins afresh: what it does on a line depends neither on the lines before
nor on how many there are, but for the number of the line, which stands in tokens and faults. So a
text in two parts, the first of which ends with a line feed, is scanned like the parts.

* `Token.lower` — a token, some lines further down;
* `Table.Lowers` — a fault and the same failure, some lines further down. A message is rendered anew
  from the descriptor that is selected at the spot of the failure.

Without callbacks, which may look at the line of a token, a run on a line is a run on every line
with these characters (`Table.Run.lower`), and a fault that blames a spot has one like it that
blames the same spot further down (`Table.Blames.lower`). The lines of the text are those of its
parts, one after the other (`lines_of_parts`), so that every spot that the scan of a part reaches is
reached in the text (`Table.Reaches.inHead`, `Table.Reaches.inTail`). The main statement is
`Table.scan_parts`.
-/

namespace RuleLexer

open Text (byteLength)

/-! ### Some lines further down -/

/-- The token, some lines further down. -/
def Token.lower (k : Nat) (token : Token) : Token := { token with line := token.line + k }

/-- What a match leaves behind without a callback, it leaves behind on every line. -/
theorem Rule.Contributes.lower {r : Rule} {number : Nat} {last last' : Option String} {m : Match}
    {out : List Token} (h : r.Contributes number last m out last') (quiet : r.onMatch = none)
    (k : Nat) : r.Contributes (number + k) last m (out.map (Token.lower k)) last' := by
  rcases h.quiet_cases quiet with ⟨hskips, rfl, rfl⟩ | ⟨value, hskips, hsel, rfl, rfl⟩
  · exact .skip hskips
  · exact .keep hskips hsel fun f hf => absurd (quiet.symm.trans hf) (by simp)

namespace Table

variable {t : Table} {options : ScanOptions} {number : Nat} {line : List Char}

/-- No rule of the table has a callback. -/
def Quiet (t : Table) : Prop := ∀ r ∈ t.rules, r.onMatch = none

/-- **A run on a line is a run on every line** with the same characters. -/
theorem Run.lower {s s' : Spot} {trace : List (Rule × Match)} {tokens : List Token}
    (h : t.Run number line s trace tokens s') (quiet : t.Quiet) (k : Nat) :
    t.Run (number + k) line s trace (tokens.map (Token.lower k)) s' := by
  induction h with
  | stop s => exact .stop s
  | move hpicks hsome hleaves _ ih =>
    rw [List.map_append]
    exact .move hpicks hsome (hleaves.lower (quiet _ hpicks.first.mem) k) ih

theorem Covers.lower {tokens : List Token} (h : t.Covers (line, number) tokens) (quiet : t.Quiet)
    (k : Nat) : t.Covers (line, number + k) (tokens.map (Token.lower k)) := by
  obtain ⟨trace, last, hrun⟩ := h
  exact ⟨trace, last, hrun.lower quiet k⟩

/-- Lines with runs over all of them have runs when they are numbered from further down. -/
theorem covers_zipIdx_lower {lines : List (List Char)} {parts : List (List Token)}
    (h : List.Forall₂ t.Covers (lines.zipIdx number) parts) (quiet : t.Quiet) (k : Nat) :
    List.Forall₂ t.Covers (lines.zipIdx (number + k)) (parts.map (List.map (Token.lower k))) := by
  induction lines generalizing number parts with
  | nil =>
    cases h
    exact .nil
  | cons l lines ih =>
    rw [List.zipIdx_cons] at h ⊢
    cases h with
    | cons hcovers hrest =>
      have hlowered := ih hrest
      rw [Nat.add_right_comm] at hlowered
      exact .cons (hcovers.lower quiet k) hlowered

/-- **The same failure, some lines further down**, where `last` is the rule that matched last: of
the same kind, with the same rule, group, column and text, and with the message that the selected
descriptor renders for the lower line. -/
inductive Lowers (t : Table) (last : Option String) (k : Nat) : Fault → Fault → Prop
  /-- No rule matches, and no descriptor is selected. -/
  | unexpected (line column : Nat) (text : String) :
      Lowers t last k (.unexpected line column text) (.unexpected (line + k) column text)
  /-- No rule matches, and a descriptor is selected. -/
  | described {origin : Origin} {d : Descriptor} (selects : t.Selects last origin (some d))
      (line column : Nat) (text : String) :
      Lowers t last k (.described d.kind (d.render line column text) line column text)
        (.described d.kind (d.render (line + k) column text) (line + k) column text)
  /-- A match is empty. -/
  | zeroWidth (rule : String) (line column : Nat) :
      Lowers t last k (.zeroWidth rule line column) (.zeroWidth rule (line + k) column)
  /-- A match lacks a group. -/
  | captureMissing (rule : String) (group line column : Nat) :
      Lowers t last k (.captureMissing rule group line column)
        (.captureMissing rule group (line + k) column)

/-- **A fault that blames a spot has one like it on every line** with the same characters. -/
theorem Blames.lower {column : Nat} {s : Spot} {fault : Fault}
    (h : t.Blames options number line column s fault) (quiet : t.Quiet) (k : Nat) :
    ∃ fault', t.Lowers s.last k fault fault' ∧
      t.Blames options (number + k) line column s fault' := by
  cases h with
  | unexpected hunmatched hselects hquotes =>
    exact ⟨_, .unexpected number column _, .unexpected hunmatched hselects hquotes⟩
  | described hunmatched hselects hquotes =>
    exact ⟨_, .described hselects number column _, .described hunmatched hselects hquotes⟩
  | zeroWidth hpicks hempty =>
    exact ⟨_, .zeroWidth _ number column, .zeroWidth hpicks hempty⟩
  | captureMissing hpicks hsome hskips habsent =>
    exact ⟨_, .captureMissing _ _ number column, .captureMissing hpicks hsome hskips habsent⟩
  | refused hpicks _ _ _ hcalls =>
    exact absurd ((quiet _ hpicks.first.mem).symm.trans hcalls) (by simp)

end Table

/-! ### A text in two parts -/

section Parts

variable (head tail : String)

/-- **The lines of a text in two parts** are those of the parts, if the first ends with a line
feed. -/
theorem lines_of_parts :
    Text.lines (head ++ "\n" ++ tail).toList =
      Text.lines (head ++ "\n").toList ++ Text.lines tail.toList := by
  have hfeed : ("\n").toList = ['\n'] := by decide
  rw [String.toList_append, String.toList_append, hfeed, List.append_assoc]
  exact Text.linesFrom_append_feed [] head.toList tail.toList

theorem length_lines_head :
    (Text.lines (head ++ "\n").toList).length = head.toList.count '\n' + 1 := by
  have hfeed : ("\n").toList = ['\n'] := by decide
  rw [String.toList_append, hfeed]
  exact Text.length_linesFrom_feed [] head.toList

variable {head}

/-- A line of the first part stands in the text at the same place. -/
theorem getElem?_lines_head {i : Nat} (inside : i < head.toList.count '\n' + 1) :
    (Text.lines (head ++ "\n" ++ tail).toList)[i]? = (Text.lines (head ++ "\n").toList)[i]? := by
  rw [← length_lines_head] at inside
  rw [lines_of_parts, List.getElem?_append_left inside]

variable (head) {tail}

/-- A line of the second part stands in the text further down. -/
theorem getElem?_lines_tail (i : Nat) :
    (Text.lines (head ++ "\n" ++ tail).toList)[i + (head.toList.count '\n' + 1)]? =
      (Text.lines tail.toList)[i]? := by
  rw [lines_of_parts, ← length_lines_head, List.getElem?_append_right (Nat.le_add_left _ _),
    Nat.add_sub_cancel]

end Parts

namespace Table

variable {t : Table} {options : ScanOptions} {head tail : String}

/-- Every line of a text that is scanned has a run over all of it. -/
theorem exists_covers {text : String} {tokens : List Token}
    (h : t.scan options text = .ok tokens) {i : Nat} {line : List Char}
    (hline : (Text.lines text.toList)[i]? = some line) : ∃ tokens, t.Covers (line, i) tokens := by
  obtain ⟨parts, hparts, -⟩ := scanLines_eq_ok_iff.1 h
  have hall : List.Forall₂ (fun l part => (∃ tokens, t.Covers l tokens) ∧ t.Covers l part)
      (Text.lines text.toList).zipIdx parts :=
    hparts.imp fun l part hcovers => ⟨⟨part, hcovers⟩, hcovers⟩
  exact ((List.forall₂_and_left _ _).1 hall).1 _ (List.mem_zipIdx_iff_getElem?.2 hline)

/-- **What the scan of the first part reaches, the scan of the text reaches.** -/
theorem Reaches.inHead {number : Nat} {line : List Char} {trace : List (Rule × Match)} {s : Spot}
    (h : t.Reaches (head ++ "\n") number line trace s) (tail : String) :
    t.Reaches (head ++ "\n" ++ tail) number line trace s where
  onLine := by
    obtain ⟨hlt, -⟩ := List.getElem?_eq_some_iff.1 h.onLine
    rw [length_lines_head] at hlt
    rw [getElem?_lines_head tail hlt]
    exact h.onLine
  before := by
    intro i l hi hl
    obtain ⟨hlt, -⟩ := List.getElem?_eq_some_iff.1 h.onLine
    rw [length_lines_head] at hlt
    rw [getElem?_lines_head tail (Nat.lt_trans hi hlt)] at hl
    exact h.before i l hi hl
  run := h.run
  more := h.more

/-- **What the scan of the second part reaches, the scan of the text reaches** further down, if the
first part is scanned. -/
theorem Reaches.inTail {number : Nat} {line : List Char} {trace : List (Rule × Match)} {s : Spot}
    {tokens : List Token} (h : t.Reaches tail number line trace s) (quiet : t.Quiet)
    (scanned : t.scan options (head ++ "\n") = .ok tokens) :
    t.Reaches (head ++ "\n" ++ tail) (number + (head.toList.count '\n' + 1)) line trace s where
  onLine := (getElem?_lines_tail head number).trans h.onLine
  before := by
    intro i l hi hl
    by_cases hhead : i < head.toList.count '\n' + 1
    · rw [getElem?_lines_head tail hhead] at hl
      exact exists_covers scanned hl
    · -- the line is one of the second part, with a lower number there
      obtain ⟨j, rfl⟩ := Nat.exists_eq_add_of_le' (Nat.not_lt.1 hhead)
      rw [getElem?_lines_tail] at hl
      obtain ⟨tokens', hcovers⟩ := h.before j l (Nat.lt_of_add_lt_add_right hi) hl
      exact ⟨_, hcovers.lower quiet _⟩
  run := by
    obtain ⟨tokens', hrun⟩ := h.run
    exact ⟨_, hrun.lower quiet _⟩
  more := h.more

/-- The tokens of a text are those of its parts, if both are scanned. -/
theorem scan_parts_eq_ok {tokens tokens' : List Token} (quiet : t.Quiet)
    (hhead : t.scan options (head ++ "\n") = .ok tokens)
    (htail : t.scan options tail = .ok tokens') :
    t.scan options (head ++ "\n" ++ tail) =
      .ok (tokens ++ tokens'.map (Token.lower (head.toList.count '\n' + 1))) := by
  obtain ⟨parts, hparts, rfl⟩ := scanLines_eq_ok_iff.1 hhead
  obtain ⟨parts', hparts', rfl⟩ := scanLines_eq_ok_iff.1 htail
  -- the lines of the second part are numbered from behind the first on
  have hlowered := covers_zipIdx_lower hparts' quiet (head.toList.count '\n' + 1)
  refine scanLines_eq_ok_iff.2
    ⟨parts ++ parts'.map (List.map (Token.lower (head.toList.count '\n' + 1))), ?_, ?_⟩
  · rw [lines_of_parts, List.zipIdx_append, length_lines_head]
    exact List.rel_append hparts hlowered
  · rw [List.flatten_append, List.map_flatten]

/-- **A text in two parts is scanned like the parts**, if the first ends with a line feed and no
rule has a callback. If the first part fails, the text fails with the same fault. If both parts are
scanned, the tokens of the text are those of the parts, the second ones as many lines further down
as the first part has. And if only the second part fails, the text fails at the same spot, behind
the same matches on that line, with the same fault as many lines further down. -/
theorem scan_parts (t : Table) (quiet : t.Quiet) (options : ScanOptions) (head tail : String) :
    (∀ fault, t.scan options (head ++ "\n") = .error fault →
      t.scan options (head ++ "\n" ++ tail) = .error fault) ∧
    (∀ tokens tokens', t.scan options (head ++ "\n") = .ok tokens →
      t.scan options tail = .ok tokens' →
      t.scan options (head ++ "\n" ++ tail) =
        .ok (tokens ++ tokens'.map (Token.lower (head.toList.count '\n' + 1)))) ∧
    ∀ tokens fault, t.scan options (head ++ "\n") = .ok tokens →
      t.scan options tail = .error fault →
      ∃ number line trace s column fault',
        (t.Reaches tail number line trace s ∧ t.Blames options number line column s fault) ∧
        t.Reaches (head ++ "\n" ++ tail) (number + (head.toList.count '\n' + 1)) line trace s ∧
        t.Lowers s.last (head.toList.count '\n' + 1) fault fault' ∧
        t.scan options (head ++ "\n" ++ tail) = .error fault' := by
  refine ⟨fun fault hhead => ?_, fun tokens tokens' hhead htail => ?_,
    fun tokens fault hhead htail => ?_⟩
  · obtain ⟨number, line, trace, s, column, hreaches, hinside, hoffset, hblames⟩ :=
      scan_eq_error_iff.1 hhead
    exact scan_eq_error_iff.2
      ⟨number, line, trace, s, column, hreaches.inHead tail, hinside, hoffset, hblames⟩
  · exact scan_parts_eq_ok quiet hhead htail
  · obtain ⟨number, line, trace, s, column, hreaches, hinside, hoffset, hblames⟩ :=
      scan_eq_error_iff.1 htail
    obtain ⟨fault', hlowers, hblames'⟩ := hblames.lower quiet (head.toList.count '\n' + 1)
    have hreaches' := hreaches.inTail quiet hhead
    exact ⟨number, line, trace, s, column, fault', ⟨hreaches, hblames⟩, hreaches', hlowers,
      scan_eq_error_iff.2 ⟨_, line, trace, s, column, hreaches', hinside, hoffset, hblames'⟩⟩

/-- Letters, a digit that may only follow a letter, and a descriptor that gives the place. -/
def numbered : Table where
  rules :=
    [{ name := "LETTER", pattern := .ofValid ["[A-Z]"] (by decide +kernel) },
     { name := "DIGIT", pattern := .ofValid ["[0-9]"] (by decide +kernel), dependsOn := some "LETTER"
       descriptor := some ⟨"Digit", "[[LINE]]:[[COLUMN]]"⟩ }]

/-- A letter on the line above does not let a digit follow, and the message gives the line of the
whole text. -/
theorem scan_parts_numbered :
    numbered.Quiet ∧
    (numbered.scan {} ("7" ++ "\n") = .error (.described "Digit" "0:0" 0 0 "7") ∧
      numbered.scan {} ("7" ++ "\n" ++ "A") = .error (.described "Digit" "0:0" 0 0 "7")) ∧
    (numbered.scan {} ("A\r" ++ "\n") = .ok [⟨"LETTER", "A", 0⟩] ∧
      numbered.scan {} "B" = .ok [⟨"LETTER", "B", 0⟩] ∧
      numbered.scan {} ("A\r" ++ "\n" ++ "B") = .ok [⟨"LETTER", "A", 0⟩, ⟨"LETTER", "B", 1⟩]) ∧
    numbered.scan {} "7" = .error (.described "Digit" "0:0" 0 0 "7") ∧
    numbered.scan {} ("A\r" ++ "\n" ++ "7") = .error (.described "Digit" "1:0" 1 0 "7") ∧
    ∃ number line trace s column,
      (numbered.Reaches "7" number line trace s ∧
        numbered.Blames {} number line column s (.described "Digit" "0:0" 0 0 "7")) ∧
      numbered.Reaches ("A\r" ++ "\n" ++ "7") (number + 1) line trace s ∧
      numbered.Lowers s.last 1 (.described "Digit" "0:0" 0 0 "7")
        (.described "Digit" "1:0" 1 0 "7") := by
  have hquiet : numbered.Quiet := by simp [Quiet, numbered]
  have hfails : numbered.scan {} ("7" ++ "\n") = .error (.described "Digit" "0:0" 0 0 "7") := by
    decide +kernel
  have hletter : numbered.scan {} ("A\r" ++ "\n") = .ok [⟨"LETTER", "A", 0⟩] := by decide +kernel
  have hsecond : numbered.scan {} "B" = .ok [⟨"LETTER", "B", 0⟩] := by decide +kernel
  have hdigit : numbered.scan {} "7" = .error (.described "Digit" "0:0" 0 0 "7") := by
    decide +kernel
  obtain ⟨hhead, -, -⟩ := scan_parts numbered hquiet {} "7" "A"
  obtain ⟨-, hboth, -⟩ := scan_parts numbered hquiet {} "A\r" "B"
  obtain ⟨-, -, htail⟩ := scan_parts numbered hquiet {} "A\r" "7"
  have hbelow : numbered.scan {} ("A\r" ++ "\n" ++ "7") =
      .error (.described "Digit" "1:0" 1 0 "7") := by
    decide +kernel
  obtain ⟨number, line, trace, s, column, fault', hwhere, hreaches, hlowers, hscan⟩ :=
    htail _ _ hletter hdigit
  obtain rfl := Except.error.inj (hscan.symm.trans hbelow)
  exact ⟨hquiet, ⟨hfails, hhead _ hfails⟩, ⟨hletter, hsecond, hboth _ _ hletter hsecond⟩, hdigit,
    hbelow, number, line, trace, s, column, hwhere, hreaches, hlowers⟩

end Table

end RuleLexer
