import RuleLexer.Table
import RuleLexer.Text.Lines

/-!
# Scanning

A text is scanned line by line. On each line a cursor moves from the start to the end: the rules are
tried in the order of priority, those left out that depend on another rule than the one that matched
last, and the first that matches where the cursor stands moves it behind its match. A match of a
rule that skips leaves no trace; any other match yields a token, subject to the rule's callback, and
makes the rule the one that matched last.

Where no rule matches, the failure is reported by the first descriptor among those of the rules that
were due because of a dependency, of the rules that were left out, and of the table itself.
-/

namespace RuleLexer

/-- What can be chosen for a scan. -/
structure ScanOptions where
  /-- The number of characters of unmatched text that a failure quotes. -/
  maxErrorText : Nat := 40
  deriving DecidableEq, Repr

/-- A place on a line. -/
structure Cursor where
  /-- The number of characters before the place. -/
  column : Nat
  /-- The characters after the place. -/
  rest : List Char
  /-- The name of the rule that matched last, matches of skipping rules aside. -/
  last : Option String
  deriving DecidableEq, Repr

namespace Cursor

/-- The start of a line. -/
def ofLine (line : List Char) : Cursor := ⟨0, line, none⟩

/-- The cursor behind a match. -/
def past (cur : Cursor) (m : Match) : Cursor :=
  { cur with column := cur.column + m.extent, rest := cur.rest.drop m.extent }

theorem rest_past_lt {cur : Cursor} {m : Match} (more : cur.rest ≠ []) (some : m.text ≠ []) :
    (cur.past m).rest.length < cur.rest.length := by
  have := List.length_pos_iff.2 more
  have := List.length_pos_iff.2 some
  simp only [past, Match.extent, List.length_drop]
  omega

end Cursor

namespace Table

/-! ### Failures -/

/-- A text cut to a number of characters, with dots behind it if something was cut. -/
def excerpt (text : List Char) (most : Nat) : String :=
  if most < text.length then String.ofList (text.take most) ++ "..." else String.ofList text

/-- The descriptor of the first rule that was tried because the rule that it depends on matched. -/
def dueDescriptor? (t : Table) (last : Option String) : Option Descriptor :=
  (t.rules.filter fun r => r.dependsOn.isSome && r.eligible last).findSome? (·.descriptor)

/-- The descriptor of the first rule that was left out. -/
def heldDescriptor? (t : Table) (last : Option String) : Option Descriptor :=
  (t.rules.filter fun r => !r.eligible last).findSome? (·.descriptor)

/-- **The fault where no rule matches.** -/
def noMatch (t : Table) (options : ScanOptions) (line : Nat) (cur : Cursor) : Fault :=
  let text := excerpt cur.rest options.maxErrorText
  match t.dueDescriptor? cur.last <|> t.heldDescriptor? cur.last <|> t.fallback with
  | some d => .ofDescriptor d line cur.column text
  | none => .unexpected line cur.column text

/-! ### One step -/

/-- The first rule that matches where the cursor stands, with its match. -/
def firstMatch? (t : Table) (cur : Cursor) : Option (Rule × Match) :=
  (t.rules.filter (·.eligible cur.last)).findSome? fun rule =>
    (rule.pattern.matchOn? cur.rest).map fun m => (rule, m)

end Table

namespace Rule

/-- What a callback leaves of a token. -/
def settle (onMatch : Option Callback) (token : Token) : Except Fault (Option Token) :=
  match onMatch with
  | none => .ok (some token)
  | some callback =>
    match callback token with
    | .error message => .error (.refused message)
    | .ok .keep => .ok (some token)
    | .ok (.replace other) => .ok (some other)
    | .ok .suppress => .ok none

/-- **What a match of a rule yields**: the token, if any, and the cursor behind the match. -/
def accept (r : Rule) (line : Nat) (cur : Cursor) (m : Match) :
    Except Fault (Option Token × Cursor) :=
  if r.skips then .ok (none, cur.past m)
  else
    let group := r.capture.getD 0
    match m.group? group with
    | none => .error (.captureMissing r.name group line cur.column)
    | some value => do
      let token ← settle r.onMatch ⟨r.name, String.ofList value, line⟩
      return (token, { cur.past m with last := some r.name })

theorem rest_of_accept {r : Rule} {line : Nat} {cur next : Cursor} {m : Match}
    {token : Option Token} (h : r.accept line cur m = .ok (token, next)) :
    next.rest = (cur.past m).rest := by
  unfold accept at h
  split at h
  · cases h; rfl
  · dsimp only at h
    split at h
    · cases h
    · cases hs : settle r.onMatch ⟨r.name, String.ofList _, line⟩ with
      | error e => rw [hs] at h; cases h
      | ok token' => rw [hs] at h; cases h; rfl

end Rule

namespace Table

/-- **One step of a scan** at a place that is not the end of the line. -/
def step (t : Table) (options : ScanOptions) (line : Nat) (cur : Cursor) :
    Except Fault (Option Token × Cursor) :=
  match t.firstMatch? cur with
  | none => .error (t.noMatch options line cur)
  | some (rule, m) =>
    if m.text.isEmpty then .error (.zeroWidth rule.name line cur.column)
    else rule.accept line cur m

/-- **Every step moves on.** A step that succeeds leaves fewer characters on the line. -/
theorem rest_step_lt {t : Table} {options : ScanOptions} {line : Nat} {cur next : Cursor}
    {token : Option Token} (more : cur.rest ≠ [])
    (h : t.step options line cur = .ok (token, next)) : next.rest.length < cur.rest.length := by
  unfold step at h
  split at h
  · cases h
  · split at h
    · cases h
    · next rule m _ hne =>
      rw [Rule.rest_of_accept h]
      exact Cursor.rest_past_lt more (by simpa using hne)

/-! ### Lines and texts -/

/-- **Scanning a line** from a cursor on. -/
def scanLine (t : Table) (options : ScanOptions) (line : Nat) (cur : Cursor) :
    Except Fault (List Token) :=
  if more : cur.rest = [] then .ok []
  else
    match h : t.step options line cur with
    | .error fault => .error fault
    | .ok (token, next) =>
      have := rest_step_lt more h
      (t.scanLine options line next).map (token.toList ++ ·)
termination_by cur.rest.length

/-- Scans lines that are numbered from `line` on. -/
def scanLines (t : Table) (options : ScanOptions) (line : Nat) :
    List (List Char) → Except Fault (List Token)
  | [] => .ok []
  | l :: ls => do
    let tokens ← t.scanLine options line (.ofLine l)
    return tokens ++ (← t.scanLines options (line + 1) ls)

/-- **Scanning a text**: its tokens, or the first fault. -/
def scan (t : Table) (options : ScanOptions) (text : String) : Except Fault (List Token) :=
  t.scanLines options 0 (Text.lines text.toList)

end Table

end RuleLexer
