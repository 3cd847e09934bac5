import Mathlib.Data.List.Nodup
import RuleLexer.Proofs.Scan.Position

/-!
# Callbacks work on what a scan yields

A callback sees a token and decides what becomes of it. It has no say in which rule matches next:
that hangs on the name of the rule that matched, not on the token that was kept. So a scan can be
told in two stages: the *bare* table, the one without callbacks, is scanned first, and then the
callbacks go over its tokens from left to right.

* `Table.bare` — the table without callbacks;
* `Table.postprocess` — what the callbacks make of tokens, each of which is handed to the callback
  of the rule that it is named after, up to the first refusal;
* `Table.Collects` — the tokens that a scan has collected when it reaches a spot.

One match of the bare table is one step of the scan, with the callback at work on its token
(`Table.Picks.scanLine_eq_joined`). Along a run of the bare table the scan therefore collects what
the callbacks make of the tokens of the run, or ends with the first refusal
(`Table.Run.scanLine_eq_postprocess`), and the same holds over many lines
(`Table.scanLines_eq_postprocess`). A fault of the bare table blames a spot for reasons that have
nothing to do with callbacks (`Table.Blames.of_bare`), so that the scan fails there too unless a
callback refused a token on the way. The main statement is `Table.scan_eq_postprocess`.
-/

namespace RuleLexer

open Text (byteLength)

/-! ### Tables without callbacks -/

/-- The rule without its callback. -/
def Rule.bare (r : Rule) : Rule := { r with onMatch := none }

namespace Table

variable {t : Table} {options : ScanOptions} {number : Nat} {line : List Char}

/-- **The table without the callbacks** of its rules. -/
def bare (t : Table) : Table := { t with rules := t.rules.map Rule.bare }

/-- The matches that count are those of the table with callbacks. -/
theorem bare_picks_iff {s : Spot} {r' : Rule} {m : Match} :
    t.bare.Picks line s r' m ↔ ∃ r, r' = r.bare ∧ t.Picks line s r m := by
  have hsame : ∀ q : Rule, Matches line s q.bare ↔ Matches line s q := fun q => Iff.rfl
  constructor
  · rintro ⟨hfirst, hfound⟩
    obtain ⟨r, rfl, hr⟩ := (first_map_iff hsame).1 hfirst
    exact ⟨r, rfl, hr, hfound⟩
  · rintro ⟨r, rfl, hfirst, hfound⟩
    exact ⟨(first_map_iff hsame).2 ⟨r, rfl, hfirst⟩, hfound⟩

theorem forall_bare_iff {P : Rule → Prop} :
    (∀ q ∈ t.bare.rules, P q) ↔ ∀ q ∈ t.rules, P q.bare :=
  List.forall_mem_map

/-- Without callbacks, the same descriptor is selected. -/
theorem Selects.of_bare {last : Option String} {origin : Origin} {choice : Option Descriptor}
    (h : t.bare.Selects last origin choice) : t.Selects last origin choice := by
  have hdue : ∀ q : Rule, Due last q.bare ↔ Due last q := fun q => Iff.rfl
  have hheld : ∀ q : Rule, Held last q.bare ↔ Held last q := fun q => Iff.rfl
  cases h with
  | due hfirst hbrings =>
    obtain ⟨r, rfl, hr⟩ := (first_map_iff hdue).1 hfirst
    exact .due hr hbrings
  | held hnotDue hfirst hbrings =>
    obtain ⟨r, rfl, hr⟩ := (first_map_iff hheld).1 hfirst
    exact .held (forall_bare_iff.1 hnotDue) hr hbrings
  | fallback hnotDue hnotHeld hbrings =>
    exact .fallback (forall_bare_iff.1 hnotDue) (forall_bare_iff.1 hnotHeld) hbrings
  | usual hnotDue hnotHeld hnone =>
    exact .usual (forall_bare_iff.1 hnotDue) (forall_bare_iff.1 hnotHeld) hnone

/-- **A fault of the bare table has nothing to do with callbacks.** -/
theorem Blames.of_bare {column : Nat} {s : Spot} {fault : Fault}
    (h : t.bare.Blames options number line column s fault) :
    t.Blames options number line column s fault := by
  cases h with
  | unexpected hunmatched hselects hquotes =>
    exact .unexpected (forall_bare_iff.1 hunmatched) hselects.of_bare hquotes
  | described hunmatched hselects hquotes =>
    exact .described (forall_bare_iff.1 hunmatched) hselects.of_bare hquotes
  | zeroWidth hpicks hempty =>
    obtain ⟨r, rfl, hr⟩ := bare_picks_iff.1 hpicks
    change t.Blames options number line column s (.zeroWidth r.name number column)
    exact .zeroWidth hr hempty
  | captureMissing hpicks hsome hskips habsent =>
    obtain ⟨r, rfl, hr⟩ := bare_picks_iff.1 hpicks
    change t.Blames options number line column s
      (.captureMissing r.name (r.capture.getD 0) number column)
    exact .captureMissing hr hsome hskips habsent
  | refused hpicks _ _ _ hcalls =>
    obtain ⟨r, rfl, -⟩ := bare_picks_iff.1 hpicks
    exact absurd hcalls (by simp [Rule.bare])

/-! ### What the callbacks make of tokens -/

/-- The callback of the rule of a name, if there is such a rule and it has one. -/
def callback? (t : Table) (name : String) : Option Callback :=
  (t.rules.find? (·.name = name)).bind (·.onMatch)

/-- **What the callbacks make of tokens**, from left to right. Each token is handed to the callback
of the rule that it is named after, which keeps it, puts another in its place or drops it; without a
callback it is kept. The first refusal is the outcome. -/
def postprocess (t : Table) : List Token → Except Fault (List Token)
  | [] => .ok []
  | token :: tokens =>
    match t.callback? token.kind with
    | none => (t.postprocess tokens).map (token :: ·)
    | some f =>
      match f token with
      | .error message => .error (.refused message)
      | .ok .keep => (t.postprocess tokens).map (token :: ·)
      | .ok (.replace other) => (t.postprocess tokens).map (other :: ·)
      | .ok .suppress => t.postprocess tokens

/-- Where names are distinct, a rule of the table is the rule of its name. -/
theorem callback?_eq (distinct : t.names.Nodup) {r : Rule} (mem : r ∈ t.rules) :
    t.callback? r.name = r.onMatch := by
  have hsome : (t.rules.find? (·.name = r.name)).isSome = true :=
    List.find?_isSome.2 ⟨r, mem, decide_eq_true rfl⟩
  obtain ⟨r', hr'⟩ := Option.isSome_iff_exists.1 hsome
  have hname : r'.name = r.name := by simpa using List.find?_some hr'
  obtain rfl := List.inj_on_of_nodup_map distinct (List.mem_of_find?_eq_some hr') mem hname
  rw [callback?, hr', Option.bind_some]

/-- The callback at work on one token. -/
theorem postprocess_singleton (token : Token) :
    t.postprocess [token] =
      (Rule.settle (t.callback? token.kind) token).map Option.toList := by
  unfold postprocess Rule.settle
  cases t.callback? token.kind with
  | none => rfl
  | some f =>
    dsimp only
    cases f token with
    | error message => rfl
    | ok action => cases action <;> rfl

/-- The callbacks work on the first token, and then on the others. -/
theorem postprocess_cons (token : Token) (tokens : List Token) :
    t.postprocess (token :: tokens) = joined (t.postprocess [token]) (t.postprocess tokens) := by
  rw [postprocess, postprocess]
  cases t.callback? token.kind with
  | none => rfl
  | some f =>
    dsimp only
    cases f token with
    | error message => rfl
    | ok action =>
      cases action with
      | keep => rfl
      | replace other => rfl
      | suppress => exact (nil_joined _).symm

/-- **The callbacks work on tokens from left to right.** -/
theorem postprocess_append (tokens tokens' : List Token) :
    t.postprocess (tokens ++ tokens') =
      joined (t.postprocess tokens) (t.postprocess tokens') := by
  induction tokens with
  | nil => exact (nil_joined _).symm
  | cons token tokens ih =>
    calc t.postprocess (token :: (tokens ++ tokens'))
        = joined (t.postprocess [token]) (t.postprocess (tokens ++ tokens')) :=
          postprocess_cons token _
      _ = joined (joined (t.postprocess [token]) (t.postprocess tokens))
            (t.postprocess tokens') := by rw [ih, joined_assoc]
      _ = joined (t.postprocess (token :: tokens)) (t.postprocess tokens') := by
          rw [← postprocess_cons]

/-- The callbacks fail only with the refusal of one of the tokens. -/
theorem exists_refused {tokens : List Token} {fault : Fault}
    (h : t.postprocess tokens = .error fault) :
    ∃ token ∈ tokens, ∃ f message, t.callback? token.kind = some f ∧
      f token = .error message ∧ fault = .refused message := by
  induction tokens with
  | nil => exact absurd h (by simp [postprocess])
  | cons token tokens ih =>
    rw [postprocess_cons] at h
    rcases joined_eq_error_iff.1 h with hfirst | ⟨-, -, hlater⟩
    · rw [postprocess_singleton, map_eq_error_iff] at hfirst
      unfold Rule.settle at hfirst
      split at hfirst
      · cases hfirst
      · next f hcallback =>
        split at hfirst
        · next message hanswer =>
          exact ⟨token, List.mem_cons_self, f, message, hcallback, hanswer,
            (Except.error.inj hfirst).symm⟩
        all_goals cases hfirst
    · obtain ⟨token', hmem, hrefused⟩ := ih hlater
      exact ⟨token', List.mem_cons_of_mem token hmem, hrefused⟩

end Table

/-! ### One match, one line, many lines -/

/-- **A match that is accepted** leaves what the callbacks make of what it leaves behind without
them. -/
theorem Rule.accept_eq_postprocess {t : Table} (distinct : t.names.Nodup) {r : Rule}
    (mem : r ∈ t.rules) {number : Nat} {cur : Cursor} {last : Option String} {m : Match}
    {raw : List Token} (h : r.bare.Contributes number cur.last m raw last) :
    (r.accept number cur m).map (fun found => (found.1.toList, found.2)) =
      (t.postprocess raw).map fun out => (out, { cur.past m with last := last }) := by
  unfold accept
  cases h with
  | skip hskips =>
    change r.skips = true at hskips
    rw [if_pos hskips]
    rfl
  | @keep value hskips hsel =>
    change r.skips = false at hskips
    change m.group? (r.capture.getD 0) = some value at hsel
    rw [if_neg (by rw [hskips]; exact Bool.false_ne_true)]
    dsimp only
    rw [hsel, Table.postprocess_singleton]
    change _ = (Except.map Option.toList
      (settle (t.callback? r.name) ⟨r.name, String.ofList value, number⟩)).map _
    -- names are distinct, so the callback that is looked up by name is that of the rule
    rw [Table.callback?_eq distinct mem]
    dsimp only
    cases settle r.onMatch ⟨r.name, String.ofList value, number⟩ <;> rfl
  | replace _ _ hcalls => exact absurd hcalls (by simp [bare])
  | suppress _ _ hcalls => exact absurd hcalls (by simp [bare])

/-- **What a rule leaves behind** is what the callbacks make of what it leaves behind without its
callback. -/
theorem Rule.Contributes.exists_bare {t : Table} (distinct : t.names.Nodup) {r : Rule}
    (mem : r ∈ t.rules) {number : Nat} {last last' : Option String} {m : Match} {out : List Token}
    (h : r.Contributes number last m out last') :
    ∃ raw, r.bare.Contributes number last m raw last' ∧ t.postprocess raw = .ok out := by
  obtain ⟨token, rfl⟩ := h.eq_toList
  -- a rule that does not skip leaves one token behind, which its callback settles
  have hone : ∀ value, r.skips = false → m.group? (r.capture.getD 0) = some value →
      ∃ raw, r.bare.Contributes number last m raw last' ∧
        t.postprocess raw = .ok token.toList := by
    intro value hskips hsel
    obtain ⟨hsettle, rfl⟩ := (contributes_iff_settle hskips hsel).1 h
    refine ⟨[⟨r.name, String.ofList value, number⟩],
      .keep hskips hsel fun f hf => absurd hf (by simp [bare]), ?_⟩
    rw [Table.postprocess_singleton]
    change (settle (t.callback? r.name) ⟨r.name, String.ofList value, number⟩).map _ = _
    rw [Table.callback?_eq distinct mem, hsettle]
    rfl
  generalize token.toList = out at h hone ⊢
  cases h with
  | skip hskips => exact ⟨[], .skip hskips, rfl⟩
  | keep hskips hsel => exact hone _ hskips hsel
  | replace hskips hsel => exact hone _ hskips hsel
  | suppress hskips hsel => exact hone _ hskips hsel

namespace Table

variable {t : Table} {options : ScanOptions} {number : Nat} {line : List Char}

/-- **One match of the bare table is one step of the scan**, with the callbacks at work on what the
match leaves behind. -/
theorem Picks.scanLine_eq_joined (distinct : t.names.Nodup) {cur : Cursor} {s : Spot} {r : Rule}
    {m : Match} {raw : List Token} {last : Option String} (hpicks : t.Picks line s r m)
    (h : cur.At line s) (nonempty : m.text ≠ [])
    (leaves : r.bare.Contributes number s.last m raw last) :
    t.scanLine options number cur = joined (t.postprocess raw)
      (t.scanLine options number { cur.past m with last := last }) := by
  rw [← h.last] at leaves
  have haccept := Rule.accept_eq_postprocess distinct hpicks.first.mem leaves
  rw [scanLine_eq, if_neg (hpicks.rest_ne_nil h nonempty), hpicks.step_eq_accept h nonempty]
  -- where the match is accepted, so are the tokens, and the cursor is behind the match
  cases hfound : r.accept number cur m with
  | error fault =>
    rw [hfound] at haccept
    rw [map_eq_error_iff.1 haccept.symm]
    rfl
  | ok found =>
    rw [hfound] at haccept
    obtain ⟨out, hout, hpair⟩ := map_eq_ok_iff.1 haccept.symm
    obtain ⟨rfl, hnext⟩ := Prod.mk.inj hpair
    rw [hout, hnext]
    rfl

/-- **Along a run of the bare table** the scan of a line collects what the callbacks make of the
tokens of the run, and goes on where it ends, or ends with the first refusal. -/
theorem Run.scanLine_eq_postprocess (options : ScanOptions) (distinct : t.names.Nodup)
    {cur : Cursor} {s s' : Spot} {trace : List (Rule × Match)} {raw : List Token}
    (hrun : t.bare.Run number line s trace raw s') (h : cur.At line s) :
    ∃ cur' : Cursor, cur'.At line s' ∧ t.scanLine options number cur =
      joined (t.postprocess raw) (t.scanLine options number cur') := by
  induction hrun generalizing cur with
  | stop s => exact ⟨cur, h, (nil_joined _).symm⟩
  | @move s s' r' m raw raws last trace hpicks hsome hleaves hrest ih =>
    obtain ⟨r, rfl, hr⟩ := bare_picks_iff.1 hpicks
    obtain ⟨cur', hat, hscan⟩ := ih (hr.at_past h last)
    refine ⟨cur', hat, ?_⟩
    -- the callbacks go over the token of this match first, and then over those of the rest
    calc t.scanLine options number cur
        = joined (t.postprocess raw)
            (t.scanLine options number { cur.past m with last := last }) :=
          hr.scanLine_eq_joined distinct h hsome hleaves
      _ = joined (t.postprocess (raw ++ raws)) (t.scanLine options number cur') := by
          rw [hscan, postprocess_append, joined_assoc]

/-- A line that the bare table covers is scanned to what the callbacks make of its tokens. -/
theorem Covers.scanLine_eq_postprocess (distinct : t.names.Nodup) {raw : List Token}
    (h : t.bare.Covers (line, number) raw) :
    t.scanLine options number (.ofLine line) = t.postprocess raw := by
  obtain ⟨trace, last, hrun⟩ := h
  obtain ⟨cur, hat, hscan⟩ := hrun.scanLine_eq_postprocess options distinct (Cursor.at_ofLine line)
  rw [hscan, scanLine_eq, if_pos (hat.rest_eq_nil_iff.2 rfl), joined_nil]

/-- The scan of several lines is that of the first joined with that of the others. -/
theorem scanLines_cons (l : List Char) (lines : List (List Char)) :
    t.scanLines options number (l :: lines) =
      joined (t.scanLine options number (.ofLine l)) (t.scanLines options (number + 1) lines) := by
  rw [scanLines, joined]
  cases t.scanLine options number (.ofLine l) with
  | error fault => rfl
  | ok tokens => cases t.scanLines options (number + 1) lines <;> rfl

/-- **Over lines that the bare table covers** the scan collects what the callbacks make of their
tokens, and goes on with the lines behind them, or ends with the first refusal. -/
theorem scanLines_eq_postprocess (options : ScanOptions) (distinct : t.names.Nodup)
    {lines : List (List Char)} {parts : List (List Token)}
    (h : List.Forall₂ t.bare.Covers (lines.zipIdx number) parts) (rest : List (List Char)) :
    t.scanLines options number (lines ++ rest) =
      joined (t.postprocess parts.flatten)
        (t.scanLines options (number + lines.length) rest) := by
  induction lines generalizing number parts with
  | nil =>
    cases h
    exact (nil_joined _).symm
  | cons l lines ih =>
    rw [List.zipIdx_cons] at h
    cases h with
    | @cons _ part _ parts hcovers hrest =>
      have hlength : number + (l :: lines).length = number + 1 + lines.length := by
        rw [List.length_cons]
        omega
      rw [List.cons_append, scanLines_cons, hcovers.scanLine_eq_postprocess distinct, ih hrest,
        List.flatten_cons, postprocess_append, joined_assoc, hlength]

/-! ### Whole texts -/

/-- **The tokens that a scan has collected** when it reaches a spot: those of the lines before, and
those of the run that leads to the spot. -/
structure Collects (t : Table) (text : String) (number : Nat) (line : List Char)
    (trace : List (Rule × Match)) (s : Spot) (tokens : List Token) : Prop where
  /-- The scan reaches the spot. -/
  reaches : t.Reaches text number line trace s
  /-- The tokens are those of the lines before and of the run. -/
  collected : ∃ parts last,
    List.Forall₂ t.Covers ((Text.lines text.toList).take number).zipIdx parts ∧
      t.Run number line .start trace last s ∧ tokens = parts.flatten ++ last

/-- Where a scan reaches a spot, it has collected tokens. -/
theorem Reaches.exists_collects {text : String} {trace : List (Rule × Match)} {s : Spot}
    (h : t.Reaches text number line trace s) :
    ∃ tokens, t.Collects text number line trace s tokens := by
  obtain ⟨last, hrun⟩ := h.run
  have hcovered : ∀ p ∈ ((Text.lines text.toList).take number).zipIdx, ∃ part, t.Covers p part := by
    rintro ⟨l, i⟩ hp
    have hl := List.mem_zipIdx_iff_getElem?.1 hp
    rw [List.getElem?_take] at hl
    by_cases hi : i < number
    · rw [if_pos hi] at hl
      exact h.before i l hi hl
    · rw [if_neg hi] at hl
      exact absurd hl (by simp)
  choose! part hpart using hcovered
  refine ⟨_, h, ((Text.lines text.toList).take number).zipIdx.map part, last, ?_, hrun, rfl⟩
  rw [List.forall₂_map_right_iff]
  exact List.forall₂_same.2 hpart

/-- **Where the bare table fails**, the scan fails too, unless a callback refuses one of the tokens
that were collected before. -/
theorem scan_eq_postprocess_of_collects (distinct : t.names.Nodup) {text : String}
    {trace : List (Rule × Match)} {s : Spot} {column : Nat} {tokens : List Token} {fault : Fault}
    (h : t.bare.Collects text number line trace s tokens) (inside : column < line.length)
    (offset : s.offset = byteLength (line.take column))
    (blames : t.bare.Blames options number line column s fault) :
    t.scan options text = joined (t.postprocess tokens) (.error fault) := by
  obtain ⟨hreaches, parts, last, hparts, hrun, rfl⟩ := h
  obtain ⟨hnumber, hline⟩ := List.getElem?_eq_some_iff.1 hreaches.onLine
  -- the line that fails stands behind the ones that are covered
  have hsplit : Text.lines text.toList = (Text.lines text.toList).take number ++
      line :: (Text.lines text.toList).drop (number + 1) := by
    rw [← hline, ← List.drop_eq_getElem_cons hnumber, List.take_append_drop]
  have hlength : 0 + ((Text.lines text.toList).take number).length = number := by
    rw [Nat.zero_add, List.length_take_of_le (Nat.le_of_lt hnumber)]
  -- the step behind the run of the line fails
  obtain ⟨cur, hat, hscan⟩ := hrun.scanLine_eq_postprocess options distinct
    (Cursor.at_ofLine line)
  obtain rfl := hat.unique (Cursor.at_column (Nat.le_of_lt inside) offset)
  have hfails : t.scanLine options number ⟨column, line.drop column, s.last⟩ = .error fault := by
    rw [scanLine_eq, if_neg, (step_eq_error_iff hat).2 blames.of_bare]
    · rfl
    · intro hnil
      exact absurd (List.drop_eq_nil_iff.1 hnil) (Nat.not_le.2 inside)
  rw [scan, hsplit, scanLines_eq_postprocess options distinct hparts, hlength, scanLines_cons, hscan,
    hfails, postprocess_append, joined_assoc, joined_assoc, joined_error]

/-- **A run of the table is a run of the bare table**, by the same matches; its tokens are what the
callbacks make of those that the bare table collects. -/
theorem Run.exists_bare (distinct : t.names.Nodup) {s s' : Spot} {trace : List (Rule × Match)}
    {tokens : List Token} (h : t.Run number line s trace tokens s') :
    ∃ raw, t.bare.Run number line s (trace.map fun p => (p.1.bare, p.2)) raw s' ∧
      t.postprocess raw = .ok tokens := by
  induction h with
  | stop s => exact ⟨[], .stop s, rfl⟩
  | @move s s' r m out tokens last trace hpicks hsome hleaves hrest ih =>
    obtain ⟨raw, hraw, hout⟩ := hleaves.exists_bare distinct hpicks.first.mem
    obtain ⟨raws, hrun, htokens⟩ := ih
    refine ⟨raw ++ raws, .move (bare_picks_iff.2 ⟨r, rfl, hpicks⟩) hsome hraw hrun, ?_⟩
    rw [postprocess_append, hout, htokens]
    rfl

/-- **Callbacks work on what the bare table yields.** If the table without callbacks scans a text,
the scan is what the callbacks make of its tokens, from left to right, or the first refusal. If it
fails at a spot, the scan fails with the same fault, or with the first refusal of a token that was
collected before. And a run never goes by other matches than the table without callbacks. -/
theorem scan_eq_postprocess (t : Table) (distinct : t.names.Nodup) (options : ScanOptions)
    (text : String) :
    (∀ tokens, t.bare.scan options text = .ok tokens →
      t.scan options text = t.postprocess tokens) ∧
    (∀ fault, t.bare.scan options text = .error fault →
      ∃ number line trace s column tokens,
        (t.bare.Collects text number line trace s tokens ∧
          t.bare.Blames options number line column s fault) ∧
        t.scan options text = (t.postprocess tokens >>= fun _ => .error fault) ∧
        (t.scan options text = .error fault ∨ ∃ token ∈ tokens, ∃ f message,
          t.callback? token.kind = some f ∧ f token = .error message ∧
            t.scan options text = .error (.refused message))) ∧
    ∀ number line s trace tokens s', t.Run number line s trace tokens s' →
      ∃ raw, t.bare.Run number line s (trace.map fun p => (p.1.bare, p.2)) raw s' ∧
        t.postprocess raw = .ok tokens := by
  refine ⟨fun tokens h => ?_, fun fault h => ?_,
    fun number line s trace tokens s' hrun => hrun.exists_bare distinct⟩
  · obtain ⟨parts, hparts, rfl⟩ := scanLines_eq_ok_iff.1 h
    have hscan := scanLines_eq_postprocess options distinct hparts []
    rwa [List.append_nil, scanLines, joined_nil] at hscan
  · obtain ⟨number, line, trace, s, column, hreaches, hinside, hoffset, hblames⟩ :=
      scan_eq_error_iff.1 h
    obtain ⟨tokens, hcollects⟩ := hreaches.exists_collects
    have hscan := scan_eq_postprocess_of_collects distinct hcollects hinside hoffset hblames
    refine ⟨number, line, trace, s, column, tokens, ⟨hcollects, hblames⟩, hscan, ?_⟩
    rw [hscan]
    cases hpost : t.postprocess tokens with
    | ok out => exact Or.inl rfl
    | error refusal =>
      obtain ⟨token, hmem, f, message, hcallback, hanswer, rfl⟩ := exists_refused hpost
      exact Or.inr ⟨token, hmem, f, message, hcallback, hanswer, rfl⟩

/-- A rule whose tokens are dropped, one that depends on it and whose tokens are changed, and one
whose tokens are refused. -/
def editing : Table where
  rules :=
    [{ name := "OPEN", pattern := .ofValid ["\\["] (by decide +kernel), onMatch := some .suppress },
     { name := "INNER", pattern := .ofValid ["[a-z]+"] (by decide +kernel), dependsOn := some "OPEN"
       onMatch := some (.wrap "<" ">") },
     { name := "DIGIT", pattern := .ofValid ["[0-9]+"] (by decide +kernel)
       onMatch := some (.refuse "no digits") }]

/-- The letter follows the bracket whose token is dropped; and a digit is refused although no rule
matches behind it. -/
theorem scan_eq_postprocess_editing :
    editing.names.Nodup ∧
    (editing.bare.scan {} "[a" = .ok [⟨"OPEN", "[", 0⟩, ⟨"INNER", "a", 0⟩] ∧
      editing.scan {} "[a" = editing.postprocess [⟨"OPEN", "[", 0⟩, ⟨"INNER", "a", 0⟩] ∧
      editing.scan {} "[a" = .ok [⟨"INNER", "<a>", 0⟩]) ∧
    (editing.bare.scan {} "7!" = .error (.unexpected 0 1 "!") ∧
      ∃ number line trace s column tokens,
        (editing.bare.Collects "7!" number line trace s tokens ∧
          editing.bare.Blames {} number line column s (.unexpected 0 1 "!")) ∧
        editing.scan {} "7!" = (editing.postprocess tokens >>= fun _ =>
          .error (.unexpected 0 1 "!")) ∧
        editing.scan {} "7!" = .error (.refused "no digits")) ∧
    ∃ trace tokens s', editing.Run 0 ['[', 'a'] .start trace tokens s' ∧
      ∃ raw, editing.bare.Run 0 ['[', 'a'] .start (trace.map fun p => (p.1.bare, p.2)) raw s' ∧
        editing.postprocess raw = .ok tokens := by
  have hdistinct : editing.names.Nodup := by decide
  have hok : editing.bare.scan {} "[a" = .ok [⟨"OPEN", "[", 0⟩, ⟨"INNER", "a", 0⟩] := by
    decide +kernel
  have hchanged : editing.scan {} "[a" = .ok [⟨"INNER", "<a>", 0⟩] := by decide +kernel
  have hfails : editing.bare.scan {} "7!" = .error (.unexpected 0 1 "!") := by decide +kernel
  have hrefused : editing.scan {} "7!" = .error (.refused "no digits") := by decide +kernel
  have hline : editing.scanLine {} 0 (.ofLine ['[', 'a']) = .ok [⟨"INNER", "<a>", 0⟩] := by
    decide +kernel
  obtain ⟨trace, last, hrun⟩ := (scanLine_eq_ok_iff (Cursor.at_ofLine _)).1 hline
  obtain ⟨hscan, -, hruns⟩ := scan_eq_postprocess editing hdistinct {} "[a"
  obtain ⟨-, hfault, -⟩ := scan_eq_postprocess editing hdistinct {} "7!"
  obtain ⟨number, line, trace', s, column, tokens, hwhere, hscan', -⟩ := hfault _ hfails
  exact ⟨hdistinct, ⟨hok, hscan _ hok, hchanged⟩,
    ⟨hfails, number, line, trace', s, column, tokens, hwhere, hscan', hrefused⟩,
    trace, _, _, hrun, hruns _ _ _ _ _ _ hrun⟩

end Table

end RuleLexer
