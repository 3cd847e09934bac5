import RuleLexer.Proofs.Pattern.Anchor

/-!
# Scans that lose nothing

A rule is *verbatim* when its matches go into the tokens as they are: it skips nothing, has no
callback, takes the whole match as the value, and its pattern is held to the place where it is
tried. Over such rules a scan takes a text apart into tokens and loses nothing on the way.

On one line this is the tiling of the line by the matches of its run (`Table.Run.line_eq`): the
values of the tokens are the texts of the matches (`Table.Run.tokens_eq`). On many lines the tokens
of a line are those that bear its number (`filter_line`), since every line yields tokens of its own
number and the lines come one after the other. The main statement is `Table.scan_lossless`.
-/

namespace RuleLexer

open Text (byteLength)

/-! ### Tokens line by line -/

section Lines

variable {lines : List (List Char)} {parts : List (List Token)} {number : Nat}

/-- Tokens of lines that are numbered from some number on have that number at least. -/
theorem le_line_of_mem_flatten
    (h : List.Forall₂ (fun l part => ∀ token ∈ part, token.line = l.2) (lines.zipIdx number) parts)
    {token : Token} (mem : token ∈ parts.flatten) : number ≤ token.line := by
  -- on the lines; the ones behind the first are numbered from one more
  induction lines generalizing number parts with
  | nil =>
    cases h
    exact absurd mem List.not_mem_nil
  | cons line lines ih =>
    rw [List.zipIdx_cons] at h
    cases h with
    | cons hpart hrest =>
      rw [List.flatten_cons, List.mem_append] at mem
      rcases mem with hmem | hmem
      · exact Nat.le_of_eq (hpart token hmem).symm
      · exact Nat.le_of_succ_le (ih hrest hmem)

/-- **The tokens come in the order of their lines.** -/
theorem pairwise_line_le
    (h : List.Forall₂ (fun l part => ∀ token ∈ part, token.line = l.2) (lines.zipIdx number) parts) :
    parts.flatten.Pairwise fun a b => a.line ≤ b.line := by
  induction lines generalizing number parts with
  | nil =>
    cases h
    exact List.Pairwise.nil
  | cons line lines ih =>
    rw [List.zipIdx_cons] at h
    cases h with
    | cons hpart hrest =>
      rw [List.flatten_cons]
      refine List.pairwise_append.2 ⟨?_, ih hrest, ?_⟩
      · -- on one line, all have the same number
        refine List.pairwise_of_forall_mem_list fun a ha b hb => ?_
        exact Nat.le_of_eq ((hpart a ha).trans (hpart b hb).symm)
      · intro a ha b hb
        have hb' := le_line_of_mem_flatten hrest hb
        have ha' : a.line = number := hpart a ha
        omega

/-- **The tokens of a line are those that bear its number.** -/
theorem filter_line
    (h : List.Forall₂ (fun l part => ∀ token ∈ part, token.line = l.2) (lines.zipIdx number) parts)
    (i : Nat) : parts.flatten.filter (·.line = number + i) = (parts[i]?).getD [] := by
  induction lines generalizing number parts i with
  | nil =>
    cases h
    rfl
  | cons line lines ih =>
    rw [List.zipIdx_cons] at h
    cases h with
    | @cons _ part _ parts hpart hrest =>
      rw [List.flatten_cons, List.filter_append]
      cases i with
      | zero =>
        -- the tokens of the other lines have higher numbers
        have hall : part.filter (·.line = number + 0) = part :=
          List.filter_eq_self.2 fun token hmem => decide_eq_true (hpart token hmem)
        have hnone : parts.flatten.filter (·.line = number + 0) = [] := by
          refine List.filter_eq_nil_iff.2 fun token hmem heq => ?_
          have hle := le_line_of_mem_flatten hrest hmem
          have heq' := of_decide_eq_true heq
          omega
        rw [hall, hnone, List.append_nil]
        rfl
      | succ i =>
        have hnone : part.filter (·.line = number + (i + 1)) = [] := by
          refine List.filter_eq_nil_iff.2 fun token hmem heq => ?_
          have hline : token.line = number := hpart token hmem
          have heq' := of_decide_eq_true heq
          omega
        have hnumber : number + (i + 1) = number + 1 + i := by omega
        rw [hnone, List.nil_append, hnumber, ih hrest i, List.getElem?_cons_succ]

end Lines

/-! ### Rules whose matches go into tokens as they are -/

/-- **A rule is verbatim**: its tokens are its matches, which begin where they are looked for. -/
structure Rule.Verbatim (r : Rule) : Prop where
  /-- It does not skip. -/
  visible : r.skips = false
  /-- It has no callback. -/
  quiet : r.onMatch = none
  /-- It selects no group, or the one that is the whole match. -/
  whole : ∀ group, r.capture = some group → group = 0
  /-- Its matches begin at the place where they are looked for. -/
  held : r.pattern.Held

/-- What a match of a verbatim rule leaves behind is its text. -/
theorem Rule.Verbatim.out_eq {r : Rule} (h : r.Verbatim) {number : Nat} {last last' : Option String}
    {m : Match} {out : List Token} (leaves : r.Contributes number last m out last') :
    out = [⟨r.name, String.ofList m.text, number⟩] := by
  -- the group that is selected, group 0 for want of another, is the whole match
  have hgroup : m.group? (r.capture.getD 0) = some m.text := by
    cases hcapture : r.capture with
    | none => rfl
    | some group =>
      rw [h.whole group hcapture]
      rfl
  rcases leaves.quiet_cases h.quiet with ⟨hskips, -, -⟩ | ⟨value, -, hsel, rfl, -⟩
  · exact absurd (h.visible.symm.trans hskips) (by simp)
  · rw [Option.some.inj (hsel.symm.trans hgroup)]

namespace Table

variable {t : Table} {number : Nat} {line : List Char} {s s' : Spot}
  {trace : List (Rule × Match)} {tokens : List Token}

/-- **The tokens of a run over verbatim rules** are the texts of its matches. -/
theorem Run.tokens_eq (verbatim : ∀ r ∈ t.rules, r.Verbatim)
    (h : t.Run number line s trace tokens s') :
    tokens = trace.map fun p => ⟨p.1.name, String.ofList p.2.text, number⟩ := by
  induction h with
  | stop s => rfl
  | move hpicks hsome hleaves _ ih =>
    rw [(verbatim _ hpicks.first.mem).out_eq hleaves, ih, List.map_cons, List.singleton_append]

/-- A line is the values of its tokens put together. -/
theorem Covers.flatMap_value_eq (verbatim : ∀ r ∈ t.rules, r.Verbatim)
    (h : t.Covers (line, number) tokens) : tokens.flatMap (·.value.toList) = line := by
  obtain ⟨trace, last, hrun⟩ := h
  have hvalues : ∀ p : Rule × Match, (String.ofList p.2.text).toList = p.2.text :=
    fun _ => String.toList_ofList
  calc tokens.flatMap (·.value.toList)
      = (trace.map fun p : Rule × Match =>
          (⟨p.1.name, String.ofList p.2.text, number⟩ : Token)).flatMap (·.value.toList) := by
        rw [hrun.tokens_eq verbatim]
    _ = trace.flatMap (·.2.text) := by simp only [List.flatMap_map, hvalues]
    _ = line := (hrun.line_eq fun r hr => (verbatim r hr).held).symm

/-- Every token of a line bears its number, and has a value that is not empty. -/
theorem Covers.line_and_value (verbatim : ∀ r ∈ t.rules, r.Verbatim)
    (h : t.Covers (line, number) tokens) {token : Token} (mem : token ∈ tokens) :
    token.line = number ∧ token.value ≠ "" := by
  obtain ⟨trace, last, hrun⟩ := h
  rw [hrun.tokens_eq verbatim] at mem
  obtain ⟨p, hp, rfl⟩ := List.mem_map.1 mem
  -- the value is the text of a match, and the matches of a run have a character each
  refine ⟨rfl, fun hempty => (hrun.of_mem_trace hp).2 ?_⟩
  have hlist := congrArg String.toList hempty
  rwa [String.toList_ofList] at hlist

/-- **A scan with verbatim rules loses nothing.** Where no rule skips, has a callback or selects a
group other than the whole match, and all patterns are held to the place where they are tried, the
tokens of a text come in the order of their lines, none of them is empty, and for every line the
values of the tokens that bear its number are the line, put together. -/
theorem scan_lossless (t : Table) (verbatim : ∀ r ∈ t.rules, r.Verbatim) (options : ScanOptions)
    (text : String) {tokens : List Token} (scanned : t.scan options text = .ok tokens) :
    tokens.Pairwise (fun a b => a.line ≤ b.line) ∧
    (∀ token ∈ tokens, token.value ≠ "") ∧
    ∀ i, (tokens.filter (·.line = i)).flatMap (·.value.toList) =
      ((Text.lines text.toList)[i]?).getD [] := by
  obtain ⟨parts, hparts, rfl⟩ := scanLines_eq_ok_iff.1 scanned
  -- what is known of every line and its part of the tokens
  have hnumbers : List.Forall₂ (fun l part => ∀ token ∈ part, token.line = l.2)
      (Text.lines text.toList).zipIdx parts :=
    hparts.imp fun _ _ hcovers token hmem => (hcovers.line_and_value verbatim hmem).1
  have hvalues : (Text.lines text.toList).zipIdx.map Prod.fst =
      parts.map (List.flatMap (·.value.toList)) := by
    rw [← List.forall₂_eq_eq_eq, List.forall₂_map_left_iff, List.forall₂_map_right_iff]
    exact hparts.imp fun _ _ hcovers => (hcovers.flatMap_value_eq verbatim).symm
  rw [List.zipIdx_map_fst] at hvalues
  refine ⟨pairwise_line_le hnumbers, fun token hmem => ?_, fun i => ?_⟩
  · obtain ⟨line, number, part, hcovers, hpart⟩ := exists_covers_of_mem scanned hmem
    exact (hcovers.line_and_value verbatim hpart).2
  · -- the tokens of number `i` are the part of line `i`, and none if there is no such line
    have hfilter := filter_line hnumbers i
    rw [Nat.zero_add] at hfilter
    rw [hfilter, hvalues, List.getElem?_map]
    cases parts[i]? <;> rfl

/-- A rule for words, one for blanks that selects the whole match, and one for two marks. -/
def words : Table where
  rules :=
    [{ name := "WORD", pattern := .ofValid ["[a-zü]+"] (by decide +kernel) },
     { name := "BLANK", pattern := .ofValid [" "] (by decide +kernel), capture := some 0 },
     { name := "MARK", pattern := .ofValid ["!", "[)(]"] (by decide +kernel) }]

/-- Three lines, one of them empty, with a letter of two bytes, come back from their tokens. -/
theorem scan_lossless_words :
    (∀ r ∈ words.rules, r.Verbatim) ∧
    ∃ tokens, words.scan {} "für (\n\r\n!" = .ok tokens ∧
      tokens = [⟨"WORD", "für", 0⟩, ⟨"BLANK", " ", 0⟩, ⟨"MARK", "(", 0⟩, ⟨"MARK", "!", 2⟩] ∧
      tokens.Pairwise (fun a b => a.line ≤ b.line) ∧ (∀ token ∈ tokens, token.value ≠ "") ∧
      (tokens.filter (·.line = 0)).flatMap (·.value.toList) = ['f', 'ü', 'r', ' ', '('] ∧
      (tokens.filter (·.line = 1)).flatMap (·.value.toList) = [] ∧
      (tokens.filter (·.line = 2)).flatMap (·.value.toList) = ['!'] := by
  have halone : ∀ r ∈ words.rules, ∀ s ∈ r.pattern.sources, StandsAlone s := by decide +kernel
  have hverbatim : ∀ r ∈ words.rules, r.Verbatim := by
    intro r hr
    have hheld := Pattern.held_of_standsAlone (halone r hr)
    simp only [words, List.mem_cons, List.not_mem_nil, or_false] at hr
    rcases hr with rfl | rfl | rfl
    · exact ⟨rfl, rfl, by simp, hheld⟩
    · exact ⟨rfl, rfl, by simp, hheld⟩
    · exact ⟨rfl, rfl, by simp, hheld⟩
  have hlines : Text.lines "für (\n\r\n!".toList = [['f', 'ü', 'r', ' ', '('], [], ['!']] := by
    decide +kernel
  have hscan : words.scan {} "für (\n\r\n!" =
      .ok [⟨"WORD", "für", 0⟩, ⟨"BLANK", " ", 0⟩, ⟨"MARK", "(", 0⟩, ⟨"MARK", "!", 2⟩] := by
    decide +kernel
  obtain ⟨hordered, hnonempty, hvalues⟩ := scan_lossless words hverbatim {} _ hscan
  rw [hlines] at hvalues
  exact ⟨hverbatim, _, hscan, rfl, hordered, hnonempty, hvalues 0, hvalues 1, hvalues 2⟩

end Table

end RuleLexer
