import RuleLexer.Proofs.Pattern.Intact
import RuleLexer.Proofs.Scan.Slices

/-!
# The first expression that matches, and where its match stands

A pattern of several expressions is told by the patterns of one expression each: it is accepted if
all of them are (`Pattern.Compiled.accepts_each`), and at an offset of a text it has the match of
the first of them that has one there (`Pattern.matchAt?_eq_findSome?`).

A match knows the characters that were passed over and its own; the offsets of its ends are counted
from the offset at which it was looked for. That they are the right ones is `Match.StandsIn`: the
text of the match is the slice of the whole text between them. It has as many captures as the
expression that matched has groups, whatever groups the other expressions have.

Main statement: `Pattern.first_source_matches`.
-/

namespace RuleLexer

open Text (byteLength after? before? IsPlace)

/-! ### Slices between two offsets -/

namespace Text

/-- **The slice of a text between two offsets**, if both are places of it and in order. -/
def slice? (text : List Char) (start stop : Nat) : Option (List Char) :=
  if start ≤ stop then (after? text start).bind (before? · (stop - start)) else none

/-- What stands in the middle of a text is the slice between the two offsets around it. -/
theorem slice?_append (front inside back : List Char) :
    slice? (front ++ (inside ++ back)) (byteLength front) (byteLength front + byteLength inside) =
      some inside := by
  rw [slice?, if_pos (Nat.le_add_right _ _), after?_append, Option.bind_some,
    Nat.add_sub_cancel_left]
  exact before?_append inside back

end Text

namespace Match

variable {m : Match} {text : List Char} {offset : Nat}

/-- **Where a match stands** in a text in which it was looked for at an offset. -/
structure StandsIn (m : Match) (text : List Char) (offset : Nat) : Prop where
  /-- The offset is a place of the text. -/
  place : IsPlace text offset
  /-- The match does not begin before it. -/
  begins : offset ≤ m.startFrom offset
  /-- The match does not end before it begins. -/
  ordered : m.startFrom offset ≤ m.stopFrom offset
  /-- The match ends within the text. -/
  within : m.stopFrom offset ≤ byteLength text
  /-- The match is what stands between its ends. -/
  slice : Text.slice? text (m.startFrom offset) (m.stopFrom offset) = some m.text
  /-- Its ends are as far apart as it is long. -/
  length : m.stopFrom offset - m.startFrom offset = byteLength m.text

/-- A match that is cut out of what follows a place stands in the text. -/
theorem standsIn_of_append {rest tail : List Char} (here : after? text offset = some rest)
    (hrest : rest = m.skipped ++ m.text ++ tail) : m.StandsIn text offset := by
  obtain ⟨start, rfl, rfl⟩ := Text.after?_eq_some_iff.1 here
  subst hrest
  -- the match with what stands on either side of it
  have hsplit : start ++ (m.skipped ++ m.text ++ tail) =
      (start ++ m.skipped) ++ (m.text ++ tail) := by
    simp only [List.append_assoc]
  have hstart : m.startFrom (byteLength start) = byteLength (start ++ m.skipped) := by
    rw [startFrom, Text.byteLength_append]
  have hstop : m.stopFrom (byteLength start) =
      byteLength (start ++ m.skipped) + byteLength m.text := by
    rw [stopFrom, hstart]
  refine ⟨⟨start, _, rfl, rfl⟩, ?_, ?_, ?_, ?_, ?_⟩
  · exact Nat.le_add_right _ _
  · exact Nat.le_add_right _ _
  · rw [hstop, hsplit, Text.byteLength_append _ (m.text ++ tail),
      Text.byteLength_append m.text tail, ← Nat.add_assoc]
    exact Nat.le_add_right _ _
  · rw [hstart, hstop, hsplit]
    exact Text.slice?_append _ _ _
  · rw [hstart, hstop]
    exact Nat.add_sub_cancel_left _ _

/-- A group of a number is what was captured under that number. -/
theorem getElem?_captures {k : Nat} (hpos : 1 ≤ k) (hle : k ≤ m.captures.length) :
    m.captures[k - 1]? = some (m.group? k) := by
  obtain ⟨k, rfl⟩ : ∃ j, k = j + 1 := ⟨k - 1, by omega⟩
  have hlt : k < m.captures.length := hle
  show m.captures[k]? = some (m.captures[k]?).join
  rw [List.getElem?_eq_getElem hlt]
  rfl

/-- There is no group of a greater number than there are captures. -/
theorem group?_eq_none {k : Nat} (hlt : m.captures.length < k) : m.group? k = none := by
  obtain ⟨k, rfl⟩ : ∃ j, k = j + 1 := ⟨k - 1, by omega⟩
  show (m.captures[k]?).join = none
  rw [List.getElem?_eq_none (Nat.le_of_lt_succ hlt)]
  rfl

end Match

/-- A match has as many captures as the expression has groups. -/
theorem Regex.length_captures {r : Regex} {rest : List Char} {m : Match}
    (h : r.matchOn? rest = some m) : m.captures.length = r.groups := by
  obtain ⟨found, hfound, rfl⟩ := Option.map_eq_some_iff.1 h
  obtain ⟨slots, -, hfound⟩ := Option.bind_eq_some_iff.1 hfound
  obtain ⟨whole, -, hfound⟩ := Option.bind_eq_some_iff.1 hfound
  obtain rfl := Option.some.inj hfound
  simp only [List.length_map, List.length_range]

/-! ### Expressions one by one -/

namespace Pattern

variable {p : Pattern} {source : String} {sources : List String} {text : List Char} {offset : Nat}

/-- **The match of one expression** at an offset of a text, if it makes a pattern on its own. -/
def matchAlone? (source : String) (text : List Char) (offset : Nat) : Option Match :=
  match ofSources [source] with
  | .ok p => p.matchAt? text offset
  | .error _ => none

/-- **What some expressions compile to**, one by one. -/
def Compiled (sources : List String) (as : List Alternative) : Prop :=
  List.Forall₂ (fun source a => Alternative.ofSource source = .ok a) sources as

theorem compiled_of_compileAll {as : List Alternative} (h : compileAll sources = .ok as) :
    Compiled sources as := by
  induction sources generalizing as with
  | nil =>
    obtain rfl := Except.ok.inj h
    exact .nil
  | cons source sources ih =>
    obtain ⟨a, ha, h⟩ := bind_eq_ok_iff.1 h
    obtain ⟨rest, hrest, h⟩ := bind_eq_ok_iff.1 h
    obtain rfl := Except.ok.inj h
    exact .cons ha (ih hrest)

/-- A pattern holds what its expressions compile to. -/
theorem compiled_of_ofSources (accepted : ofSources sources = .ok p) :
    Compiled sources p.alternatives := by
  unfold ofSources at accepted
  split at accepted
  · cases accepted
  · cases accepted
  · next compiled =>
    obtain rfl := Except.ok.inj accepted
    exact compiled_of_compileAll compiled

/-- An expression that compiles makes a pattern on its own. -/
theorem ofSources_singleton_of_ok {a : Alternative} (h : Alternative.ofSource source = .ok a) :
    ofSources [source] = .ok ⟨[a], List.cons_ne_nil a []⟩ := by
  rw [ofSources_singleton, h]

/-- The match of an expression on its own is that of what it compiles to. -/
theorem matchAlone?_of_ok {a : Alternative} (h : Alternative.ofSource source = .ok a) :
    matchAlone? source text offset = (after? text offset).bind a.regex.matchOn? := by
  rw [matchAlone?, ofSources_singleton_of_ok h]
  refine Option.bind_congr fun rest _ => ?_
  exact List.findSome?_singleton

namespace Compiled

variable {as : List Alternative}

/-- **Expressions that compile make a pattern each.** -/
theorem accepts_each (compiled : Compiled sources as) :
    ∀ s ∈ sources, ∃ q, ofSources [s] = .ok q := by
  induction compiled with
  | nil =>
    intro s hs
    exact absurd hs List.not_mem_nil
  | cons ha _ ih =>
    intro s hs
    rcases List.mem_cons.1 hs with rfl | hs
    · exact ⟨_, ofSources_singleton_of_ok ha⟩
    · exact ih s hs

/-- The first match of what some expressions compile to is the first match of one of them. -/
theorem findSome?_eq (compiled : Compiled sources as) (text : List Char) (offset : Nat) :
    (as.findSome? fun a => (after? text offset).bind a.regex.matchOn?) =
      sources.findSome? (matchAlone? · text offset) := by
  induction compiled with
  | nil => rfl
  | cons ha _ ih => rw [List.findSome?_cons, List.findSome?_cons, ih, matchAlone?_of_ok ha]

end Compiled

/-- **A pattern matches as the first of its expressions that does**, each being asked on its own. -/
theorem matchAt?_eq_findSome? (accepted : ofSources sources = .ok p) (text : List Char)
    (offset : Nat) : p.matchAt? text offset = sources.findSome? (matchAlone? · text offset) := by
  rw [← (compiled_of_ofSources accepted).findSome?_eq text offset, matchAt?]
  cases after? text offset with
  | some rest => rfl
  | none =>
    -- an offset that is no place has no match, whatever the expression
    exact (List.findSome?_eq_none_iff.2 fun a _ => rfl).symm

/-- A match of an expression on its own has as many captures as the expression has groups. -/
theorem exists_reads_of_matchAlone? {m : Match} (h : matchAlone? source text offset = some m) :
    ∃ e, Reads source e ∧ m.captures.length = e.groups := by
  unfold matchAlone? at h
  split at h
  · next q accepted =>
    obtain ⟨r, compiles, same⟩ := exists_regex_of_ofSources accepted
    obtain ⟨e, reads, rfl⟩ := Regex.exists_expr_of_compile compiles
    obtain ⟨rest, -, hm⟩ := Option.bind_eq_some_iff.1 h
    rw [same] at hm
    exact ⟨e, reads, Regex.length_captures hm⟩
  · cases h

/-- A match of a pattern stands in the text in which it was looked for. -/
theorem standsIn_of_matchAt? {m : Match} (h : p.matchAt? text offset = some m) :
    m.StandsIn text offset := by
  obtain ⟨rest, here, hm⟩ := Option.bind_eq_some_iff.1 h
  obtain ⟨tail, hrest⟩ := append_of_matchOn? hm
  exact Match.standsIn_of_append here hrest

/-- **A pattern is an ordered choice between its expressions**, each of which makes a pattern on its
own: at every offset of every text, be it a place or not, the pattern has the match of the first
expression that has one there, and none if no expression has. A match that it has stands in the
text, which takes an offset that is a place; it has one capture for each group of the expression
that it is a match of, and these are what its groups are, the group 0 being the whole match, and
there being no groups beyond. -/
theorem first_source_matches (accepted : ofSources sources = .ok p) (text : List Char)
    (offset : Nat) :
    (∀ s ∈ sources, ∃ q, ofSources [s] = .ok q) ∧
    p.matchAt? text offset = sources.findSome? (matchAlone? · text offset) ∧
    ∀ m, p.matchAt? text offset = some m →
      m.StandsIn text offset ∧
      (∃ before s after e, sources = before ++ s :: after ∧
        (∀ q ∈ before, matchAlone? q text offset = none) ∧ matchAlone? s text offset = some m ∧
        Reads s e ∧ m.captures.length = e.groups) ∧
      m.group? 0 = some m.text ∧
      (∀ k, 1 ≤ k → k ≤ m.captures.length → m.captures[k - 1]? = some (m.group? k)) ∧
      ∀ k, m.captures.length < k → m.group? k = none := by
  have first := matchAt?_eq_findSome? accepted text offset
  refine ⟨(compiled_of_ofSources accepted).accepts_each, first, fun m hm => ?_⟩
  refine ⟨standsIn_of_matchAt? hm, ?_, rfl, fun k => Match.getElem?_captures,
    fun k => Match.group?_eq_none⟩
  rw [first] at hm
  obtain ⟨before, s, after, hsources, hs, hbefore⟩ := List.findSome?_eq_some_iff.1 hm
  obtain ⟨e, reads, captures⟩ := exists_reads_of_matchAlone? hs
  exact ⟨before, s, after, e, hsources, hbefore, hs, reads, captures⟩

/-- Two expressions with different numbers of groups. -/
def twoOrOne : Pattern := .ofValid ["(x)(y)", "(é)?z"] (by decide +kernel)

/-- Behind the first letter the second expression matches, with its one group. Its match ends at the
offset 4, the accented letter taking two bytes; the offset between these is no place. -/
theorem first_source_matches_accented :
    ofSources ["(x)(y)", "(é)?z"] = .ok twoOrOne ∧
    matchAlone? "(x)(y)" ['a', 'é', 'z'] 1 = none ∧
    (∃ m, twoOrOne.matchAt? ['a', 'é', 'z'] 1 = some m ∧ m.StandsIn ['a', 'é', 'z'] 1 ∧
      m.startFrom 1 = 1 ∧ m.stopFrom 1 = 4 ∧ m.captures = [some ['é']] ∧ m.group? 2 = none) ∧
    twoOrOne.matchAt? ['a', 'é', 'z'] 2 = none := by
  have accepted : ofSources ["(x)(y)", "(é)?z"] = .ok twoOrOne := ofSources_eq_ofValid _
  have found : twoOrOne.matchAt? ['a', 'é', 'z'] 1 = some ⟨[], ['é', 'z'], [some ['é']]⟩ := by
    decide +kernel
  obtain ⟨-, -, tells⟩ := first_source_matches accepted ['a', 'é', 'z'] 1
  obtain ⟨stands, -, -, -, beyond⟩ := tells _ found
  obtain ⟨-, none, -⟩ := first_source_matches accepted ['a', 'é', 'z'] 2
  refine ⟨accepted, by decide +kernel, ⟨_, found, stands, ?_, ?_, rfl, beyond 2 (by decide)⟩, ?_⟩
  · decide
  · decide
  · rw [none]
    decide +kernel

end Pattern

end RuleLexer
