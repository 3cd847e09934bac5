import RuleLexer.Proofs.Pattern.Anchor
import RuleLexer.Proofs.Regex.Choice
import RuleLexer.Proofs.Regex.Marked

/-!
# The match that an expression of a pattern prefers

The expressions of a pattern are matched behind a mark for the start of the text. Most of them are
read as the mark and a body, and of these it is told here what they match:

* `Alternative.matchOn?_of_chooses` — what the body prefers from the start of the text;
* `Alternative.matches_of_matchOn?`, `Alternative.matchOn?_eq_none_iff_of_mark` — something that the
  body matches there, if there is anything.

So one preferred way is enough to tell the match, and its captures, wherever the expression has one.
-/

namespace RuleLexer

open Regex (Expr Point spanAt? find?_of_chooses)
open Text (after?)

/-- An expression behind a mark for the start of the text. -/
def Regex.Expr.atStart (body : Expr) : Expr := .cat (.look .textStart) body

namespace Alternative

variable {a : Alternative} {body : Expr} {rest : List Char} {m : Match}

/-- **The match of an expression** is what its body prefers from the start of the text. -/
theorem matchOn?_of_chooses (reads : Reads a.source body.atStart) {t : Point}
    (h : body.Chooses rest (fun _ => True) (body.atStart.opening 0) t) :
    a.regex.matchOn? rest = some ⟨[], rest.take t.place,
      (List.range body.groups).map fun k => (spanAt? t.slots (k + 1)).map (·.of rest)⟩ := by
  have whole : body.atStart.Chooses rest (fun _ => True) (body.atStart.opening 0) t :=
    .cat (.look rfl) h
  have groups : body.atStart.groups = body.groups := Nat.zero_max body.groups
  rw [regex_eq reads, Regex.matchOn?, find?_of_chooses (Regex.numbered_of_reading reads) whole,
    Option.map_some, groups, List.map_map]
  rfl

/-- The match of an expression without groups, whatever was noted before. -/
theorem matchOn?_of_chooses_ungrouped (reads : Reads a.source body.atStart)
    (ungrouped : body.groups = 0) {j : Nat}
    (h : ∀ slots, body.Chooses rest (fun _ => True) ⟨0, slots⟩ ⟨j, slots⟩) :
    a.regex.matchOn? rest = some ⟨[], rest.take j, []⟩ := by
  rw [matchOn?_of_chooses reads (h (body.atStart.opening 0).slots), ungrouped]
  rfl

/-- **A match of an expression** is one of its body at the start of the text. -/
theorem matches_of_matchOn? (reads : Reads a.source body.atStart)
    (h : a.regex.matchOn? rest = some m) :
    ∃ j, body.Matches rest 0 j ∧ m.skipped = [] ∧ m.text = rest.take j := by
  rw [regex_eq reads] at h
  obtain ⟨found, hfound, rfl⟩ := Option.map_eq_some_iff.1 h
  obtain ⟨le, matched, -⟩ := Regex.matches_of_find? (Regex.numbered_of_reading reads) hfound
  obtain ⟨start, matched⟩ := (Expr.matches_marked le).1 matched
  refine ⟨found.whole.stop, matched, ?_, ?_⟩
  · show rest.take found.whole.start = []
    rw [start, List.take_zero]
  · show found.whole.of rest = rest.take found.whole.stop
    rw [Regex.Span.of, start, List.drop_zero, Nat.sub_zero]

/-- An expression has no match exactly where its body matches nothing. -/
theorem matchOn?_eq_none_iff_of_mark (reads : Reads a.source body.atStart) :
    a.regex.matchOn? rest = none ↔ ∀ j, ¬ body.Matches rest 0 j := by
  rw [matchOn?_eq_none_iff reads]
  constructor
  · intro never j matched
    exact never ⟨0, Nat.zero_le _, j, (Expr.matches_marked (Nat.zero_le _)).2 ⟨rfl, matched⟩⟩
  · rintro nothing ⟨i, le, j, matched⟩
    exact nothing j ((Expr.matches_marked le).1 matched).2

end Alternative

namespace Pattern

variable {p : Pattern} {source : String} {line rest : List Char} {offset : Nat}

/-- A pattern of one expression matches what that expression matches. -/
theorem exists_only (only : p.sources = [source]) :
    ∃ a : Alternative, a.source = source ∧ ∀ rest, p.matchOn? rest = a.regex.matchOn? rest := by
  obtain ⟨a, alone, rfl⟩ := List.map_eq_singleton_iff.1 only
  refine ⟨a, rfl, fun rest => ?_⟩
  rw [matchOn?, alone, List.findSome?_singleton]

/-- The match of a pattern whose one expression has no groups. -/
theorem matchOn?_of_chooses_ungrouped {body : Expr} (only : p.sources = [source])
    (reads : Reads source body.atStart) (ungrouped : body.groups = 0) {j : Nat}
    (h : ∀ slots, body.Chooses rest (fun _ => True) ⟨0, slots⟩ ⟨j, slots⟩) :
    p.matchOn? rest = some ⟨[], rest.take j, []⟩ := by
  obtain ⟨a, rfl, same⟩ := exists_only only
  rw [same]
  exact Alternative.matchOn?_of_chooses_ungrouped reads ungrouped h

theorem matchOn?_eq_none_of_mark {body : Expr} (only : p.sources = [source])
    (reads : Reads source body.atStart) (nothing : ∀ j, ¬ body.Matches rest 0 j) :
    p.matchOn? rest = none := by
  obtain ⟨a, rfl, same⟩ := exists_only only
  rw [same]
  exact (Alternative.matchOn?_eq_none_iff_of_mark reads).2 nothing

/-- **Where the expressions of a pattern do not disagree**, their order does not matter. -/
theorem matchOn?_iff_of_agree {m : Match}
    (agree : ∀ a ∈ p.alternatives, ∀ b ∈ p.alternatives, ∀ m m',
      a.regex.matchOn? rest = some m → b.regex.matchOn? rest = some m' → m = m') :
    p.matchOn? rest = some m ↔ ∃ a ∈ p.alternatives, a.regex.matchOn? rest = some m := by
  constructor
  · exact List.exists_of_findSome?_eq_some
  · rintro ⟨a, ha, found⟩
    cases h : p.matchOn? rest with
    | none => cases found.symm.trans (List.findSome?_eq_none_iff.1 h a ha)
    | some m' =>
      obtain ⟨b, hb, found'⟩ := List.exists_of_findSome?_eq_some h
      rw [agree a ha b hb m m' found found']

theorem matchAt?_eq_matchOn? (here : after? line offset = some rest) :
    p.matchAt? line offset = p.matchOn? rest := by
  rw [matchAt?, here, Option.bind_some]

end Pattern

/-- What follows a place of a line without line feeds has none either. -/
theorem Text.not_mem_of_after? {line rest : List Char} {offset : Nat} {c : Char} (plain : c ∉ line)
    (here : after? line offset = some rest) : c ∉ rest := by
  obtain ⟨start, rfl, -⟩ := after?_eq_some_iff.1 here
  exact fun h => plain (List.mem_append_right start h)

end RuleLexer
