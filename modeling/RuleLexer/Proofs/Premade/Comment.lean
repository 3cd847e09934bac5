import RuleLexer.Proofs.Pattern.Preferred
import RuleLexer.Proofs.Premade.Collection
import RuleLexer.Proofs.Scan.Line

/-!
# Where a comment ends

A comment goes up to the end of the line, or from an opening mark up to the first closing mark
behind it; the two marks of a comment do not overlap. What is preferred shows here: the body of a
comment can be read up to any closing mark of the line, and it is the first of these that counts,
since the repetition is not greedy.

* `ClosesAt` — where the first closing mark behind an opening one stands;
* `Premade.comments_end` — what the rule for comments matches, and where a scan goes on behind it.
-/

namespace RuleLexer

open Text (after?)
open Regex (Expr Slots)

/-- **The first closing mark** of a text that begins with an opening one: it stands behind `n`
characters, two of which are the opening mark. -/
structure ClosesAt (rest : List Char) (n : Nat) : Prop where
  /-- The text begins with an opening mark. -/
  opens : "/*".toList <+: rest
  /-- The closing mark stands behind the opening one. -/
  behind : 2 ≤ n
  /-- There it stands. -/
  closes : "*/".toList <+: rest.drop n
  /-- There is none in between. -/
  first : ∀ k, 2 ≤ k → k < n → ¬ "*/".toList <+: rest.drop k

/-- If there is a closing mark behind the opening one, there is a first one. -/
theorem exists_closesAt {rest : List Char} {n : Nat} (opens : "/*".toList <+: rest) (le : 2 ≤ n)
    (closes : "*/".toList <+: rest.drop n) : ∃ n, ClosesAt rest n := by
  classical
  have exists_mark : ∃ k, 2 ≤ k ∧ "*/".toList <+: rest.drop k := ⟨n, le, closes⟩
  obtain ⟨behind, mark⟩ := Nat.find_spec exists_mark
  refine ⟨Nat.find exists_mark, opens, behind, mark, fun k hk lt earlier => ?_⟩
  exact Nat.find_min exists_mark lt ⟨hk, earlier⟩

theorem ClosesAt.add_two_le {rest : List Char} {n : Nat} (h : ClosesAt rest n) :
    n + 2 ≤ rest.length := by
  have le := h.closes.length_le
  rw [List.length_drop] at le
  have two : "*/".toList.length = 2 := rfl
  omega

namespace Premade

/-- Any character but a line feed. -/
def anyChar : Expr := .set (CharSet.single '\n').compl

/-- A comment that is closed on its line. -/
def blockCommentExpr : Expr :=
  .cat (.literal "/*".toList) (.cat (.times anyChar 0 none false) (.literal "*/".toList))

/-- A comment up to the end of the line. -/
def lineCommentExpr : Expr := .cat (.literal "//".toList) (.times anyChar 0 none true)

theorem reads_comment :
    Reads commentSource (Expr.alt blockCommentExpr lineCommentExpr).atStart := by
  unfold Reads
  decide +kernel

section Marks

variable {rest run : List Char} {n j : Nat} {good : Nat → Prop}

theorem contains_anyChar (plain : '\n' ∉ rest) (sub : run ⊆ rest) :
    ∀ c ∈ run, (CharSet.single '\n').compl.contains c = true := by
  intro c hc
  refine CharSet.mem_iff.1 (CharSet.mem_compl.2 fun feed => ?_)
  exact plain (CharSet.mem_single.1 feed ▸ sub hc)

/-- A block comment is preferred to end at the first closing mark. -/
theorem chooses_blockComment (plain : '\n' ∉ rest) (h : ClosesAt rest n) (slots : Slots) :
    blockCommentExpr.Chooses rest good ⟨0, slots⟩ ⟨n + 2, slots⟩ := by
  obtain ⟨m, rfl⟩ := Nat.exists_eq_add_of_le h.behind
  have long : 2 + m + 2 ≤ rest.length := h.add_two_le
  have length : ((rest.drop 2).take m).length = m := by
    rw [List.length_take, List.length_drop]
    omega
  have split : rest.drop 2 = (rest.drop 2).take m ++ rest.drop (2 + m) := by
    rw [← List.drop_drop, List.take_append_drop]
  -- the body of the comment goes on as long as no closing mark follows
  have body : (Expr.times anyChar 0 none false).Chooses rest
      ((Expr.literal "*/".toList).Joins rest good) ⟨2, slots⟩
      ⟨2 + ((rest.drop 2).take m).length, slots⟩ := by
    refine Expr.Chooses.run (s := ⟨2, slots⟩) split ?_ (fun _ k hk => ?_) nofun
    · exact contains_anyChar plain fun c hc => List.drop_subset _ _ (List.take_subset _ _ hc)
    · rintro ⟨j, ⟨-, earlier⟩, -⟩
      rw [length] at hk
      exact h.first (2 + k) (Nat.le_add_right 2 k) (Nat.add_lt_add_left hk 2) earlier
  rw [length] at body
  exact .cat (.literal ⟨rfl, h.opens⟩) (.cat body (.literal ⟨rfl, h.closes⟩))

/-- A comment of the other kind is preferred to go up to the end of the line. -/
theorem chooses_lineComment (plain : '\n' ∉ rest) (h : "//".toList <+: rest) (slots : Slots) :
    lineCommentExpr.Chooses rest good ⟨0, slots⟩ ⟨rest.length, slots⟩ := by
  have body : (Expr.times anyChar 0 none true).Chooses rest good ⟨2, slots⟩
      ⟨2 + (rest.drop 2).length, slots⟩ := by
    refine Expr.Chooses.run (s := ⟨2, slots⟩) (List.append_nil _).symm ?_ nofun ?_
    · exact contains_anyChar plain (List.drop_subset 2 rest)
    · exact fun _ c hc => (Option.not_mem_none c hc).elim
  have long : 2 + (rest.drop 2).length = rest.length := by
    rw [List.length_drop]
    exact Nat.add_sub_cancel' h.length_le
  rw [long] at body
  exact .cat (.literal ⟨rfl, h⟩) body

theorem exists_closesAt_of_matches (h : blockCommentExpr.Matches rest 0 j) :
    ∃ n, ClosesAt rest n := by
  obtain ⟨k, ⟨rfl, opens⟩, i, rounds, ⟨-, closes⟩⟩ := h
  exact exists_closesAt opens rounds.bounds.1 closes

/-- A text does not begin with both marks. -/
theorem not_blockComment (h : "//".toList <+: rest) :
    ¬ blockCommentExpr.Joins rest good 0 := by
  rintro ⟨j, ⟨k, ⟨-, opens⟩, -⟩, -⟩
  obtain ⟨tail, rfl⟩ := h
  exact absurd (List.cons_prefix_cons.1 (List.cons_prefix_cons.1 opens).2).1 (by decide)

end Marks

/-! ### What the rule for comments matches -/

theorem sources_comment : commentRule.pattern.sources = [commentSource] := by
  rw [commentRule]
  dsimp only
  exact sources_single _

/-- **The match of the rule for comments** on a text without line feeds. -/
theorem matchOn?_comment_iff {rest : List Char} (plain : '\n' ∉ rest) {m : Match} :
    commentRule.pattern.matchOn? rest = some m ↔
      ("//".toList <+: rest ∧ m = ⟨[], rest, []⟩) ∨
        ∃ n, ClosesAt rest n ∧ m = ⟨[], rest.take (n + 2), []⟩ := by
  obtain ⟨a, ha, same⟩ := Pattern.exists_only sources_comment
  have reads : Reads a.source _ := ha ▸ reads_comment
  rw [same]
  have line (h : "//".toList <+: rest) : a.regex.matchOn? rest = some ⟨[], rest, []⟩ := by
    have found : a.regex.matchOn? rest = some ⟨[], rest.take rest.length, []⟩ :=
      Alternative.matchOn?_of_chooses_ungrouped reads rfl
        fun slots => .second (not_blockComment h) (chooses_lineComment plain h slots)
    rwa [List.take_length] at found
  have block {n : Nat} (h : ClosesAt rest n) :
      a.regex.matchOn? rest = some ⟨[], rest.take (n + 2), []⟩ :=
    Alternative.matchOn?_of_chooses_ungrouped reads rfl
      fun slots => .first (chooses_blockComment plain h slots)
  constructor
  · -- something is matched, hence what is preferred
    intro found
    obtain ⟨j, matched | ⟨k, ⟨-, opens⟩, -⟩, -⟩ := Alternative.matches_of_matchOn? reads found
    · obtain ⟨n, closes⟩ := exists_closesAt_of_matches matched
      exact Or.inr ⟨n, closes, Option.some.inj (found.symm.trans (block closes))⟩
    · exact Or.inl ⟨opens, Option.some.inj (found.symm.trans (line opens))⟩
  · rintro (⟨opens, rfl⟩ | ⟨n, closes, rfl⟩)
    · exact line opens
    · exact block closes

/-- **A comment ends where it should.** At a place of a line, the rule for comments matches exactly
if two slashes follow, and then the rest of the line, or an opening mark and behind it a closing
one, and then what is up to the first closing mark. So a closing mark that shares its star with the
opening one does not count; and what stands behind a closed comment is scanned as if there had been
no comment. -/
theorem comments_end {line rest : List Char} {offset : Nat} (plain : '\n' ∉ line)
    (here : after? line offset = some rest) :
    ((commentRule.pattern.matchAt? line offset).isSome = true ↔
      "//".toList <+: rest ∨
        "/*".toList <+: rest ∧ ∃ n, 2 ≤ n ∧ "*/".toList <+: rest.drop n) ∧
    (∀ m, commentRule.pattern.matchAt? line offset = some m ↔
      ("//".toList <+: rest ∧ m = ⟨[], rest, []⟩) ∨
        ∃ n, ClosesAt rest n ∧ m = ⟨[], rest.take (n + 2), []⟩) ∧
    (rest = "/*/".toList → commentRule.pattern.matchAt? line offset = none) ∧
    ∀ (t : Table) (options : ScanOptions) (number column n : Nat) (last : Option String)
      (m : Match), ClosesAt rest n → t.firstMatch? ⟨column, rest, last⟩ = some (commentRule, m) →
        t.scanLine options number ⟨column, rest, last⟩ =
          t.scanLine options number ⟨column + (n + 2), rest.drop (n + 2), last⟩ := by
  have plain' : '\n' ∉ rest := Text.not_mem_of_after? plain here
  have match_iff (m : Match) := matchOn?_comment_iff plain' (m := m)
  have marks : (commentRule.pattern.matchOn? rest).isSome = true ↔ "//".toList <+: rest ∨
      "/*".toList <+: rest ∧ ∃ n, 2 ≤ n ∧ "*/".toList <+: rest.drop n := by
    rw [Option.isSome_iff_exists]
    constructor
    · rintro ⟨m, hm⟩
      rcases (match_iff m).1 hm with ⟨opens, -⟩ | ⟨n, closes, -⟩
      · exact Or.inl opens
      · exact Or.inr ⟨closes.opens, n, closes.behind, closes.closes⟩
    · rintro (opens | ⟨opens, n, le, closes⟩)
      · exact ⟨_, (match_iff _).2 (Or.inl ⟨opens, rfl⟩)⟩
      · obtain ⟨n, first⟩ := exists_closesAt opens le closes
        exact ⟨_, (match_iff _).2 (Or.inr ⟨n, first, rfl⟩)⟩
  rw [Pattern.matchAt?_eq_matchOn? here]
  refine ⟨marks, match_iff, ?_, ?_⟩
  · -- behind the opening mark there is room for one character only
    rintro rfl
    rw [← Option.not_isSome_iff_eq_none, marks]
    rintro (opens | ⟨-, n, le, closes⟩)
    · exact absurd opens (by decide)
    · have short := closes.length_le
      rw [List.length_drop] at short
      have two : "*/".toList.length = 2 := rfl
      have three : "/*/".toList.length = 3 := rfl
      omega
  · intro t options number column n last m closes picked
    have found : commentRule.pattern.matchOn? rest = some m := Table.matchOn?_of_firstMatch? picked
    obtain rfl : m = ⟨[], rest.take (n + 2), []⟩ :=
      Option.some.inj (found.symm.trans ((match_iff _).2 (Or.inr ⟨n, closes, rfl⟩)))
    have length : (rest.take (n + 2)).length = n + 2 := by
      rw [List.length_take, Nat.min_eq_left closes.add_two_le]
    have some : rest.take (n + 2) ≠ [] := List.ne_nil_of_length_eq_add_one length
    have cut : rest.take (n + 2) ++ rest.drop (n + 2) = rest := List.take_append_drop _ _
    have picked' : t.firstMatch? ⟨column, rest.take (n + 2) ++ rest.drop (n + 2), last⟩ =
        .some (commentRule, ⟨[], rest.take (n + 2), []⟩) := by rwa [cut]
    have behind := Table.scanLine_of_skips options number picked' some rfl
    rwa [cut, length] at behind

/-- Behind the letter stands a comment that is closed by the second star of a run, and text behind
it. -/
theorem comments_end_stars :
    after? "é/*/ a **/ b".toList 2 = some "/*/ a **/ b".toList ∧
    commentRule.pattern.matchAt? "é/*/ a **/ b".toList 2 = some ⟨[], "/*/ a **/".toList, []⟩ := by
  have place : after? "é/*/ a **/ b".toList 2 = some "/*/ a **/ b".toList := by decide +kernel
  have closes : ClosesAt "/*/ a **/ b".toList 7 := by
    refine ⟨by decide, by decide, by decide, fun k hk lt => ?_⟩
    interval_cases k <;> decide
  refine ⟨place, ((comments_end (by decide) place).2.1 _).2 (Or.inr ⟨7, closes, ?_⟩)⟩
  decide

end Premade

end RuleLexer
