import RuleLexer.Proofs.Pattern.Anchor
import RuleLexer.Proofs.Regex.Marked

/-!
# Which expressions a pattern leaves intact

A pattern puts its expressions, as text, into groups behind marks for the start of the text. What
comes of an expression that can be read on its own is settled here: alternatives, flags, the numbers
of groups and what the groups capture all stay within the group, with one exception. A comment at
the end of an expression, with the `x` flag set, runs on over the parenthesis that is to close the
group, and the pattern is refused.

* `MeansAlone` — what an expression is read as on its own, and what that means;
* `Pattern.Intact` — a pattern has the matches of an expression on its own that begin at the place;
* `MeansAlone.compile_anchored` — what compiling in the group gives, the limits included.

The main statement is `Pattern.intact_exactly`.
-/

namespace RuleLexer

open Text (after?)
open Regex (Expr Tree maxDepth maxWeight)

/-- The mark and the group are two levels of nesting. -/
theorem Regex.Tree.depth_marked (tree : Tree) :
    tree.marked.depth .neither = tree.depth .neither + 2 := by
  show max 0 (tree.depth .neither + 1) + 1 = tree.depth .neither + 2
  rw [Nat.zero_max]

/-- **What an expression is on its own**, however deeply nested and however large: the tree that it
is read as, and the expression that the tree means. -/
structure MeansAlone (source : String) (tree : Tree) (e : Expr) : Prop where
  /-- The text is read as the tree. -/
  read : Tree.read source.toList = .ok tree
  /-- The tree has a meaning. -/
  meaning : tree.toExpr? = .ok e

namespace MeansAlone

variable {source : String} {tree : Tree} {e : Expr} (alone : MeansAlone source tree e)

include alone

theorem numbered : e.Numbered :=
  Expr.heritable_numbered.of_toExpr? (Tree.numbered_of_read alone.read) alone.meaning

/-- An expression is a sequence of tidy parts. -/
theorem exists_parts : ∃ parts, (∀ p ∈ parts, p.Tidy) ∧ e = .seq parts := by
  obtain ⟨m, hm, h⟩ := bind_eq_ok_iff.1 alone.meaning
  have numbered := Tree.numbered_of_read alone.read
  exact ⟨m.parts, Expr.heritable_tidy.of_meaning numbered hm, (Except.ok.inj h).symm⟩

/-- What the expression compiles to on its own, if the limits allow it. -/
theorem eq_of_compile {r : Regex} (h : Regex.compile source.toList = .ok r) :
    r = ⟨e.program, e.groups⟩ := by
  obtain ⟨f, hf, rfl⟩ := Regex.exists_expr_of_compile h
  obtain ⟨tree', parsed, hf⟩ := bind_eq_ok_iff.1 hf
  obtain rfl := Except.ok.inj ((Tree.read_of_parse parsed).symm.trans alone.read)
  obtain rfl := Except.ok.inj (hf.symm.trans alone.meaning)
  rfl

/-! ### In the group and behind the mark -/

/-- Behind the mark, the expression means what it does on its own. -/
theorem toExpr?_marked : tree.marked.toExpr? = .ok e.marked := by
  obtain ⟨m, hm, h⟩ := bind_eq_ok_iff.1 alone.meaning
  obtain rfl := Except.ok.inj h
  have group : (Tree.group [] tree).meaning .sequence {} = .ok ⟨[.seq m.parts], {}⟩ := by
    rw [Tree.meaning, show Regex.Flags.apply {} [] = {} from rfl, hm]
    rfl
  have whole : tree.marked.meaning .neither {} =
      .ok ⟨[.seq [.look .textStart, .seq m.parts]], {}⟩ := by
    rw [Tree.marked, Tree.meaning, Tree.meaning]
    show ((Tree.group [] tree).meaning .sequence {} >>= _) = _
    rw [group]
    rfl
  rw [Tree.toExpr?, whole]
  rfl

/-- The mark takes little memory. -/
theorem weight_marked_le : e.marked.weight ≤ e.weight + 32 := by
  obtain ⟨parts, tidy, rfl⟩ := alone.exists_parts
  rcases Expr.seq_behind_look tidy .textStart with ⟨-, eq⟩ | eq
  · rw [Expr.marked, eq]
    exact Nat.le_add_left _ _
  · rw [Expr.marked, eq]
    exact Nat.le_of_eq (Nat.add_comm _ _)

/-- **Compiling an expression in its group** comes to what it compiles to behind the mark, if it
does not end in a comment. -/
theorem compile_anchored (open_end : ¬ Tree.EndsInComment source.toList) :
    Regex.compile (anchored source.toList) =
      if tree.depth .neither + 2 ≤ maxDepth then
        if e.marked.weight ≤ maxWeight then .ok ⟨e.marked.program, e.marked.groups⟩
        else .error .tooLarge
      else .error (.malformed .tooDeep) := by
  rcases Tree.read_group alone.read with ⟨-, read⟩ | ⟨ends, -⟩
  · have parsed : Tree.parse (anchored source.toList) =
        if tree.depth .neither + 2 ≤ maxDepth then .ok tree.marked else .error .tooDeep := by
      rw [Tree.parse_eq, show Tree.read (anchored source.toList) = .ok tree.marked from read,
        ← tree.depth_marked]
      rfl
    by_cases shallow : tree.depth .neither + 2 ≤ maxDepth
    · rw [if_pos shallow] at parsed
      have reads : (Tree.parse (anchored source.toList) >>= Tree.toExpr?) = .ok e.marked := by
        rw [parsed]
        exact alone.toExpr?_marked
      rw [Regex.compile, reads, if_pos shallow]
    · rw [Regex.compile, parsed, if_neg shallow, if_neg shallow]
      rfl
  · exact absurd ends open_end

/-- An expression that ends in a comment leaves its group open. -/
theorem compile_anchored_of_comment (ends : Tree.EndsInComment source.toList) :
    Regex.compile (anchored source.toList) = .error (.malformed .unclosedGroup) := by
  rcases Tree.read_group alone.read with ⟨open_end, -⟩ | ⟨-, read⟩
  · exact absurd ends open_end
  · rw [Regex.compile, Tree.parse_eq,
      show Tree.read (anchored source.toList) = .error .unclosedGroup from read]
    rfl

/-- What compiles in the group is the expression behind the mark. -/
theorem eq_marked_of_compile {r : Regex} (h : Regex.compile (anchored source.toList) = .ok r) :
    r = ⟨e.marked.program, e.marked.groups⟩ := by
  by_cases ends : Tree.EndsInComment source.toList
  · cases (alone.compile_anchored_of_comment ends).symm.trans h
  · rw [alone.compile_anchored ends] at h
    split at h
    · split at h
      · exact (Except.ok.inj h).symm
      · cases h
    · cases h

end MeansAlone

/-! ### Patterns of one expression -/

namespace Pattern

variable {source : String} {p : Pattern}

/-- **A pattern leaves an expression intact**: at every place of a text it has a match exactly where
the expression matches on its own, from the place on, and it is the match that the expression finds
there on its own, with all that the groups capture. -/
def Intact (p : Pattern) (e : Expr) : Prop :=
  ∀ (text : List Char) (offset : Nat) (rest : List Char), after? text offset = some rest →
    ((p.matchAt? text offset).isSome = true ↔ e.Leads rest) ∧
      p.matchAt? text offset =
        (Regex.matchOn? ⟨e.program, e.groups⟩ rest).filter (·.skipped.isEmpty)

/-- A pattern of one expression is accepted if this compiles. -/
theorem ofSources_singleton (source : String) : ofSources [source] =
    match Alternative.ofSource source with
    | .ok a => .ok ⟨[a], List.cons_ne_nil a []⟩
    | .error cause => .error (.badExpression cause) := by
  unfold ofSources compileAll
  cases Alternative.ofSource source <;> rfl

theorem ofSources_singleton_of_error {cause : RegexError}
    (h : Regex.compile (anchored source.toList) = .error cause) :
    ofSources [source] = .error (.badExpression cause) := by
  have refused : Alternative.ofSource source = .error cause := by
    unfold Alternative.ofSource
    split
    · next r hr => cases hr.symm.trans h
    · next cause' hc =>
      obtain rfl := Except.error.inj (hc.symm.trans h)
      rfl
  rw [ofSources_singleton, refused]

theorem exists_of_compile {r : Regex} (h : Regex.compile (anchored source.toList) = .ok r) :
    ∃ p, ofSources [source] = .ok p := by
  have compiles : Compiles source.toList := by
    rw [Compiles, h]
    rfl
  obtain ⟨a, ha⟩ := isOk_ofSource compiles
  rw [ofSources_singleton, ha]
  exact ⟨_, rfl⟩

/-- A pattern of one expression matches what this was compiled to. -/
theorem exists_regex_of_ofSources (h : ofSources [source] = .ok p) :
    ∃ r, Regex.compile (anchored source.toList) = .ok r ∧
      ∀ rest, p.matchOn? rest = r.matchOn? rest := by
  rw [ofSources_singleton] at h
  split at h
  · next a ha =>
    obtain rfl := Except.ok.inj h
    refine ⟨a.regex, ?_, fun rest => ?_⟩
    · rw [← source_of_ofSource ha]
      exact a.compiled
    · show [a].findSome? (·.regex.matchOn? rest) = _
      rw [List.findSome?_singleton]
  · cases h

end Pattern

namespace MeansAlone

variable {source : String} {tree : Tree} {e : Expr} (alone : MeansAlone source tree e)

include alone

/-- **Behind the mark, an expression matches** what it matches on its own, where this begins at the
start of the text. -/
theorem matchOn?_marked (rest : List Char) :
    Regex.matchOn? ⟨e.marked.program, e.marked.groups⟩ rest =
      (Regex.matchOn? ⟨e.program, e.groups⟩ rest).filter (·.skipped.isEmpty) := by
  have numbered := alone.numbered
  obtain ⟨parts, tidy, rfl⟩ := alone.exists_parts
  rw [Regex.matchOn?, Regex.matchOn?, Regex.find?_seq_marked tidy numbered, Option.filter_map]
  cases hfound : Regex.find? ⟨(Expr.seq parts).program, (Expr.seq parts).groups⟩ rest with
  | none => rfl
  | some found =>
    have same : decide (found.whole.start = 0) = (rest.take found.whole.start).isEmpty := by
      rw [Bool.eq_iff_iff, decide_eq_true_iff, List.isEmpty_iff,
        Regex.take_start_eq_nil_iff numbered hfound]
    rw [Option.filter_some, Option.filter_some, same]
    rfl

/-- An expression on its own has a match that begins at the start of a text exactly where it
leads. -/
theorem isSome_filter_iff (rest : List Char) :
    ((Regex.matchOn? ⟨e.program, e.groups⟩ rest).filter (·.skipped.isEmpty)).isSome = true ↔
      e.Leads rest := by
  have numbered := alone.numbered
  constructor
  · intro some
    obtain ⟨m, hm⟩ := Option.isSome_iff_exists.1 some
    obtain ⟨hm, none⟩ := Option.filter_eq_some_iff.1 hm
    exact (Regex.skipped_eq_nil_iff_leads numbered hm).1 (List.isEmpty_iff.1 none)
  · intro leads
    obtain ⟨m, hm⟩ : ∃ m, Regex.matchOn? ⟨e.program, e.groups⟩ rest = some m := by
      refine Option.ne_none_iff_exists'.1 fun none => ?_
      obtain ⟨j, matched⟩ := leads
      have never := (Regex.find?_eq_none_iff numbered).1 (Option.map_eq_none_iff.1 none)
      exact never ⟨0, Nat.zero_le _, j, matched⟩
    have none := List.isEmpty_iff.2 ((Regex.skipped_eq_nil_iff_leads numbered hm).2 leads)
    exact Option.isSome_iff_exists.2 ⟨m, Option.filter_eq_some_iff.2 ⟨hm, none⟩⟩

/-- **Every pattern that is made of the expression leaves it intact.** -/
theorem intact {p : Pattern} (accepted : Pattern.ofSources [source] = .ok p) : p.Intact e := by
  obtain ⟨r, compiled, same⟩ := Pattern.exists_regex_of_ofSources accepted
  obtain rfl := alone.eq_marked_of_compile compiled
  intro text offset rest here
  have found : p.matchAt? text offset =
      (Regex.matchOn? ⟨e.program, e.groups⟩ rest).filter (·.skipped.isEmpty) := by
    rw [Pattern.matchAt?, here]
    exact (same rest).trans (alone.matchOn?_marked rest)
  rw [found]
  exact ⟨alone.isSome_filter_iff rest, rfl⟩

end MeansAlone

/-! ### Expressions and the patterns made of them -/

instance (source : List Char) : Decidable (Tree.EndsInComment source) :=
  inferInstanceAs (Decidable (Tree.read (source ++ [')']) = Tree.read source))

namespace Pattern

/-- **What becomes of an expression that can be read on its own.** If it ends in a comment, it makes
no pattern. Otherwise it makes one, unless with the mark and the group it exceeds the limit of nesting
or of memory; and every pattern that is made of it leaves it intact. -/
theorem intact_exactly {source : String} {tree : Tree} {e : Expr}
    (alone : MeansAlone source tree e) :
    (∀ r, Regex.compile source.toList = .ok r → r = ⟨e.program, e.groups⟩) ∧
    (Tree.EndsInComment source.toList →
      ofSources [source] = .error (.badExpression (.malformed .unclosedGroup))) ∧
    (¬ Tree.EndsInComment source.toList →
      (tree.depth .neither + 2 ≤ maxDepth → e.weight + 32 ≤ maxWeight →
        ∃ p, ofSources [source] = .ok p) ∧
      ∀ cause, ofSources [source] = .error cause →
        cause = .badExpression (.malformed .tooDeep) ∨ cause = .badExpression .tooLarge) ∧
    ∀ p, ofSources [source] = .ok p → p.Intact e := by
  refine ⟨fun r => alone.eq_of_compile, fun ends => ?_, fun open_end => ⟨fun shallow light => ?_,
    fun cause refused => ?_⟩, fun p accepted => ?_⟩
  · exact ofSources_singleton_of_error (alone.compile_anchored_of_comment ends)
  · have light' := Nat.le_trans alone.weight_marked_le light
    have compiled := alone.compile_anchored open_end
    rw [if_pos shallow, if_pos light'] at compiled
    exact exists_of_compile compiled
  · -- it could only be refused for the limits
    have compiled := alone.compile_anchored open_end
    split at compiled
    · split at compiled
      · obtain ⟨p, accepted⟩ := exists_of_compile compiled
        cases refused.symm.trans accepted
      · have large := ofSources_singleton_of_error compiled
        exact Or.inr (Except.error.inj (refused.symm.trans large))
    · have deep := ofSources_singleton_of_error compiled
      exact Or.inl (Except.error.inj (refused.symm.trans deep))
  · exact alone.intact accepted

/-- A pattern of an expression that sets the `x` flag and has a comment whose line ends. -/
def remark : Pattern := .ofValid ["(?x)(a|ab)(c)? # c\n"] (by decide +kernel)

/-- The comment stays within its line. As in the expression on its own, the first choice is preferred
to the longer one, and the second group captures nothing. -/
theorem intact_exactly_remark : ofSources ["(?x)(a|ab)(c)? # c\n"] = .ok remark ∧
    ¬ Tree.EndsInComment "(?x)(a|ab)(c)? # c\n".toList ∧
    (∃ tree e, MeansAlone "(?x)(a|ab)(c)? # c\n" tree e ∧ remark.Intact e) ∧
    remark.matchAt? ['x', 'a', 'b', 'c'] 0 = none ∧
    remark.matchAt? ['x', 'a', 'b', 'c'] 1 = some ⟨[], ['a'], [some ['a'], none]⟩ := by
  have accepted : ofSources ["(?x)(a|ab)(c)? # c\n"] = .ok remark := ofSources_eq_ofValid _
  obtain ⟨e, reading⟩ : ∃ e, (Tree.read "(?x)(a|ab)(c)? # c\n".toList >>= Tree.toExpr?) = .ok e :=
    exists_of_isOk (by decide +kernel)
  obtain ⟨tree, read, meaning⟩ := bind_eq_ok_iff.1 reading
  have alone : MeansAlone "(?x)(a|ab)(c)? # c\n" tree e := ⟨read, meaning⟩
  obtain ⟨-, -, -, intact⟩ := intact_exactly alone
  refine ⟨accepted, ?_, ⟨tree, e, alone, intact remark accepted⟩, ?_, ?_⟩
  all_goals decide +kernel

/-- A comment at the end: on its own, the expression matches an `a`, but it makes no pattern. -/
theorem not_intact_of_comment : ∃ r, Regex.compile "(?x)a # c".toList = .ok r ∧
    r.matchOn? ['a'] = some ⟨[], ['a'], []⟩ ∧
    ofSources ["(?x)a # c"] = .error (.badExpression (.malformed .unclosedGroup)) := by
  refine ⟨⟨⟨#[.save 0 1, .char (.single 'a') 2, .save 1 3, .accept], 2, false⟩, 0⟩, ?_⟩
  decide +kernel

end Pattern

end RuleLexer
