import RuleLexer.Proofs.Pattern.Anchor
import RuleLexer.Proofs.Regex.Words
import RuleLexer.Premade

/-!
# The ready-made collections

Lists, tuples and dictionaries of literals are matched by one expression each. What these
expressions are meant to match is told by a grammar that does not mention them
(`Collection.bracketed`): brackets around items that are separated by commas, with spaces in between.
A literal is a number, a truth value or a quoted string; the latter may have brackets, commas and
quotes of the other kind in it.

* `Collection.spells_bracketed` — the expressions spell the grammar, shown part by part;
* `Collection.prefixFree_bracketed` — no collection is the beginning of another one of its kind: the
  bracket that closes a collection is the first one outside of quotes;
* `Premade.collections_match_grammar` — the rule for a collection matches exactly what the grammar
  allows.

The second point is why preferences do not show: from one place on there is one collection at most,
so that whichever match is preferred, it is this one.
-/

namespace RuleLexer

open Text (after?)
open Regex (Expr PrefixFree Begins Stands oneOf)
open Regex.Expr (spells_literal spells_set spells_cat spells_alt spells_star spells_plus
  spells_option spells_seq)
open scoped Computability

namespace Collection

/-! ### The grammar -/

/-- Spaces. -/
def blanks : Language Char := {[' ']}∗

/-- A run of digits. -/
def digits : Language Char := oneOf (·.isDigit) * (oneOf (·.isDigit))∗

/-- An optional sign. -/
def sign : Language Char := 1 + oneOf fun c => c = '+' ∨ c = '-'

/-- What can stand in quotes: a backslash and any character, or a character that is neither the
quote nor a backslash. -/
def quotable (quote : Char) : Language Char :=
  {['\\']} * oneOf (fun _ => True) + oneOf fun c => c ≠ quote ∧ c ≠ '\\'

/-- A string in quotes of one kind. -/
def quotedBy (quote : Char) : Language Char := {[quote]} * (quotable quote)∗ * {[quote]}

/-- A string in quotes of either kind. -/
def quoted : Language Char := quotedBy '"' + quotedBy '\x27'

/-- A literal: a whole number, a decimal number, a truth value or a quoted string. -/
def literal : Language Char :=
  sign * digits + sign * digits * {['.']} * digits + {"True".toList} + {"False".toList} + quoted

/-- An entry of a dictionary: a quoted key and a literal. -/
def entry : Language Char := quoted * blanks * {[':']} * blanks * literal

/-- Items separated by commas, possibly none. -/
def separated (item : Language Char) : Language Char :=
  1 + item * (blanks * {[',']} * blanks * item)∗

/-- **A collection**: items separated by commas, between brackets. -/
def bracketed (opening closing : Char) (item : Language Char) : Language Char :=
  {[opening]} * blanks * separated item * blanks * {[closing]}

/-! ### The expressions -/

/-- Spaces, as an expression. -/
def blanksExpr : Expr := .times (.literal [' ']) 0 none true

/-- A run of digits, as an expression. -/
def digitsExpr : Expr := .times (.set (.range 0x30 0x39)) 1 none true

/-- An optional sign, as an expression. -/
def signExpr : Expr := .times (.set (.ofList ['+', '-'])) 0 (some 1) true

/-- What can stand in quotes, as an expression; a line feed cannot stand behind a backslash. -/
def quotableExpr (quote : Char) : Expr :=
  .alt (.cat (.literal ['\\']) (.set (.diff .all (.single '\n'))))
    (.set (.compl (.ofList [quote, '\\'])))

/-- A string in quotes of one kind, as an expression. -/
def quotedByExpr (quote : Char) : Expr :=
  .seq [.literal [quote], .times (quotableExpr quote) 0 none true, .literal [quote]]

/-- A string in quotes of either kind, as an expression. -/
def quotedExpr : Expr := .alt (quotedByExpr '"') (quotedByExpr '\x27')

/-- A literal, as an expression: decimal numbers are preferred to whole ones. -/
def literalExpr : Expr :=
  .alt (.seq [signExpr, digitsExpr, .literal ['.'], digitsExpr])
    (.alt (.seq [signExpr, digitsExpr])
      (.alt (.literal "True".toList) (.alt (.literal "False".toList) quotedExpr)))

/-- An entry of a dictionary, as an expression. -/
def entryExpr : Expr := .seq [quotedExpr, blanksExpr, .literal [':'], blanksExpr, literalExpr]

/-- Items separated by commas, as an expression. -/
def separatedExpr (item : Expr) : Expr :=
  .times (.seq [item, .times (.seq [blanksExpr, .literal [','], blanksExpr, item]) 0 none true])
    0 (some 1) true

/-- The parts of a collection, as expressions. -/
def bracketedParts (opening closing : Char) (item : Expr) : List Expr :=
  [.literal [opening], blanksExpr, separatedExpr item, blanksExpr, .literal [closing]]

/-! ### The expressions spell the grammar -/

theorem spells_blanks : blanksExpr.Spells blanks := spells_star (spells_literal [' '])

theorem contains_digit {c : Char} : (CharSet.range 0x30 0x39).contains c = c.isDigit := by
  rw [Bool.eq_iff_iff, ← CharSet.mem_iff, CharSet.mem_range, Char.isDigit, Bool.and_eq_true,
    decide_eq_true_iff, decide_eq_true_iff]
  exact Iff.rfl

theorem spells_digit : (Expr.set (.range 0x30 0x39)).Spells (oneOf (·.isDigit)) :=
  spells_set fun c _ => by rw [CharSet.mem_iff, contains_digit]

theorem spells_digits : digitsExpr.Spells digits := spells_plus spells_digit

theorem spells_sign : signExpr.Spells sign :=
  spells_option (spells_set fun c _ => by simp)

theorem spells_quotable (quote : Char) : (quotableExpr quote).Spells (quotable quote) := by
  refine spells_alt (spells_cat (spells_literal _) (spells_set fun c proper => ?_))
    (spells_set fun c _ => by simp)
  -- the dot is any character, there being no line feeds
  simp [CharSet.mem_all, CharSet.mem_single, proper]

theorem spells_quotedBy (quote : Char) : (quotedByExpr quote).Spells (quotedBy quote) := by
  have parts : (quotedByExpr quote).Spells _ := spells_seq (.cons (spells_literal [quote])
    (.cons (spells_star (spells_quotable quote)) (.cons (spells_literal [quote]) .nil)))
  simp only [List.prod_cons, List.prod_nil, mul_one, ← mul_assoc] at parts
  exact parts

theorem spells_quoted : quotedExpr.Spells quoted :=
  spells_alt (spells_quotedBy '"') (spells_quotedBy '\x27')

theorem spells_literals : literalExpr.Spells literal := by
  have decimal := spells_seq (.cons spells_sign (.cons spells_digits
    (.cons (spells_literal ['.']) (.cons spells_digits .nil))))
  have whole := spells_seq (.cons spells_sign (.cons spells_digits .nil))
  have all := spells_alt decimal (spells_alt whole (spells_alt (spells_literal "True".toList)
    (spells_alt (spells_literal "False".toList) spells_quoted)))
  simp only [List.prod_cons, List.prod_nil, mul_one, ← mul_assoc, ← add_assoc] at all
  -- the grammar has the numbers the other way round
  rwa [add_comm (sign * digits * _ * digits)] at all

theorem spells_entry : entryExpr.Spells entry := by
  have parts := spells_seq (.cons spells_quoted (.cons spells_blanks
    (.cons (spells_literal [':']) (.cons spells_blanks (.cons spells_literals .nil)))))
  simp only [List.prod_cons, List.prod_nil, mul_one, ← mul_assoc] at parts
  exact parts

section Bracketed

variable {itemExpr : Expr} {item : Language Char}

theorem spells_separated (h : itemExpr.Spells item) :
    (separatedExpr itemExpr).Spells (separated item) := by
  have next := spells_seq (.cons spells_blanks (.cons (spells_literal [','])
    (.cons spells_blanks (.cons h .nil))))
  have items : (separatedExpr itemExpr).Spells _ :=
    spells_option (spells_seq (.cons h (.cons (spells_star next) .nil)))
  simp only [List.prod_cons, List.prod_nil, mul_one, ← mul_assoc] at items
  exact items

/-- **The parts of a collection spell the grammar** if the items do. -/
theorem spells_bracketed (opening closing : Char) (h : itemExpr.Spells item) :
    (Expr.seq (bracketedParts opening closing itemExpr)).Spells
      (bracketed opening closing item) := by
  have parts := spells_seq (.cons (spells_literal [opening]) (.cons spells_blanks
    (.cons (spells_separated h) (.cons spells_blanks (.cons (spells_literal [closing]) .nil)))))
  simp only [List.prod_cons, List.prod_nil, mul_one, ← mul_assoc] at parts
  exact parts

end Bracketed

/-! ### One collection from one place -/

theorem prefixFree_quotable (quote : Char) : PrefixFree (quotable quote) := by
  refine ((PrefixFree.of_singleton _).mul (.of_oneOf _)).add (.of_oneOf _)
    Regex.begins_singleton.mul Regex.begins_oneOf fun c backslash plain => ?_
  exact plain.2 backslash

/-- A quoted string ends with the first quote that does not stand behind a backslash. -/
theorem prefixFree_quotedBy {quote : Char} (h : quote ≠ '\\') : PrefixFree (quotedBy quote) := by
  rw [quotedBy, mul_assoc]
  refine (PrefixFree.of_singleton _).mul ((prefixFree_quotable quote).kstar_mul (.of_singleton _)
    (Regex.begins_singleton.mul.add Regex.begins_oneOf) Regex.begins_singleton ?_)
  rintro c (backslash | plain) rfl
  · exact h backslash
  · exact plain.1 rfl

theorem begins_quotedBy (quote : Char) : Begins (quotedBy quote) (· = quote) :=
  (Regex.begins_singleton.mul).mul

/-- Characters that are no quotes and close no collection. -/
def isInner (c : Char) : Bool := c ∉ ['"', '\x27', ']', ')', '\x7d']

/-- The pieces that the inside of a collection is made of: single characters and quoted strings. -/
def pieces : Language Char := oneOf (isInner ·) + quoted

theorem prefixFree_quoted : PrefixFree quoted := by
  refine (prefixFree_quotedBy (by decide)).add (prefixFree_quotedBy (by decide)) (begins_quotedBy _)
    (begins_quotedBy _) ?_
  rintro c rfl
  decide

theorem begins_quoted : Begins quoted fun c => c = '"' ∨ c = '\x27' :=
  (begins_quotedBy _).add (begins_quotedBy _)

theorem prefixFree_pieces : PrefixFree pieces := by
  refine (PrefixFree.of_oneOf _).add prefixFree_quoted Regex.begins_oneOf begins_quoted ?_
  rintro c inner (rfl | rfl)
  · exact absurd inner (by decide)
  · exact absurd inner (by decide)

/-! The parts of a collection are put together from pieces. -/

section Inside

variable {L M : Language Char}

theorem mul_le_pieces (hL : L ≤ pieces∗) (hM : M ≤ pieces∗) : L * M ≤ pieces∗ :=
  (mul_le_mul' hL hM).trans_eq (kstar_mul_kstar pieces)

theorem kstar_le_pieces (h : L ≤ pieces∗) : L∗ ≤ pieces∗ :=
  (kstar_mono h).trans_eq (kstar_idem pieces)

theorem oneOf_le_pieces {kind : Char → Prop} (h : ∀ c, kind c → isInner c = true) :
    oneOf kind ≤ pieces∗ := by
  refine le_trans ?_ le_kstar
  rintro _ ⟨c, hc, rfl⟩
  exact Or.inl ⟨c, h c hc, rfl⟩

theorem word_le_pieces {cs : List Char} (h : cs.all isInner = true) : {cs} ≤ pieces∗ := by
  have inner : (oneOf (isInner ·))∗ ≤ pieces∗ := kstar_le_pieces (oneOf_le_pieces fun _ => id)
  rintro w rfl
  exact inner (Regex.mem_kstar_oneOf.2 (List.all_eq_true.1 h))

theorem blanks_le_pieces : blanks ≤ pieces∗ := kstar_le_pieces (word_le_pieces (by decide))

theorem digits_le_pieces : digits ≤ pieces∗ := by
  have digit : oneOf (·.isDigit) ≤ pieces∗ := by
    refine oneOf_le_pieces fun c digit => decide_eq_true fun closes => ?_
    simp only [List.mem_cons, List.not_mem_nil, or_false] at closes
    rcases closes with rfl | rfl | rfl | rfl | rfl <;> exact absurd digit (by decide)
  exact mul_le_pieces digit (kstar_le_pieces digit)

theorem sign_le_pieces : sign ≤ pieces∗ := by
  refine add_le one_le_kstar (oneOf_le_pieces ?_)
  rintro c (rfl | rfl) <;> decide

theorem quoted_le_pieces : quoted ≤ pieces∗ := by
  refine le_trans ?_ le_kstar
  exact fun _ h => Or.inr h

theorem literal_le_pieces : literal ≤ pieces∗ := by
  have whole := mul_le_pieces sign_le_pieces digits_le_pieces
  have point : {['.']} ≤ pieces∗ := word_le_pieces (by decide)
  have decimal := mul_le_pieces (mul_le_pieces whole point) digits_le_pieces
  exact add_le (add_le (add_le (add_le whole decimal) (word_le_pieces (by decide)))
    (word_le_pieces (by decide))) quoted_le_pieces

theorem entry_le_pieces : entry ≤ pieces∗ := by
  have colon : {[':']} ≤ pieces∗ := word_le_pieces (by decide)
  exact mul_le_pieces (mul_le_pieces (mul_le_pieces (mul_le_pieces quoted_le_pieces
    blanks_le_pieces) colon) blanks_le_pieces) literal_le_pieces

theorem separated_le_pieces (h : L ≤ pieces∗) : separated L ≤ pieces∗ := by
  have comma : {[',']} ≤ pieces∗ := word_le_pieces (by decide)
  have next := mul_le_pieces (mul_le_pieces (mul_le_pieces blanks_le_pieces comma)
    blanks_le_pieces) h
  exact add_le one_le_kstar (mul_le_pieces h (kstar_le_pieces next))

end Inside

/-- **No collection is the beginning of another one of its kind**: it ends with the first bracket
that closes and does not stand in quotes. -/
theorem prefixFree_bracketed {opening closing : Char} {item : Language Char}
    (closes : closing ∈ [']', ')', '\x7d']) (h : item ≤ pieces∗) :
    PrefixFree (bracketed opening closing item) := by
  have whole : PrefixFree ({[opening]} * (pieces∗ * {[closing]})) := by
    refine (PrefixFree.of_singleton _).mul (prefixFree_pieces.kstar_mul (.of_singleton _)
      (Regex.begins_oneOf.add begins_quoted) Regex.begins_singleton ?_)
    rintro c (inner | rfl | rfl) rfl
    · exact of_decide_eq_true inner (List.mem_cons_of_mem _ (List.mem_cons_of_mem _ closes))
    · exact absurd closes (by decide)
    · exact absurd closes (by decide)
  refine whole.mono ?_
  have inside := mul_le_pieces (mul_le_pieces blanks_le_pieces (separated_le_pieces h))
    blanks_le_pieces
  calc bracketed opening closing item
      = {[opening]} * (blanks * separated item * blanks * {[closing]}) := by
        simp only [bracketed, mul_assoc]
    _ ≤ {[opening]} * (pieces∗ * {[closing]}) := mul_le_mul_right (mul_le_mul_left inside _) _

end Collection

/-! ### Patterns of one expression -/

/-- **An expression that spells a language without beginnings** matches behind its mark exactly the
word that the text begins with. -/
theorem Alternative.matchOn?_eq_some_iff {a : Alternative} {parts : List Expr}
    {words : Language Char} (reads : Reads a.source (.seq (.look .textStart :: parts)))
    (ungrouped : (Expr.seq (.look .textStart :: parts)).groups = 0)
    (spells : (Expr.seq parts).Spells words) (unique : PrefixFree words) {rest : List Char}
    (plain : '\n' ∉ rest) {m : Match} :
    a.regex.matchOn? rest = some m ↔ ∃ w ∈ words, w <+: rest ∧ m = ⟨[], w, []⟩ := by
  have forward {m : Match} (h : a.regex.matchOn? rest = some m) :
      ∃ w ∈ words, w <+: rest ∧ m = ⟨[], w, []⟩ := by
    rw [regex_eq reads] at h
    obtain ⟨found, hfound, rfl⟩ := Option.map_eq_some_iff.1 h
    obtain ⟨le, matched, -⟩ := Regex.matches_of_find? (Regex.numbered_of_reading reads) hfound
    obtain ⟨start, w, hw, begins, stop⟩ := (spells.matches_behind_mark plain le).1 matched
    have groups : found.groups = [] := by
      obtain ⟨slots, -, h⟩ := Option.bind_eq_some_iff.1 hfound
      obtain ⟨whole, -, h⟩ := Option.bind_eq_some_iff.1 h
      obtain rfl := Option.some.inj h
      show (List.range _).map _ = []
      rw [ungrouped]
      rfl
    have text : found.whole.of rest = w := by
      rw [Regex.Span.of, start, stop, Nat.zero_add, Nat.sub_zero, List.drop_zero]
      exact (List.prefix_iff_eq_take.1 begins).symm
    refine ⟨w, hw, begins, ?_⟩
    rw [groups, text, start]
    rfl
  refine ⟨forward, ?_⟩
  rintro ⟨w, hw, begins, rfl⟩
  have occurs : (Expr.seq (.look .textStart :: parts)).Occurs rest :=
    ⟨0, Nat.zero_le _, 0 + w.length,
      (spells.matches_behind_mark plain (Nat.zero_le _)).2 ⟨rfl, w, hw, begins, rfl⟩⟩
  cases found : a.regex.matchOn? rest with
  | none => exact absurd occurs ((matchOn?_eq_none_iff reads).1 found)
  | some m =>
    -- there is a match, and it is that of the one word
    obtain ⟨v, hv, begins', rfl⟩ := forward found
    rw [unique.unique hv hw begins' begins]

theorem Pattern.sources_ofValid {sources : List String} (valid : (ofSources sources).isOk = true) :
    (ofValid sources valid).sources = sources :=
  sources_of_ofSources (ofSources_eq_ofValid valid)

namespace Premade

open Collection

theorem sources_single {source : String} (h : Pattern.Compiles source.toList) :
    (single source h).sources = [source] :=
  Pattern.sources_ofValid _

/-- What a rule matches whose one expression is that of a collection behind its mark. -/
theorem matches_bracketed {opening closing : Char} {itemExpr : Expr} {item : Language Char}
    (closes : closing ∈ [']', ')', '\x7d']) (spells : itemExpr.Spells item)
    (inside : item ≤ pieces∗) {p : Pattern} {source : String} (only : p.sources = [source])
    (reads : Reads source (.seq (.look .textStart :: bracketedParts opening closing itemExpr)))
    (ungrouped :
      (Expr.seq (.look .textStart :: bracketedParts opening closing itemExpr)).groups = 0)
    {line rest : List Char} {offset : Nat} (plain : '\n' ∉ line)
    (here : after? line offset = some rest) :
    PrefixFree (bracketed opening closing item) ∧
    ∀ m, p.matchAt? line offset = some m ↔
      ∃ w ∈ bracketed opening closing item, w <+: rest ∧ m = ⟨[], w, []⟩ := by
  have unique : PrefixFree (bracketed opening closing item) := prefixFree_bracketed closes inside
  refine ⟨unique, fun m => ?_⟩
  obtain ⟨a, alone, rfl⟩ := List.map_eq_singleton_iff.1 only
  obtain ⟨start, rfl, -⟩ := Text.after?_eq_some_iff.1 here
  rw [Pattern.matchAt?, here, Option.bind_some, Pattern.matchOn?, alone, List.findSome?_singleton]
  exact Alternative.matchOn?_eq_some_iff reads ungrouped (spells_bracketed opening closing spells)
    unique fun feed => plain (List.mem_append_right start feed)

/-! ### What the rules for collections match -/

theorem sources_list : listRule.pattern.sources = [listSource] := by
  rw [listRule]
  dsimp only
  exact sources_single _

theorem sources_tuple : tupleRule.pattern.sources = [tupleSource] := by
  rw [tupleRule]
  dsimp only
  exact sources_single _

theorem sources_dict : dictRule.pattern.sources = [dictSource] := by
  rw [dictRule]
  dsimp only
  exact sources_single _

theorem reads_list :
    Reads listSource (.seq (.look .textStart :: bracketedParts '[' ']' literalExpr)) := by
  simp only [Reads, listSource, sequenceSource, literalSource, String.toList_append,
    toList_quotedSource, toList_numberSource]
  decide +kernel

theorem reads_tuple :
    Reads tupleSource (.seq (.look .textStart :: bracketedParts '(' ')' literalExpr)) := by
  simp only [Reads, tupleSource, sequenceSource, literalSource, String.toList_append,
    toList_quotedSource, toList_numberSource]
  decide +kernel

theorem reads_dict :
    Reads dictSource (.seq (.look .textStart :: bracketedParts '\x7b' '\x7d' entryExpr)) := by
  simp only [Reads, dictSource, entrySource, literalSource, String.toList_append,
    toList_quotedSource, toList_numberSource]
  decide +kernel

/-- The grammar of a set whose rule is one for collections. -/
def grammar? : Premade → Option (Language Char)
  | .list => some (bracketed '[' ']' literal)
  | .tuple => some (bracketed '(' ')' literal)
  | .dict => some (bracketed '\x7b' '\x7d' entry)
  | _ => none

/-- **The rules for collections match what their grammars allow**, and nothing else. At any place of
a line, such a rule has a match exactly when what follows begins with a collection of its kind;
there is at most one that it begins with, and this one is the text of the match, which begins at the
place itself. -/
theorem collections_match_grammar {set : Premade} {grammar : Language Char}
    (h : set.grammar? = some grammar) {r : Rule} (hr : r ∈ set.rules) {line rest : List Char}
    {offset : Nat} (plain : '\n' ∉ line) (here : after? line offset = some rest) :
    ((r.pattern.matchAt? line offset).isSome = true ↔ ∃ w ∈ grammar, w <+: rest) ∧
    (∀ v ∈ grammar, ∀ w ∈ grammar, v <+: rest → w <+: rest → v = w) ∧
    ∀ m, r.pattern.matchAt? line offset = some m ↔
      ∃ w ∈ grammar, w <+: rest ∧ m = ⟨[], w, []⟩ := by
  -- the grammar is one without beginnings, and the matches are its words
  obtain ⟨unique, matches_iff⟩ : PrefixFree grammar ∧ ∀ m : Match,
      r.pattern.matchAt? line offset = some m ↔ ∃ w ∈ grammar, w <+: rest ∧ m = ⟨[], w, []⟩ := by
    cases set with
    | list =>
      obtain rfl := Option.some.inj h
      obtain rfl := List.mem_singleton.1 hr
      exact matches_bracketed (by decide) spells_literals literal_le_pieces
        sources_list reads_list (by decide +kernel) plain here
    | tuple =>
      obtain rfl := Option.some.inj h
      obtain rfl := List.mem_singleton.1 hr
      exact matches_bracketed (by decide) spells_literals literal_le_pieces
        sources_tuple reads_tuple (by decide +kernel) plain here
    | dict =>
      obtain rfl := Option.some.inj h
      obtain rfl := List.mem_singleton.1 hr
      exact matches_bracketed (by decide) spells_entry entry_le_pieces
        sources_dict reads_dict (by decide +kernel) plain here
    | string | float | int | bool | identifier | operator | operatorArithmetic | comment
    | whitespace | varDeclaration => cases h
  refine ⟨?_, fun v hv w hw => unique.unique hv hw, matches_iff⟩
  rw [Option.isSome_iff_exists]
  constructor
  · rintro ⟨m, hm⟩
    obtain ⟨w, hw, begins, -⟩ := (matches_iff m).1 hm
    exact ⟨w, hw, begins⟩
  · rintro ⟨w, hw, begins⟩
    exact ⟨⟨[], w, []⟩, (matches_iff _).2 ⟨w, hw, begins, rfl⟩⟩

/-- Behind the letter, the line begins with a list and with no other one: the bracket and the comma
in quotes do not count. -/
theorem collections_match_grammar_quoted :
    "[-2.5, \"],\"]".toList ∈ bracketed '[' ']' literal ∧
    ∀ w ∈ bracketed '[' ']' literal, w <+: "[-2.5, \"],\"]x".toList →
      w = "[-2.5, \"],\"]".toList := by
  have place : after? "é[-2.5, \"],\"]x".toList 2 = some "[-2.5, \"],\"]x".toList := by
    decide +kernel
  have found : listRule.pattern.matchAt? "é[-2.5, \"],\"]x".toList 2 =
    some ⟨[], "[-2.5, \"],\"]".toList, []⟩ := by decide +kernel
  have listed : listRule ∈ Premade.list.rules := List.mem_singleton.2 rfl
  obtain ⟨-, unique, matches_iff⟩ := collections_match_grammar rfl listed (by decide +kernel) place
  obtain ⟨v, hv, begins, same⟩ := (matches_iff _).1 found
  obtain rfl : _ = v := congrArg Match.text same
  exact ⟨hv, fun w hw begins' => unique w hw _ hv begins' begins⟩

end Premade

end RuleLexer
