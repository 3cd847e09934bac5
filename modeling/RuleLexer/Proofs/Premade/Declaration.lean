import RuleLexer.Proofs.Premade.Value
import RuleLexer.Proofs.Scan.Line

/-!
# Declarations

A declaration is a keyword, a name, a sign and a value, with blanks in between. Its four rules form
a chain, each being tried right after the one that it depends on; the keyword depends on nothing, so
that it is tried everywhere, and before the name.

* `Declaration.identifiers` — what can be declared, told by a grammar; `Premade.mem_identifiers_iff`
  says that it is that of the rule for names;
* `Premade.matchOn?_keyword` — the keyword is matched exactly where it is all of a word;
* `Premade.scanLine_link` — a scan goes on from one rule of the chain to the next one;
* `Premade.declarations_tokenized` — a declaration is four tokens.
-/

namespace RuleLexer

open Regex (Expr Slots oneOf)
open Regex.Expr (spells_literal spells_set spells_cat spells_alt spells_star)
open Declaration (values)
open scoped Computability

namespace Declaration

/-- **Names**: a letter, or a low line and a letter, and behind it letters, digits and low lines. -/
def identifiers : Language Char :=
  (oneOf (·.isAlpha) + {['_']} * oneOf (·.isAlpha)) * (oneOf (Unicode.isAsciiWord ·))∗

/-- A space or a tab. -/
def IsBlank (c : Char) : Prop := c = ' ' ∨ c = '\t'

instance : DecidablePred IsBlank := fun c => inferInstanceAs (Decidable (c = ' ' ∨ c = '\t'))

/-! ### Characters of a word -/

variable {c : Char} {name tail : List Char}

theorem toNat_lt_of_isAsciiWord (h : Unicode.isAsciiWord c = true) : c.toNat < 0x80 := by
  simp only [Unicode.isAsciiWord, Char.isAlphanum, Char.isAlpha, Char.isUpper, Char.isLower,
    Char.isDigit, Bool.or_eq_true, Bool.and_eq_true, decide_eq_true_iff,
    UInt32.le_iff_toNat_le] at h
  rcases h with ((h | h) | h) | rfl
  · exact Nat.lt_of_le_of_lt h.2 (by decide)
  · exact Nat.lt_of_le_of_lt h.2 (by decide)
  · exact Nat.lt_of_le_of_lt h.2 (by decide)
  · decide

theorem isWord_of_isAsciiWord (h : Unicode.isAsciiWord c = true) : Unicode.isWord c = true := by
  rw [Unicode.isWord, if_pos (toNat_lt_of_isAsciiWord h), h]

theorem isAsciiWord_of_isAlpha (h : c.isAlpha = true) : Unicode.isAsciiWord c = true := by
  rw [Unicode.isAsciiWord, Char.isAlphanum, h, Bool.true_or, Bool.true_or]

theorem IsBlank.isWord (h : IsBlank c) : Unicode.isWord c = false := by
  rcases h with rfl | rfl <;> decide

/-- A name is not empty, and has characters of words only. -/
theorem word_of_mem_identifiers (h : name ∈ identifiers) :
    name ≠ [] ∧ ∀ c ∈ name, Unicode.isAsciiWord c = true := by
  obtain ⟨start, hstart, more, hmore, rfl⟩ := h
  have behind := Regex.mem_kstar_oneOf.1 hmore
  rcases hstart with ⟨c, letter, rfl⟩ | ⟨-, rfl, -, ⟨c, letter, rfl⟩, rfl⟩
  · refine ⟨List.cons_ne_nil _ _, fun d hd => ?_⟩
    rcases List.mem_cons.1 hd with rfl | hd
    · exact isAsciiWord_of_isAlpha letter
    · exact behind d hd
  · refine ⟨List.cons_ne_nil _ _, fun d hd => ?_⟩
    rcases List.mem_cons.1 hd with rfl | hd
    · rfl
    · rcases List.mem_cons.1 hd with rfl | hd
      · exact isAsciiWord_of_isAlpha letter
      · exact behind d hd

theorem not_isBlank_of_mem_identifiers (h : name ∈ identifiers) :
    ∀ c ∈ (name ++ tail).head?, ¬ IsBlank c := by
  obtain ⟨some, word⟩ := word_of_mem_identifiers h
  obtain ⟨d, ds, rfl⟩ := List.exists_cons_of_ne_nil some
  intro c hc blank
  obtain rfl : d = c := Option.some.inj hc
  have inside := isWord_of_isAsciiWord (word d List.mem_cons_self)
  rw [blank.isWord] at inside
  cases inside

/-- The longest run of some characters at the start of a text. -/
theorem takeWhile_append_of_head {p : Char → Bool} {run : List Char} (all : ∀ c ∈ run, p c = true)
    (ends : ∀ c ∈ tail.head?, p c = false) : (run ++ tail).takeWhile p = run := by
  rw [List.takeWhile_append_of_pos all]
  cases tail with
  | nil => exact List.append_nil run
  | cons c tail =>
    have stops : ¬ p c = true := by
      rw [ends c rfl]
      exact Bool.false_ne_true
    rw [List.takeWhile_cons_of_neg stops, List.append_nil]

/-! ### The expressions -/

/-- The letters of ASCII. -/
def letters : CharSet := (CharSet.range 0x41 0x5A).union (.range 0x61 0x7A)

/-- The characters of a name behind its first letter. -/
def wordChars : CharSet := (letters.union (.range 0x30 0x39)).union (.single '_')

/-- A name, as an expression. -/
def nameExpr : Expr :=
  .cat (.alt (.set letters) (.cat (.literal ['_']) (.set letters)))
    (.times (.set wordChars) 0 none true)

/-- The keyword up to the end of a word, as an expression. -/
def keywordExpr : Expr := .cat (.literal "var".toList) (.look (.boundary false))

/-- Spaces and tabs, as an expression. -/
def blankExpr : Expr := .times (.set (.ofList [' ', '\t'])) 1 none true

theorem contains_letter : letters.contains c = c.isAlpha := by
  rw [Bool.eq_iff_iff, ← CharSet.mem_iff, letters, CharSet.mem_union, CharSet.mem_range,
    CharSet.mem_range, Char.isAlpha, Char.isUpper, Char.isLower, Bool.or_eq_true, Bool.and_eq_true,
    decide_eq_true_iff, decide_eq_true_iff, decide_eq_true_iff]
  exact Iff.rfl

theorem contains_wordChar : wordChars.contains c = Unicode.isAsciiWord c := by
  rw [Bool.eq_iff_iff, ← CharSet.mem_iff, wordChars, CharSet.mem_union, CharSet.mem_union,
    CharSet.mem_iff, CharSet.mem_iff, CharSet.mem_single, contains_letter,
    Collection.contains_digit, Unicode.isAsciiWord, Char.isAlphanum, Bool.or_eq_true,
    Bool.or_eq_true, decide_eq_true_iff]

theorem contains_blank : (CharSet.ofList [' ', '\t']).contains c = true ↔ IsBlank c := by
  rw [← CharSet.mem_iff, CharSet.mem_ofList]
  simp [IsBlank]

theorem spells_name : nameExpr.Spells identifiers := by
  have letter : (Expr.set letters).Spells (oneOf (·.isAlpha)) :=
    spells_set fun c _ => by rw [CharSet.mem_iff, contains_letter]
  have more : (Expr.set wordChars).Spells (oneOf (Unicode.isAsciiWord ·)) :=
    spells_set fun c _ => by rw [CharSet.mem_iff, contains_wordChar]
  exact spells_cat (spells_alt letter (spells_cat (spells_literal ['_']) letter)) (spells_star more)

end Declaration

open Declaration (IsBlank identifiers nameExpr keywordExpr blankExpr letters wordChars)

namespace Premade

variable {name run tail text : List Char}

/-! ### What the rules in front of a value match -/

theorem reads_name : Reads identifierSource nameExpr.atStart := by
  unfold Reads
  decide +kernel

theorem reads_keyword : Reads "var\\b" keywordExpr.atStart := by
  unfold Reads
  decide +kernel

theorem reads_sign : Reads "=" (Expr.literal ['=']).atStart := by
  unfold Reads
  decide +kernel

theorem reads_blank : Reads whitespaceSource blankExpr.atStart := by
  unfold Reads
  decide +kernel

theorem sources_whitespace : whitespaceRule.pattern.sources = [whitespaceSource] := by
  rw [whitespaceRule]
  dsimp only
  exact sources_single _

theorem sources_keyword : declarationRule.pattern.sources = ["var\\b"] := by
  rw [declarationRule]
  dsimp only
  exact sources_single _

theorem sources_name : declaredNameRule.pattern.sources = [identifierSource] := by
  rw [declaredNameRule]
  dsimp only
  exact sources_single _

theorem sources_sign : declarationSignRule.pattern.sources = ["="] := by
  rw [declarationSignRule]
  dsimp only
  exact sources_single _

/-- **Blanks are matched as long as there are any.** -/
theorem matchOn?_blanks (some : run ≠ []) (all : ∀ c ∈ run, IsBlank c)
    (ends : ∀ c ∈ tail.head?, ¬ IsBlank c) :
    whitespaceRule.pattern.matchOn? (run ++ tail) = .some ⟨[], run, []⟩ := by
  obtain ⟨c, run, rfl⟩ := List.exists_cons_of_ne_nil some
  have chosen (slots : Slots) : blankExpr.Chooses (c :: run ++ tail) (fun _ => True) ⟨0, slots⟩
      ⟨(c :: run).length, slots⟩ := by
    have taken : blankExpr.Chooses (c :: run ++ tail) (fun _ => True) ⟨0, slots⟩
        ⟨0 + (c :: run).length, slots⟩ :=
      .run_plus (s := ⟨0, slots⟩) rfl (fun d hd => Declaration.contains_blank.2 (all d hd))
        fun d hd => Bool.eq_false_iff.2 (mt Declaration.contains_blank.1 (ends d hd))
    rwa [Nat.zero_add] at taken
  rw [Pattern.matchOn?_of_chooses_ungrouped sources_whitespace reads_blank rfl chosen,
    List.take_left]

theorem matchOn?_blanks_eq_none (ends : ∀ c ∈ text.head?, ¬ IsBlank c) :
    whitespaceRule.pattern.matchOn? text = none := by
  refine Pattern.matchOn?_eq_none_of_mark sources_whitespace reads_blank ?_
  rintro j ⟨n, pos, -, rounds⟩
  -- the first round would take the first character
  obtain ⟨n, rfl⟩ := Nat.exists_eq_add_of_le' pos
  obtain ⟨-, ⟨-, c, hc, blank⟩, -⟩ := rounds
  rw [← List.head?_eq_getElem?] at hc
  exact ends c hc (Declaration.contains_blank.1 blank)

/-- Behind the keyword, a word ends exactly where no character of a word follows. -/
theorem boundary_iff : (Regex.Look.boundary false).HoldsAt ("var".toList ++ tail) 3 ↔
    ∀ c ∈ tail.head?, Unicode.isWord c = false := by
  have before : Regex.isWordAt false (some 'r') = true := by decide
  have place : Regex.placeAt ("var".toList ++ tail) 3 = ⟨3, some 'r', tail.head?⟩ := by
    cases tail <;> rfl
  rw [Regex.Look.HoldsAt, place, Regex.Look.holds, before]
  cases tail with
  | nil => exact ⟨fun _ c hc => (Option.not_mem_none c hc).elim, fun _ => rfl⟩
  | cons c tail => simp [Regex.isWordAt]

theorem isWord_var : ∀ c ∈ "var".toList, Unicode.isWord c = true :=
  List.all_eq_true.1 (by decide +kernel)

/-- The keyword is all of a word exactly where it is followed by no character of a word. -/
theorem takeWhile_eq_var_iff : text.takeWhile Unicode.isWord = "var".toList ↔
    ∃ tail, text = "var".toList ++ tail ∧ ∀ c ∈ tail.head?, Unicode.isWord c = false := by
  constructor
  · intro word
    refine ⟨text.dropWhile Unicode.isWord, ?_, fun c hc => ?_⟩
    · rw [← word, List.takeWhile_append_dropWhile]
    · have stops := List.head?_dropWhile_not Unicode.isWord text
      rw [hc] at stops
      exact stops
  · rintro ⟨tail, rfl, ends⟩
    exact Declaration.takeWhile_append_of_head isWord_var ends

/-- **The keyword is matched exactly where it is all of a word.** -/
theorem matchOn?_keyword : declarationRule.pattern.matchOn? text =
    if text.takeWhile Unicode.isWord = "var".toList then some ⟨[], "var".toList, []⟩ else none := by
  split
  · next word =>
    obtain ⟨tail, rfl, ends⟩ := takeWhile_eq_var_iff.1 word
    have chosen (slots : Slots) :
        keywordExpr.Chooses ("var".toList ++ tail) (fun _ => True) ⟨0, slots⟩ ⟨3, slots⟩ :=
      .cat (.literal ⟨rfl, List.prefix_append _ tail⟩) (.look (boundary_iff.2 ends))
    exact Pattern.matchOn?_of_chooses_ungrouped sources_keyword reads_keyword rfl chosen
  · next other =>
    refine Pattern.matchOn?_eq_none_of_mark sources_keyword reads_keyword ?_
    rintro j ⟨k, ⟨rfl, tail, split⟩, -, holds⟩
    obtain rfl : _ = text := split
    exact other (takeWhile_eq_var_iff.2 ⟨tail, rfl, boundary_iff.1 holds⟩)

/-- A name is preferred up to the last character of the word. -/
theorem chooses_name {good : Nat → Prop} (named : name ∈ identifiers)
    (ends : ∀ c ∈ tail.head?, Unicode.isAsciiWord c = false) (slots : Slots) :
    nameExpr.Chooses (name ++ tail) good ⟨0, slots⟩ ⟨name.length, slots⟩ := by
  obtain ⟨first, hfirst, more, hmore, rfl⟩ := named
  have stops : ∀ c ∈ tail.head?, wordChars.contains c = false :=
    fun c hc => Declaration.contains_wordChar.trans (ends c hc)
  have inside : ∀ c ∈ more, wordChars.contains c = true :=
    fun c hc => Declaration.contains_wordChar.trans (Regex.mem_kstar_oneOf.1 hmore c hc)
  have begun : (Expr.alt (.set letters) (.cat (.literal ['_']) (.set letters))).Chooses
      (first ++ more ++ tail)
      ((Expr.times (.set wordChars) 0 none true).Joins (first ++ more ++ tail) good)
      ⟨0, slots⟩ ⟨first.length, slots⟩ := by
    rcases hfirst with ⟨c, letter, rfl⟩ | ⟨-, rfl, -, ⟨c, letter, rfl⟩, rfl⟩
    · exact .first (.set ⟨rfl, c, rfl, Declaration.contains_letter.trans letter⟩)
    · -- a low line is no letter
      refine .second ?_ (.cat (.literal ⟨rfl, List.prefix_append ['_'] _⟩)
        (.set ⟨rfl, c, rfl, Declaration.contains_letter.trans letter⟩))
      rintro ⟨j, ⟨-, d, hd, letter⟩, -⟩
      obtain rfl : '_' = d := Option.some.inj hd
      exact absurd letter (by decide)
  have behind : (first ++ more ++ tail).drop first.length = more ++ tail := by
    rw [List.append_assoc, List.drop_left]
  rw [List.length_append]
  exact .cat begun (.run (s := ⟨first.length, slots⟩) behind inside nofun fun _ => stops)

/-- **A name is matched up to the end of the word.** -/
theorem matchOn?_name {p : Pattern} (only : p.sources = [identifierSource])
    (named : name ∈ identifiers) (ends : ∀ c ∈ tail.head?, Unicode.isAsciiWord c = false) :
    p.matchOn? (name ++ tail) = some ⟨[], name, []⟩ := by
  rw [Pattern.matchOn?_of_chooses_ungrouped only reads_name rfl (chooses_name named ends),
    List.take_left]

/-- **Names are what the rule for names takes as a whole.** -/
theorem mem_identifiers_iff (plain : '\n' ∉ name) :
    name ∈ identifiers ↔ identifierRule.pattern.matchOn? name = some ⟨[], name, []⟩ := by
  have only : identifierRule.pattern.sources = [identifierSource] := by
    rw [identifierRule]
    dsimp only
    exact sources_single _
  constructor
  · intro named
    have found : identifierRule.pattern.matchOn? (name ++ []) = some ⟨[], name, []⟩ :=
      matchOn?_name only named nofun
    rwa [List.append_nil] at found
  · intro found
    obtain ⟨a, source, same⟩ := Pattern.exists_only only
    rw [same] at found
    exact ((Alternative.Takes.of_spells (source ▸ reads_name) Declaration.spells_name plain).sound _
      found).2.1

theorem matchOn?_sign :
    declarationSignRule.pattern.matchOn? ('=' :: tail) = some ⟨[], ['='], []⟩ := by
  refine Pattern.matchOn?_of_chooses_ungrouped (j := 1) sources_sign reads_sign rfl ?_
  exact fun slots => .literal ⟨rfl, List.prefix_append ['='] tail⟩

/-! ### The scan of a declaration -/

theorem fits_chain : Table.Fits [] (Premade.whitespace.rules ++ Premade.varDeclaration.rules) := by
  refine ⟨List.not_mem_nil, nofun, by decide, nofun, by decide, ?_, by decide, ?_, by decide, ?_,
    trivial⟩
  all_goals
    rintro d ⟨⟩
    decide

/-- What begins otherwise does not begin with the keyword. -/
theorem takeWhile_ne_var (h : ∀ c ∈ text.head?, c ≠ 'v') :
    text.takeWhile Unicode.isWord ≠ "var".toList := by
  intro word
  obtain ⟨tail, rfl, -⟩ := takeWhile_eq_var_iff.1 word
  exact h 'v' rfl rfl

/-- A value does not begin with a blank, nor like the keyword. -/
theorem head_of_mem_values {value : List Char} (h : value ∈ values) :
    value ≠ [] ∧ ∀ c ∈ value.head?, ¬ IsBlank c ∧ c ≠ 'v' := by
  have numeric {c : Char} (h : Declaration.IsNumeric c) : ¬ IsBlank c ∧ c ≠ 'v' := by
    refine ⟨?_, ?_⟩
    · rintro (rfl | rfl) <;> exact absurd h (by decide)
    · rintro rfl
      exact absurd h (by decide)
  obtain ⟨c, cs, rfl, hc⟩ : ∃ c cs, value = c :: cs ∧ ¬ IsBlank c ∧ c ≠ 'v' := by
    rcases h with (whole | decimal) | ends
    · obtain ⟨c, cs, rfl, hc⟩ := Declaration.begins_digits value whole
      exact ⟨c, cs, rfl, numeric hc⟩
    · obtain ⟨c, cs, rfl, hc⟩ := Declaration.begins_decimals value decimal
      exact ⟨c, cs, rfl, numeric hc⟩
    · obtain ⟨c, cs, rfl, hc⟩ := Declaration.begins_enclosed value ends
      refine ⟨c, cs, rfl, ?_, ?_⟩
      · rintro (rfl | rfl) <;> exact absurd hc (by decide)
      · rintro rfl
        exact absurd hc (by decide)
  refine ⟨List.cons_ne_nil c cs, fun d hd => ?_⟩
  obtain rfl := Option.some.inj hd
  exact hc

/-- What holds of a run, and of the first character behind it, holds of the first one of both. -/
theorem forall_head_append {kind : Char → Prop} (inside : ∀ c ∈ run, kind c)
    (behind : ∀ c ∈ tail.head?, kind c) : ∀ c ∈ (run ++ tail).head?, kind c := by
  cases run with
  | nil => exact behind
  | cons d run =>
    intro c hc
    obtain rfl := Option.some.inj hc
    exact inside d List.mem_cons_self

section Chain

variable {t : Table} {options : ScanOptions} {number column : Nat} {last : Option String}
  (chain : t.rules = Premade.whitespace.rules ++ Premade.varDeclaration.rules)

include chain

/-- Blanks are passed over, if there are any. -/
theorem scanLine_blanks (all : ∀ c ∈ run, IsBlank c) (ends : ∀ c ∈ tail.head?, ¬ IsBlank c) :
    t.scanLine options number ⟨column, run ++ tail, last⟩ =
      t.scanLine options number ⟨column + run.length, tail, last⟩ := by
  by_cases some : run = []
  · subst some
    rfl
  · have split : t.rules = [] ++ whitespaceRule :: Premade.varDeclaration.rules := chain
    have first : t.firstMatch? ⟨column, run ++ tail, last⟩ =
        .some (whitespaceRule, ⟨[], run, []⟩) :=
      Table.firstMatch?_eq_of_split split rfl (matchOn?_blanks some all ends)
        fun q hq => absurd hq List.not_mem_nil
    exact Table.scanLine_of_skips options number first some rfl

/-- The keyword is a token where it is all of a word. -/
theorem scanLine_keyword (ends : ∀ c ∈ tail.head?, Unicode.isWord c = false) :
    t.scanLine options number ⟨column, "var".toList ++ tail, last⟩ =
      (t.scanLine options number ⟨column + 3, tail, some "VAR_DECLARATION"⟩).map
        (⟨"VAR_DECLARATION", "var", number⟩ :: ·) := by
  have split : t.rules = [whitespaceRule] ++ declarationRule ::
    [declaredNameRule, declarationSignRule, declaredValueRule] := chain
  have word := takeWhile_eq_var_iff.2 ⟨tail, rfl, ends⟩
  have first : t.firstMatch? ⟨column, "var".toList ++ tail, last⟩ =
      some (declarationRule, ⟨[], "var".toList, []⟩) := by
    refine Table.firstMatch?_eq_of_split split rfl (matchOn?_keyword.trans (if_pos word)) ?_
    intro q hq _
    obtain rfl := List.mem_singleton.1 hq
    refine matchOn?_blanks_eq_none fun c hc blank => ?_
    obtain rfl : 'v' = c := Option.some.inj hc
    exact absurd blank.isWord (by decide)
  exact Table.scanLine_of_yields options number first (by decide) rfl rfl rfl

omit chain in
/-- **The rules of the chain take turns**: a rule takes what it matches if no blank and no keyword
is there, and the rules in front of it in the chain wait for other ones. -/
theorem scanLine_link {r : Rule} {between after : List Rule} {w : List Char}
    {captures : List (Option (List Char))}
    (split : t.rules = whitespaceRule :: declarationRule :: (between ++ r :: after))
    (waiting : ∀ q ∈ between, q.eligible last = false) (eligible : r.eligible last = true)
    (policy : r.skips = false ∧ r.onMatch = none ∧ r.capture = none)
    (shown : ∀ c ∈ (w ++ tail).head?, ¬ IsBlank c)
    (other : (w ++ tail).takeWhile Unicode.isWord ≠ "var".toList) (some : w ≠ [])
    (found : r.pattern.matchOn? (w ++ tail) = .some ⟨[], w, captures⟩) :
    t.scanLine options number ⟨column, w ++ tail, last⟩ =
      (t.scanLine options number ⟨column + w.length, tail, .some r.name⟩).map
        (⟨r.name, String.ofList w, number⟩ :: ·) := by
  have split' : t.rules = (whitespaceRule :: declarationRule :: between) ++ r :: after := split
  have first : t.firstMatch? ⟨column, w ++ tail, last⟩ = .some (r, ⟨[], w, captures⟩) := by
    refine Table.firstMatch?_eq_of_split split' eligible found fun q hq held => ?_
    rcases List.mem_cons.1 hq with rfl | hq
    · exact matchOn?_blanks_eq_none shown
    · rcases List.mem_cons.1 hq with rfl | hq
      · rw [matchOn?_keyword, if_neg other]
      · rw [waiting q hq] at held
        cases held
  obtain ⟨kept, uncalled, whole⟩ := policy
  exact Table.scanLine_of_yields options number first some kept uncalled (by rw [whole]; rfl)

/-- Behind the keyword, a name is a token up to the end of the word. -/
theorem scanLine_name (named : name ∈ identifiers) (other : name ≠ "var".toList)
    (ends : ∀ c ∈ tail.head?, Unicode.isWord c = false) :
    t.scanLine options number ⟨column, name ++ tail, some "VAR_DECLARATION"⟩ =
      (t.scanLine options number ⟨column + name.length, tail, some "VAR_NAME"⟩).map
        (⟨"VAR_NAME", String.ofList name, number⟩ :: ·) := by
  obtain ⟨some, ascii⟩ := Declaration.word_of_mem_identifiers named
  have word : ∀ c ∈ name, Unicode.isWord c = true :=
    fun c hc => Declaration.isWord_of_isAsciiWord (ascii c hc)
  have longest : (name ++ tail).takeWhile Unicode.isWord = name :=
    Declaration.takeWhile_append_of_head word ends
  have ends' : ∀ c ∈ tail.head?, Unicode.isAsciiWord c = false := fun c hc =>
    Bool.eq_false_iff.2 (mt Declaration.isWord_of_isAsciiWord (Bool.eq_false_iff.1 (ends c hc)))
  have waiting : ∀ q ∈ ([] : List Rule), q.eligible (.some "VAR_DECLARATION") = false := nofun
  exact scanLine_link chain waiting rfl ⟨rfl, rfl, rfl⟩
    (Declaration.not_isBlank_of_mem_identifiers named) (by rwa [longest]) some
    (matchOn?_name sources_name named ends')

/-- Behind a name, the sign is a token. -/
theorem scanLine_sign : t.scanLine options number ⟨column, ['='] ++ tail, some "VAR_NAME"⟩ =
    (t.scanLine options number ⟨column + 1, tail, some "EQ_OPERATOR"⟩).map
      (⟨"EQ_OPERATOR", "=", number⟩ :: ·) := by
  have head : ∀ c ∈ (['='] ++ tail).head?, ¬ IsBlank c ∧ c ≠ 'v' := by
    intro c hc
    obtain rfl : '=' = c := Option.some.inj hc
    decide
  have waiting : ∀ q ∈ [declaredNameRule], q.eligible (some "VAR_NAME") = false := by
    intro q hq
    obtain rfl := List.mem_singleton.1 hq
    decide
  exact scanLine_link chain waiting rfl ⟨rfl, rfl, rfl⟩ (fun c hc => (head c hc).1)
    (takeWhile_ne_var fun c hc => (head c hc).2) (List.cons_ne_nil _ _) matchOn?_sign

/-- Behind the sign, a value is the last token if it goes up to the end of the line. -/
theorem scanLine_value {value : List Char} (valued : value ∈ values) (plain : '\n' ∉ value) :
    t.scanLine options number ⟨column, value, some "EQ_OPERATOR"⟩ =
      .ok [⟨"EXPRESSION", String.ofList value, number⟩] := by
  obtain ⟨some, head⟩ := head_of_mem_values valued
  obtain ⟨captures, found⟩ := matchOn?_value valued plain
  have waiting : ∀ q ∈ [declaredNameRule, declarationSignRule],
      q.eligible (.some "EQ_OPERATOR") = false := by
    intro q hq
    rcases List.mem_pair.1 hq with rfl | rfl <;> decide
  have head' : ∀ c ∈ (value ++ []).head?, ¬ IsBlank c ∧ c ≠ 'v' := by rwa [List.append_nil]
  have found' : declaredValueRule.pattern.matchOn? (value ++ []) = .some ⟨[], value, captures⟩ := by
    rwa [List.append_nil]
  have last : t.scanLine options number ⟨column, value ++ [], .some "EQ_OPERATOR"⟩ =
      (t.scanLine options number ⟨column + value.length, [], .some "EXPRESSION"⟩).map
        (⟨"EXPRESSION", String.ofList value, number⟩ :: ·) :=
    scanLine_link chain waiting rfl ⟨rfl, rfl, rfl⟩ (fun c hc => (head' c hc).1)
      (takeWhile_ne_var fun c hc => (head' c hc).2) some found'
  have ends : t.scanLine options number ⟨column + value.length, [], .some "EXPRESSION"⟩ = .ok [] :=
    Table.scanLine_of_end rfl
  rw [List.append_nil] at last
  exact last.trans (congrArg _ ends)

end Chain

/-- **A declaration is four tokens**, all of its line: the keyword, a name other than it, the sign
and the value, whatever blanks stand between them. -/
theorem declarations_tokenized {name before between behind value : List Char}
    (named : name ∈ identifiers) (other : name ≠ "var".toList) (some : before ≠ [])
    (blank : ∀ c ∈ before ++ between ++ behind, IsBlank c) (valued : value ∈ values)
    (plain : '\n' ∉ value) :
    ∃ t, Table.empty.extend? (Premade.whitespace.rules ++ Premade.varDeclaration.rules) = .ok t ∧
      ∀ options : ScanOptions, t.scan options (String.ofList
          ("var".toList ++ before ++ name ++ between ++ ['='] ++ behind ++ value)) =
        .ok [⟨"VAR_DECLARATION", "var", 0⟩, ⟨"VAR_NAME", String.ofList name, 0⟩,
          ⟨"EQ_OPERATOR", "=", 0⟩, ⟨"EXPRESSION", String.ofList value, 0⟩] := by
  obtain ⟨t, added⟩ := Table.Indexed.empty.exists_extend?_iff.2 fits_chain
  have chain : t.rules = Premade.whitespace.rules ++ Premade.varDeclaration.rules :=
    Table.rules_of_extend (Table.extend?_eq_ok_iff.1 added)
  refine ⟨t, added, fun options => ?_⟩
  have blankBefore : ∀ c ∈ before, IsBlank c := fun c hc => blank c (by simp [hc])
  have blankBetween : ∀ c ∈ between, IsBlank c := fun c hc => blank c (by simp [hc])
  have blankBehind : ∀ c ∈ behind, IsBlank c := fun c hc => blank c (by simp [hc])
  have word := (Declaration.word_of_mem_identifiers named).2
  have head := (head_of_mem_values valued).2
  have line : (String.ofList
      ("var".toList ++ before ++ name ++ between ++ ['='] ++ behind ++ value)).toList =
      "var".toList ++ (before ++ (name ++ (between ++ (['='] ++ (behind ++ value))))) := by
    simp only [String.toList_ofList, List.append_assoc]
  have plain' :
      '\n' ∉ "var".toList ++ (before ++ (name ++ (between ++ (['='] ++ (behind ++ value))))) := by
    have noFeed {run : List Char} (all : ∀ c ∈ run, IsBlank c) : '\n' ∉ run :=
      fun feed => absurd (all _ feed) (by decide)
    simp only [List.mem_append, not_or]
    exact ⟨by decide, noFeed blankBefore, fun feed => absurd (word _ feed) (by decide),
      noFeed blankBetween, by decide, noFeed blankBehind, plain⟩
  have signEnds : ∀ c ∈ (['='] ++ (behind ++ value)).head?,
      Unicode.isWord c = false ∧ ¬ IsBlank c := by
    intro c hc
    obtain rfl : '=' = c := Option.some.inj hc
    decide
  have keywordEnds : ∀ c ∈ (before ++ (name ++ (between ++ (['='] ++ (behind ++ value))))).head?,
      Unicode.isWord c = false := by
    obtain ⟨b, before, rfl⟩ := List.exists_cons_of_ne_nil some
    intro c hc
    obtain rfl : b = c := Option.some.inj hc
    exact (blankBefore b List.mem_cons_self).isWord
  have nameEnds : ∀ c ∈ (between ++ (['='] ++ (behind ++ value))).head?, Unicode.isWord c = false :=
    forall_head_append (fun c hc => (blankBetween c hc).isWord) fun c hc => (signEnds c hc).1
  rw [Table.scan_of_plain (line ▸ plain') (by rw [line]; exact List.cons_ne_nil _ _), line]
  show t.scanLine options 0 ⟨0, _, none⟩ = _
  -- part by part, the blanks between them being passed over
  rw [scanLine_keyword chain keywordEnds,
    scanLine_blanks chain blankBefore (Declaration.not_isBlank_of_mem_identifiers named),
    scanLine_name chain named other nameEnds,
    scanLine_blanks chain blankBetween fun c hc => (signEnds c hc).2, scanLine_sign chain,
    scanLine_blanks chain blankBehind fun c hc => (head c hc).1, scanLine_value chain valued plain]
  rfl

/-- The name begins with the keyword, and the value is a string with a quote behind a backslash;
there is a tab in front of the name, and no blank in front of the sign. -/
theorem declarations_tokenized_string :
    ∃ t, Table.empty.extend? (Premade.whitespace.rules ++ Premade.varDeclaration.rules) = .ok t ∧
      ∀ options : ScanOptions, t.scan options "var\tvar_1= '\\''" =
        .ok [⟨"VAR_DECLARATION", "var", 0⟩, ⟨"VAR_NAME", "var_1", 0⟩, ⟨"EQ_OPERATOR", "=", 0⟩,
          ⟨"EXPRESSION", "'\\''", 0⟩] := by
  have named : ['v', 'a', 'r', '_', '1'] ∈ identifiers :=
    Language.append_mem_mul (a := ['v']) (Or.inl ⟨'v', by decide, rfl⟩)
      (Regex.mem_kstar_oneOf.2 (List.all_eq_true.1 (by decide +kernel)))
  have blank : ∀ c ∈ ['\t'] ++ [] ++ [' '], IsBlank c := by simp [IsBlank]
  -- between the quotes stands a quote behind a backslash
  have units : ['\\', '\x27'] ∈ (Collection.quotable '\x27')∗ := by
    refine Language.mem_kstar.2 ⟨[['\\', '\x27']], rfl, fun w hw => ?_⟩
    obtain rfl := List.mem_singleton.1 hw
    exact Or.inl (Language.append_mem_mul (a := ['\\']) rfl ⟨'\x27', trivial, rfl⟩)
  have quotes : Quotation ['\x27', '\\', '\x27', '\x27'] '\x27' ['\\', '\x27'] [] :=
    ⟨Or.inr rfl, units, rfl⟩
  have valued : ['\x27', '\\', '\x27', '\x27'] ∈ values :=
    Or.inr (Or.inl (Or.inl (Or.inl (Or.inl (Or.inl (Or.inr quotes.mem_quotedBy))))))
  obtain ⟨t, added, tokens⟩ := declarations_tokenized named (by decide) (by decide) blank valued
    (by decide)
  exact ⟨t, added, tokens⟩

end Premade

end RuleLexer
