import RuleLexer.Proofs.Premade.Quoted

/-!
# The value of a declaration

The rule for the value of a declaration has nine expressions, the first of which that matches wins.
So an expression in front of the right one must not take a part of a value only. Three things keep
them from it: an expression of arithmetic goes up to the end of the line; a number begins like no
other value; and no value that ends by itself, such as a list, is the beginning of another one.

* `Declaration.values` — what can be declared, told by a grammar that does not mention expressions;
* `Alternative.Takes` — an expression takes the words of a language;
* `Alternative.TakesAll` — an expression takes nothing but the whole of a text;
* `Premade.matchOn?_value` — a value is taken as a whole.
-/

namespace RuleLexer

open Regex (Expr Slots PrefixFree Begins oneOf)
open Regex.Expr (spells_literal spells_set spells_cat spells_alt spells_star spells_plus)
open Collection (digits digitsExpr quotedBy quoted bracketed literal entry)
open scoped Computability

namespace Declaration

/-- Decimal numbers without a sign; digits before the point or the comma may be missing. -/
def decimals : Language Char :=
  (oneOf (·.isDigit))∗ * (oneOf (fun c => c = '.' ∨ c = ',') * digits)

/-- The values whose last character shows that they are at their end: strings, collections and truth
values. -/
def enclosed : Language Char :=
  quoted + bracketed '[' ']' literal + bracketed '(' ')' literal + bracketed '\x7b' '\x7d' entry +
    {"True".toList} + {"False".toList}

/-- **What can be declared**: a run of digits, a decimal number, or a value that ends by itself. -/
def values : Language Char := digits + decimals + enclosed

end Declaration

open Declaration (decimals enclosed values)

/-! ### What an expression takes -/

namespace Alternative

variable {a : Alternative} {body : Expr} {words : Language Char} {text : List Char}

/-- **An expression takes the words of a language** from the start of a text: what it matches is one
of them, and it matches something if the text begins with one. -/
structure Takes (a : Alternative) (words : Language Char) (text : List Char) : Prop where
  /-- A match is a word that the text begins with. -/
  sound : ∀ m, a.regex.matchOn? text = some m → m.skipped = [] ∧ m.text ∈ words ∧ m.text <+: text
  /-- There is a match if there is a word. -/
  complete : ∀ w ∈ words, w <+: text → ∃ m, a.regex.matchOn? text = some m

/-- **Whatever an expression matches** at the start of a text is all of it. -/
def TakesAll (a : Alternative) (text : List Char) : Prop :=
  ∀ m, a.regex.matchOn? text = some m → m.skipped = [] ∧ m.text = text

theorem Takes.of_spells (reads : Reads a.source body.atStart) (spells : body.Spells words)
    (plain : '\n' ∉ text) : a.Takes words text := by
  constructor
  · intro m found
    obtain ⟨j, matched, skipped, taken⟩ := matches_of_matchOn? reads found
    obtain ⟨w, hw, begins, rfl⟩ := (spells text plain 0 j).1 matched
    have word : m.text = w := by
      rw [taken, Nat.zero_add]
      exact (List.prefix_iff_eq_take.1 begins).symm
    exact ⟨skipped, word ▸ hw, word ▸ begins⟩
  · intro w hw begins
    refine Option.ne_none_iff_exists'.1 fun none => ?_
    exact (matchOn?_eq_none_iff_of_mark reads).1 none _
      ((spells text plain 0 _).2 ⟨w, hw, begins, rfl⟩)

theorem Takes.takesAll (h : a.Takes words text) (only : ∀ w ∈ words, w <+: text → w = text) :
    a.TakesAll text := by
  intro m found
  obtain ⟨skipped, word, begins⟩ := h.sound m found
  exact ⟨skipped, only m.text word begins⟩

end Alternative

/-- **A pattern takes all of a text** if one of its expressions matches there, and neither this one
nor one in front of it takes less. -/
theorem Pattern.matchOn?_of_takesAll {p : Pattern} {source : String} {before after : List String}
    {text : List Char} (split : p.sources = before ++ source :: after)
    (whole : ∀ a : Alternative, a.source ∈ before ++ [source] → a.TakesAll text)
    (found : ∀ a : Alternative, a.source = source → ∃ m, a.regex.matchOn? text = some m) :
    ∃ captures, p.matchOn? text = some ⟨[], text, captures⟩ := by
  obtain ⟨as, bs, hsplit, rfl, hbs⟩ := List.map_eq_append_iff.1 split
  obtain ⟨a, cs, rfl, rfl, -⟩ := List.map_eq_cons_iff.1 hbs
  -- the pattern matches what an expression up to this one matches
  obtain ⟨b, hb, m, first, picked⟩ : ∃ b ∈ as ++ [a], ∃ m, b.regex.matchOn? text = some m ∧
      p.matchOn? text = some m := by
    rw [matchOn?, hsplit, List.findSome?_append]
    cases earlier : as.findSome? (·.regex.matchOn? text) with
    | some m =>
      obtain ⟨b, hb, first⟩ := List.exists_of_findSome?_eq_some earlier
      exact ⟨b, List.mem_append_left _ hb, m, first, rfl⟩
    | none =>
      obtain ⟨m, first⟩ := found a rfl
      refine ⟨a, List.mem_append_right _ (List.mem_singleton_self a), m, first, ?_⟩
      rw [Option.none_or, List.findSome?_cons, first]
  have listed : b.source ∈ (as ++ [a]).map (·.source) := List.mem_map_of_mem hb
  rw [List.map_append] at listed
  obtain ⟨skipped, taken, captures⟩ := m
  obtain ⟨rfl, rfl⟩ : skipped = [] ∧ taken = text := whole b listed _ first
  exact ⟨captures, picked⟩

namespace Declaration

variable {w : List Char} {c : Char}

/-! ### Numbers -/

/-- A decimal number, as an expression. -/
def decimalExpr : Expr :=
  .cat (.times (.set (.range 0x30 0x39)) 0 none true) (.cat (.set (.ofList ['.', ','])) digitsExpr)

/-- The characters of arithmetic: decimal digits, spaces, parentheses and operators. -/
def arithmeticChars : CharSet := Unicode.digits.union (.ofList " ()+-*/".toList)

/-- Arithmetic up to the end of the line, as an expression. -/
def arithmeticExpr : Expr := .cat (.times (.set arithmeticChars) 1 none true) (.look .textEnd)

theorem contains_point : (CharSet.ofList ['.', ',']).contains c = true ↔ c = '.' ∨ c = ',' := by
  rw [← CharSet.mem_iff, CharSet.mem_ofList]
  simp

theorem not_isDigit_of_point (point : c = '.' ∨ c = ',') : c.isDigit = false := by
  rcases point with rfl | rfl <;> rfl

theorem spells_decimal : decimalExpr.Spells decimals := by
  have point : (Expr.set (.ofList ['.', ','])).Spells (oneOf fun c => c = '.' ∨ c = ',') :=
    spells_set fun c _ => CharSet.mem_iff.trans contains_point
  exact spells_cat (spells_star Collection.spells_digit)
    (spells_cat point Collection.spells_digits)

/-- A decimal number is cut at its point. -/
theorem mem_decimals_iff : w ∈ decimals ↔ ∃ whole point part, (∀ c ∈ whole, c.isDigit = true) ∧
    (point = '.' ∨ point = ',') ∧ part ≠ [] ∧ (∀ c ∈ part, c.isDigit = true) ∧
      w = whole ++ point :: part := by
  constructor
  · rintro ⟨whole, hwhole, -, ⟨-, ⟨point, hpoint, rfl⟩, part, hpart, rfl⟩, rfl⟩
    obtain ⟨some, all⟩ := Regex.mem_oneOf_mul_kstar.1 hpart
    exact ⟨whole, point, part, Regex.mem_kstar_oneOf.1 hwhole, hpoint, some, all, rfl⟩
  · rintro ⟨whole, point, part, hwhole, hpoint, some, all, rfl⟩
    refine Language.append_mem_mul (Regex.mem_kstar_oneOf.2 hwhole) ?_
    exact Language.append_mem_mul (a := [point]) ⟨point, hpoint, rfl⟩
      (Regex.mem_oneOf_mul_kstar.2 ⟨some, all⟩)

/-- A character that a number can begin with. -/
def IsNumeric (c : Char) : Prop := c.isDigit = true ∨ c = '.' ∨ c = ','

instance : DecidablePred IsNumeric := fun c =>
  inferInstanceAs (Decidable (c.isDigit = true ∨ c = '.' ∨ c = ','))

theorem begins_digits : Begins digits IsNumeric := by
  intro w hw
  obtain ⟨some, all⟩ := Regex.mem_oneOf_mul_kstar.1 hw
  obtain ⟨c, cs, rfl⟩ := List.exists_cons_of_ne_nil some
  exact ⟨c, cs, rfl, Or.inl (all c List.mem_cons_self)⟩

theorem begins_decimals : Begins decimals IsNumeric := by
  intro w hw
  obtain ⟨whole, point, part, hwhole, hpoint, -, -, rfl⟩ := mem_decimals_iff.1 hw
  cases whole with
  | nil => exact ⟨point, part, rfl, Or.inr hpoint⟩
  | cons c cs => exact ⟨c, _, rfl, Or.inl (hwhole c List.mem_cons_self)⟩

/-! ### Values that end by themselves -/

theorem begins_bracketed (opening closing : Char) (item : Language Char) :
    Begins (bracketed opening closing item) (· = opening) :=
  Regex.begins_singleton.mul.mul.mul.mul

theorem begins_true : Begins {"True".toList} (· = 'T') := Regex.begins_singleton

theorem begins_false : Begins {"False".toList} (· = 'F') := Regex.begins_singleton

theorem begins_enclosed :
    Begins enclosed (· ∈ ['"', '\x27', '[', '(', '\x7b', 'T', 'F']) := by
  have all : Begins enclosed _ := ((((Collection.begins_quoted.add (begins_bracketed _ _ _)).add
    (begins_bracketed _ _ _)).add (begins_bracketed _ _ _)).add begins_true).add begins_false
  intro w hw
  obtain ⟨c, cs, rfl, hc⟩ := all w hw
  exact ⟨c, cs, rfl, by simpa [or_assoc] using hc⟩

/-- **No value that ends by itself is the beginning of another one.** -/
theorem prefixFree_enclosed : PrefixFree enclosed := by
  have lists : PrefixFree (bracketed '[' ']' literal) :=
    Collection.prefixFree_bracketed (by decide) Collection.literal_le_pieces
  have tuples : PrefixFree (bracketed '(' ')' literal) :=
    Collection.prefixFree_bracketed (by decide) Collection.literal_le_pieces
  have dicts : PrefixFree (bracketed '\x7b' '\x7d' entry) :=
    Collection.prefixFree_bracketed (by decide) Collection.entry_le_pieces
  have quotedBegins := Collection.begins_quoted
  have listsBegin := begins_bracketed '[' ']' literal
  have tuplesBegin := begins_bracketed '(' ')' literal
  have dictsBegin := begins_bracketed '\x7b' '\x7d' entry
  have upToLists := quotedBegins.add listsBegin
  have upToTuples := upToLists.add tuplesBegin
  have upToDicts := upToTuples.add dictsBegin
  -- kind by kind; the first character of each is new
  have withLists :=
    Collection.prefixFree_quoted.add_of_first lists quotedBegins listsBegin (by decide)
  have withTuples := withLists.add_of_first tuples upToLists tuplesBegin (by decide)
  have withDicts := withTuples.add_of_first dicts upToTuples dictsBegin (by decide)
  have withTrue := withDicts.add_of_first (.of_singleton _) upToDicts begins_true (by decide)
  exact withTrue.add_of_first (.of_singleton _) (upToDicts.add begins_true) begins_false (by decide)

end Declaration

open Declaration (IsNumeric arithmeticChars arithmeticExpr decimalExpr)

namespace Premade

variable {a : Alternative} {text : List Char}

/-! ### The expressions for a value -/

/-- The expressions for a value behind that of arithmetic, each with the language that it takes. -/
def valueLanguages : List (String × Language Char) :=
  [(stringSources.get ⟨0, by decide⟩, quotedBy '"'),
    (stringSources.get ⟨1, by decide⟩, quotedBy '\x27'), (floatSource, decimals),
    (intSource, digits), (listSource, bracketed '[' ']' literal),
    (tupleSource, bracketed '(' ')' literal), (dictSource, bracketed '\x7b' '\x7d' entry),
    (boolSource, {"True".toList} + {"False".toList})]

theorem expressionSources_eq :
    expressionSources = arithmeticSource :: valueLanguages.map (·.1) := rfl

theorem reads_arithmetic : Reads arithmeticSource arithmeticExpr.atStart := by
  unfold Reads
  decide +kernel

theorem reads_decimal : Reads floatSource decimalExpr.atStart := by
  unfold Reads
  decide +kernel

theorem reads_digits : Reads intSource digitsExpr.atStart := by
  unfold Reads
  decide +kernel

theorem reads_truth :
    Reads boolSource (Expr.alt (.literal "True".toList) (.literal "False".toList)).atStart := by
  unfold Reads
  decide +kernel

theorem spells_quotedGroup_quotedBy (quote : Char) :
    (quotedGroupExpr quote).Spells (quotedBy quote) := by
  rw [quotedBy, mul_assoc]
  exact spells_quotedGroup quote

/-- **Each expression takes its language.** -/
theorem takes_valueLanguage {words : Language Char} (h : (a.source, words) ∈ valueLanguages)
    (plain : '\n' ∉ text) : a.Takes words text := by
  simp only [valueLanguages, List.mem_cons, List.not_mem_nil, or_false, Prod.mk.injEq] at h
  rcases h with ⟨source, rfl⟩ | ⟨source, rfl⟩ | ⟨source, rfl⟩ | ⟨source, rfl⟩ | ⟨source, rfl⟩ |
    ⟨source, rfl⟩ | ⟨source, rfl⟩ | ⟨source, rfl⟩
  · exact .of_spells (source ▸ reads_double) (spells_quotedGroup_quotedBy _) plain
  · exact .of_spells (source ▸ reads_single) (spells_quotedGroup_quotedBy _) plain
  · exact .of_spells (source ▸ reads_decimal) Declaration.spells_decimal plain
  · exact .of_spells (source ▸ reads_digits) Collection.spells_digits plain
  · have spells := Collection.spells_bracketed '[' ']' Collection.spells_literals
    exact .of_spells (source ▸ reads_list) spells plain
  · have spells := Collection.spells_bracketed '(' ')' Collection.spells_literals
    exact .of_spells (source ▸ reads_tuple) spells plain
  · have spells := Collection.spells_bracketed '\x7b' '\x7d' Collection.spells_entry
    exact .of_spells (source ▸ reads_dict) spells plain
  · exact .of_spells (source ▸ reads_truth) (spells_alt (spells_literal _) (spells_literal _)) plain

/-- The values of an expression are numbers, or end by themselves. -/
theorem begins_or_le_of_valueLanguage {source : String} {words : Language Char}
    (h : (source, words) ∈ valueLanguages) : Begins words IsNumeric ∨ words ≤ enclosed := by
  simp only [valueLanguages, List.mem_cons, List.not_mem_nil, or_false, Prod.mk.injEq] at h
  rcases h with ⟨-, rfl⟩ | ⟨-, rfl⟩ | ⟨-, rfl⟩ | ⟨-, rfl⟩ | ⟨-, rfl⟩ | ⟨-, rfl⟩ | ⟨-, rfl⟩ |
    ⟨-, rfl⟩
  · exact Or.inr fun w hw => Or.inl (Or.inl (Or.inl (Or.inl (Or.inl (Or.inl hw)))))
  · exact Or.inr fun w hw => Or.inl (Or.inl (Or.inl (Or.inl (Or.inl (Or.inr hw)))))
  · exact Or.inl Declaration.begins_decimals
  · exact Or.inl Declaration.begins_digits
  · exact Or.inr fun w hw => Or.inl (Or.inl (Or.inl (Or.inl (Or.inr hw))))
  · exact Or.inr fun w hw => Or.inl (Or.inl (Or.inl (Or.inr hw)))
  · exact Or.inr fun w hw => Or.inl (Or.inl (Or.inr hw))
  · exact Or.inr fun w hw => hw.elim (fun hw => Or.inl (Or.inr hw)) Or.inr

/-- There is an expression for every value that ends by itself. -/
theorem exists_valueLanguage (h : text ∈ enclosed) :
    ∃ source words, (source, words) ∈ valueLanguages ∧ text ∈ words := by
  obtain (((((double | single) | list) | tuple) | dict) | true) | false := h
  · exact ⟨_, _, List.mem_of_getElem? (i := 0) rfl, double⟩
  · exact ⟨_, _, List.mem_of_getElem? (i := 1) rfl, single⟩
  · exact ⟨_, _, List.mem_of_getElem? (i := 4) rfl, list⟩
  · exact ⟨_, _, List.mem_of_getElem? (i := 5) rfl, tuple⟩
  · exact ⟨_, _, List.mem_of_getElem? (i := 6) rfl, dict⟩
  · exact ⟨_, _, List.mem_of_getElem? (i := 7) rfl, Or.inl true⟩
  · exact ⟨_, _, List.mem_of_getElem? (i := 7) rfl, Or.inr false⟩

/-! ### Which expressions take all of a value -/

/-- **Arithmetic goes up to the end of the line.** -/
theorem takesAll_arithmetic (source : a.source = arithmeticSource) : a.TakesAll text := by
  intro m found
  have reads : Reads a.source arithmeticExpr.atStart := source ▸ reads_arithmetic
  obtain ⟨j, ⟨k, -, rfl, ends⟩, skipped, taken⟩ := Alternative.matches_of_matchOn? reads found
  have past : text[k]? = none := Option.isNone_iff_eq_none.1 ends
  rw [List.take_of_length_le (List.getElem?_eq_none_iff.1 past)] at taken
  exact ⟨skipped, taken⟩

/-- No other value begins like a number. -/
theorem not_isNumeric {c : Char} (h : c ∈ ['"', '\x27', '[', '(', '\x7b', 'T', 'F']) :
    ¬ IsNumeric c := by
  simp only [List.mem_cons, List.not_mem_nil, or_false] at h
  rcases h with rfl | rfl | rfl | rfl | rfl | rfl | rfl <;> decide

/-- Of a value that ends by itself, no expression takes a part only. -/
theorem takesAll_of_enclosed (h : text ∈ enclosed) (plain : '\n' ∉ text)
    (listed : a.source ∈ expressionSources) : a.TakesAll text := by
  rw [expressionSources_eq] at listed
  rcases List.mem_cons.1 listed with arithmetic | listed
  · exact takesAll_arithmetic arithmetic
  · obtain ⟨⟨source, words⟩, hwords, rfl : source = a.source⟩ := List.mem_map.1 listed
    refine (takes_valueLanguage hwords plain).takesAll fun w hw begins => ?_
    rcases begins_or_le_of_valueLanguage hwords with numeric | le
    · -- a number begins otherwise
      exact absurd (Or.inl begins)
        (numeric.not_isPrefix Declaration.begins_enclosed (fun c hc h => not_isNumeric h hc) hw h)
    · exact Declaration.prefixFree_enclosed w (le hw) text h begins

/-- At a number, the expressions for strings match nothing. -/
theorem takesAll_string_of_decimals (h : text ∈ decimals) (plain : '\n' ∉ text)
    (listed : a.source ∈ stringSources) : a.TakesAll text := by
  obtain ⟨quote, either, reads⟩ := exists_quote listed
  have takes : a.Takes (quotedBy quote) text :=
    .of_spells reads (spells_quotedGroup_quotedBy quote) plain
  have apart : ∀ c, c = quote → ¬ IsNumeric c := by
    rintro c rfl
    rcases either with rfl | rfl <;> decide
  exact takes.takesAll fun w hw begins => absurd (Or.inl begins)
    ((Collection.begins_quotedBy quote).not_isPrefix Declaration.begins_decimals apart hw h)

theorem mem_digits_of_isDigit {c : Char} (digit : c.isDigit = true) : c ∈ Unicode.digits := by
  have inside : c ∈ CharSet.range 0x30 0x39 := Collection.contains_digit.trans digit
  obtain ⟨le, le'⟩ := CharSet.mem_range.1 inside
  show holds false (0x30 :: 0x3A :: _) c.toNat = true
  rw [holds, if_neg (by omega), holds, if_pos (by omega)]
  rfl

/-- Digits are arithmetic. -/
theorem matchOn?_arithmetic_of_digits (source : a.source = arithmeticSource) (h : text ∈ digits) :
    a.regex.matchOn? text = some ⟨[], text, []⟩ := by
  have reads : Reads a.source arithmeticExpr.atStart := source ▸ reads_arithmetic
  obtain ⟨some, all⟩ := Regex.mem_oneOf_mul_kstar.1 h
  obtain ⟨c, run, rfl⟩ := List.exists_cons_of_ne_nil some
  have inside : ∀ d ∈ c :: run, arithmeticChars.contains d = true :=
    fun d hd => CharSet.mem_iff.1 (CharSet.mem_union.2 (Or.inl (mem_digits_of_isDigit (all d hd))))
  have chosen (slots : Slots) : arithmeticExpr.Chooses (c :: run) (fun _ => True) ⟨0, slots⟩
      ⟨(c :: run).length, slots⟩ := by
    have here : (c :: run).drop 0 = c :: run ++ [] := (List.append_nil _).symm
    have body : (Expr.times (.set arithmeticChars) 1 none true).Chooses (c :: run)
        ((Expr.look .textEnd).Joins (c :: run) fun _ => True) ⟨0, slots⟩
        ⟨0 + (c :: run).length, slots⟩ := .run_plus (s := ⟨0, slots⟩) here inside nofun
    rw [Nat.zero_add] at body
    refine .cat body (.look (Option.isNone_iff_eq_none.2 ?_))
    exact List.getElem?_eq_none (Nat.le_refl _)
  rw [Alternative.matchOn?_of_chooses_ungrouped reads rfl chosen, List.take_length]

/-- A decimal number is preferred up to its last digit. -/
theorem chooses_decimal {whole part : List Char} {point : Char} {good : Nat → Prop}
    (hwhole : ∀ c ∈ whole, c.isDigit = true) (hpoint : point = '.' ∨ point = ',') (some : part ≠ [])
    (hpart : ∀ c ∈ part, c.isDigit = true) (slots : Slots) :
    decimalExpr.Chooses (whole ++ point :: part) good ⟨0, slots⟩
      ⟨(whole ++ point :: part).length, slots⟩ := by
  obtain ⟨c, run, rfl⟩ := List.exists_cons_of_ne_nil some
  have length : (whole ++ point :: c :: run).length = 0 + whole.length + 1 + (c :: run).length := by
    simp only [List.length_append, List.length_cons]
    omega
  have at_point : (whole ++ point :: c :: run).drop (0 + whole.length) = point :: c :: run := by
    rw [Nat.zero_add, List.drop_left]
  have digit {d : Char} (h : d.isDigit = true) : (CharSet.range 0x30 0x39).contains d = true :=
    Collection.contains_digit.trans h
  -- the point is no digit, so that the first run ends there
  have first : (Expr.times (.set (.range 0x30 0x39)) 0 none true).Chooses
      (whole ++ point :: c :: run)
      ((Expr.cat (.set (.ofList ['.', ','])) digitsExpr).Joins (whole ++ point :: c :: run) good)
      ⟨0, slots⟩ ⟨0 + whole.length, slots⟩ := by
    refine .run (s := ⟨0, slots⟩) rfl (fun d hd => digit (hwhole d hd)) nofun fun _ d hd => ?_
    obtain rfl := Option.some.inj hd
    exact Collection.contains_digit.trans (Declaration.not_isDigit_of_point hpoint)
  have second : (Expr.set (.ofList ['.', ','])).Chooses (whole ++ point :: c :: run)
      (digitsExpr.Joins (whole ++ point :: c :: run) good) ⟨0 + whole.length, slots⟩
      ⟨0 + whole.length + 1, slots⟩ := by
    have here : (whole ++ point :: c :: run)[0 + whole.length]? = .some point := by
      rw [← List.head?_drop, at_point]
      rfl
    exact .set ⟨rfl, point, here, Declaration.contains_point.2 hpoint⟩
  have last : digitsExpr.Chooses (whole ++ point :: c :: run) good ⟨0 + whole.length + 1, slots⟩
      ⟨0 + whole.length + 1 + (c :: run).length, slots⟩ := by
    have here : (whole ++ point :: c :: run).drop (0 + whole.length + 1) = c :: run ++ [] := by
      rw [← List.drop_drop, at_point, List.append_nil]
      rfl
    exact .run_plus (s := ⟨0 + whole.length + 1, slots⟩) here (fun d hd => digit (hpart d hd)) nofun
  rw [length]
  exact .cat first (.cat second last)

theorem matchOn?_decimal (source : a.source = floatSource) (h : text ∈ decimals) :
    a.regex.matchOn? text = some ⟨[], text, []⟩ := by
  have reads : Reads a.source decimalExpr.atStart := source ▸ reads_decimal
  obtain ⟨whole, point, part, hwhole, hpoint, some, hpart, rfl⟩ := Declaration.mem_decimals_iff.1 h
  rw [Alternative.matchOn?_of_chooses_ungrouped reads rfl
    (chooses_decimal hwhole hpoint some hpart), List.take_length]

theorem sources_value : declaredValueRule.pattern.sources = expressionSources := by
  rw [declaredValueRule]
  dsimp only
  exact Pattern.sources_ofValid _

/-- **A value is taken as a whole** if nothing stands behind it. -/
theorem matchOn?_value (h : text ∈ values) (plain : '\n' ∉ text) :
    ∃ captures, declaredValueRule.pattern.matchOn? text = some ⟨[], text, captures⟩ := by
  rcases h with (whole | decimal) | ends
  · -- a run of digits is arithmetic, which comes first
    have split : declaredValueRule.pattern.sources =
      [] ++ arithmeticSource :: valueLanguages.map (·.1) := sources_value
    refine Pattern.matchOn?_of_takesAll split (fun a ha => ?_) fun a ha => ?_
    · exact takesAll_arithmetic (List.mem_singleton.1 ha)
    · exact ⟨_, matchOn?_arithmetic_of_digits ha whole⟩
  · have split : declaredValueRule.pattern.sources = (arithmeticSource :: stringSources) ++
      floatSource :: [intSource, listSource, tupleSource, dictSource, boolSource] := sources_value
    refine Pattern.matchOn?_of_takesAll split (fun a ha => ?_) fun a ha => ?_
    · rcases List.mem_append.1 ha with before | float
      · rcases List.mem_cons.1 before with arithmetic | strings
        · exact takesAll_arithmetic arithmetic
        · exact takesAll_string_of_decimals decimal plain strings
      · -- all digits are taken
        intro m found
        have taken := matchOn?_decimal (List.mem_singleton.1 float) decimal
        obtain rfl := Option.some.inj (found.symm.trans taken)
        exact ⟨rfl, rfl⟩
    · exact ⟨_, matchOn?_decimal ha decimal⟩
  · -- an expression that takes the value, wherever it stands
    obtain ⟨source, words, hwords, word⟩ := exists_valueLanguage ends
    have listed : source ∈ expressionSources := by
      rw [expressionSources_eq]
      exact List.mem_cons_of_mem _ (List.mem_map_of_mem hwords)
    obtain ⟨before, after, split⟩ := List.append_of_mem listed
    refine Pattern.matchOn?_of_takesAll (sources_value.trans split) (fun a ha => ?_) fun a ha => ?_
    · refine takesAll_of_enclosed ends plain ?_
      rw [split, List.append_cons]
      exact List.mem_append_left _ ha
    · exact (takes_valueLanguage (ha ▸ hwords) plain).complete text word (List.prefix_refl text)

end Premade

end RuleLexer
