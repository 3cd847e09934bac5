import RuleLexer.Proofs.Pattern.Preferred
import RuleLexer.Proofs.Premade.Collection
import RuleLexer.Proofs.Scan.Line
import RuleLexer.Proofs.Table.Extend

/-!
# Quoted strings and their bodies

The rule for strings has an expression for either quote, each with the text between the quotes as
its first group. The grammar of `Collection.quotedBy` tells what a quoted string is, and
`Collection.quotable` what its body is made of.

* `Quotation` — a text begins with a quoted string, cut into its quote, its body and what follows;
* `escaped` — a text with a backslash put before every backslash and every quote;
* `Premade.strings_quoted` — what the rule for strings matches and captures, and that it gives back
  what was escaped, as it stands between the quotes.

The units of a body are taken one by one, and none can be taken at the closing quote; so what is
preferred is the only cut there is.
-/

namespace RuleLexer

open Text (after?)
open Regex (Expr Point Slots spanAt?)
open Regex.Expr (spells_literal spells_cat spells_star)
open Collection (quotable quotedBy quotableExpr)
open scoped Computability

/-- **A quoted string at the start of a text**, cut into its quote, its body and what follows. -/
structure Quotation (rest : List Char) (quote : Char) (body behind : List Char) : Prop where
  /-- The quote is one of the two. -/
  either : quote = '"' ∨ quote = '\x27'
  /-- The body is made of characters behind a backslash and of plain ones. -/
  units : body ∈ (quotable quote)∗
  /-- The text is put together from these. -/
  split : rest = quote :: (body ++ quote :: behind)

/-- **Escaping**: a backslash before every backslash and every quote. -/
def escaped (quote : Char) (s : List Char) : List Char :=
  s.flatMap fun c => if c = '\\' ∨ c = quote then ['\\', c] else [c]

/-- What is escaped can stand in quotes. -/
theorem escaped_mem_quotable (quote : Char) (s : List Char) :
    escaped quote s ∈ (quotable quote)∗ := by
  refine Language.mem_kstar.2 ⟨_, List.flatMap_def, fun w hw => ?_⟩
  obtain ⟨c, -, rfl⟩ := List.mem_map.1 hw
  by_cases special : c = '\\' ∨ c = quote
  · rw [if_pos special]
    exact Or.inl (Language.append_mem_mul (a := ['\\']) rfl ⟨c, trivial, rfl⟩)
  · rw [if_neg special]
    exact Or.inr ⟨c, ⟨fun eq => special (Or.inr eq), fun eq => special (Or.inl eq)⟩, rfl⟩

theorem not_mem_escaped {quote c : Char} {s : List Char} (plain : c ∉ s) (proper : c ≠ '\\') :
    c ∉ escaped quote s := by
  intro h
  obtain ⟨d, hd, hc⟩ := List.mem_flatMap.1 h
  have ne : c ≠ d := fun eq => plain (eq ▸ hd)
  split at hc <;> simp [ne, proper] at hc

/-! ### One quoted string from one place -/

namespace Quotation

variable {rest body body' behind behind' : List Char} {quote quote' : Char}

theorem ne_backslash (h : Quotation rest quote body behind) : quote ≠ '\\' := by
  rcases h.either with rfl | rfl <;> decide

theorem mem_quotedBy (h : Quotation rest quote body behind) :
    quote :: (body ++ [quote]) ∈ quotedBy quote :=
  ⟨[quote] ++ body, Language.append_mem_mul (a := [quote]) rfl h.units, [quote], rfl, rfl⟩

theorem isPrefix (h : Quotation rest quote body behind) : quote :: (body ++ [quote]) <+: rest := by
  refine ⟨behind, ?_⟩
  rw [h.split, List.cons_append, List.append_assoc]
  rfl

/-- **A text begins with one quoted string at most.** -/
theorem unique (h : Quotation rest quote body behind) (h' : Quotation rest quote' body' behind') :
    quote = quote' ∧ body = body' ∧ behind = behind' := by
  obtain rfl : quote = quote' := (List.cons.inj (h.split.symm.trans h'.split)).1
  have same := (Collection.prefixFree_quotedBy h.ne_backslash).unique h.mem_quotedBy
    h'.mem_quotedBy h.isPrefix h'.isPrefix
  obtain rfl : body = body' := List.append_cancel_right (List.cons.inj same).2
  have left := List.append_cancel_left (List.cons.inj (h.split.symm.trans h'.split)).2
  exact ⟨rfl, rfl, (List.cons.inj left).2⟩

end Quotation

namespace Premade

/-! ### The expression of a quoted string -/

/-- A string in quotes of one kind, the text between them being the first group. -/
def quotedGroupExpr (quote : Char) : Expr :=
  .cat (.literal [quote])
    (.cat (.capture 1 (.times (quotableExpr quote) 0 none true)) (.literal [quote]))

theorem reads_double :
    Reads (stringSources.get ⟨0, by decide⟩) (quotedGroupExpr '"').atStart := by
  unfold Reads
  decide +kernel

theorem reads_single :
    Reads (stringSources.get ⟨1, by decide⟩) (quotedGroupExpr '\x27').atStart := by
  unfold Reads
  decide +kernel

/-- An expression for strings is for one of the quotes. -/
theorem exists_quote {source : String} (h : source ∈ stringSources) :
    ∃ quote, (quote = '"' ∨ quote = '\x27') ∧ Reads source (quotedGroupExpr quote).atStart := by
  rcases List.mem_pair.1 h with rfl | rfl
  · exact ⟨'"', Or.inl rfl, reads_double⟩
  · exact ⟨'\x27', Or.inr rfl, reads_single⟩

/-- There is an expression for either quote. -/
theorem exists_source {quote : Char} (either : quote = '"' ∨ quote = '\x27') :
    ∃ source ∈ stringSources, Reads source (quotedGroupExpr quote).atStart := by
  rcases either with rfl | rfl
  · exact ⟨_, List.mem_cons_self, reads_double⟩
  · exact ⟨_, List.mem_cons_of_mem _ List.mem_cons_self, reads_single⟩

/-- The group does not change what is matched. -/
theorem spells_quotedGroup (quote : Char) :
    (quotedGroupExpr quote).Spells ({[quote]} * ((quotable quote)∗ * {[quote]})) := by
  have body : (Expr.times (quotableExpr quote) 0 none true).Spells (quotable quote)∗ :=
    spells_star (Collection.spells_quotable quote)
  have group : (Expr.capture 1 (.times (quotableExpr quote) 0 none true)).Spells
      (quotable quote)∗ := body
  exact spells_cat (spells_literal [quote]) (spells_cat group (spells_literal [quote]))

section Choice

variable {rest w body behind : List Char} {quote : Char} {good : Nat → Prop} {s : Point}

/-- A unit of a body is taken, whatever is behind it. -/
theorem chooses_quotable (plain : '\n' ∉ rest) (unit : w ∈ quotable quote)
    (here : w <+: rest.drop s.place) :
    (quotableExpr quote).Chooses rest good s (s.moved (s.place + w.length)) := by
  rcases unit with ⟨-, rfl, -, ⟨c, -, rfl⟩, rfl⟩ | ⟨c, ⟨ne, proper⟩, rfl⟩
  · -- a backslash and a character
    have first : ['\\'] <+: rest.drop s.place := (List.prefix_append ['\\'] [c]).trans here
    have second : rest[s.place + 1]? = some c := by
      obtain ⟨tail, split⟩ := here
      rw [← List.head?_drop, ← List.drop_drop, ← split]
      rfl
    have dot : c ≠ '\n' := fun feed => plain (feed ▸ List.mem_of_getElem? second)
    refine .first (.cat (.literal ⟨rfl, first⟩) (.set ⟨rfl, c, second, ?_⟩))
    exact CharSet.mem_iff.1 (CharSet.mem_diff.2 ⟨CharSet.mem_all c, mt CharSet.mem_single.1 dot⟩)
  · -- a plain character, which is no backslash
    obtain ⟨tail, split⟩ := here
    have at_s : rest[s.place]? = some c := by
      rw [← List.head?_drop, ← split]
      rfl
    refine .second ?_ (.set ⟨rfl, c, at_s, ?_⟩)
    · rintro ⟨j, ⟨k, ⟨-, backslash⟩, -⟩, -⟩
      rw [← split] at backslash
      exact proper (List.cons_prefix_cons.1 backslash).1.symm
    · exact CharSet.mem_iff.1 (CharSet.mem_compl.2 (by simp [ne, proper]))

/-- No unit is taken at the closing quote. -/
theorem not_matches_quotable (ne : quote ≠ '\\') {i j : Nat}
    (here : rest.drop i = quote :: behind) : ¬ (quotableExpr quote).Matches rest i j := by
  rintro (⟨k, ⟨-, backslash⟩, -⟩ | ⟨-, c, hc, other⟩)
  · rw [here] at backslash
    exact ne (List.cons_prefix_cons.1 backslash).1.symm
  · obtain rfl : quote = c := by
      rw [← List.head?_drop, here] at hc
      exact Option.some.inj hc
    exact CharSet.mem_compl.1 (CharSet.mem_iff.2 other) (by simp)

/-- **A quoted string is preferred as it is cut**, and its body is captured. -/
theorem chooses_quotedGroup (plain : '\n' ∉ rest) (h : Quotation rest quote body behind)
    (slots : Slots) :
    (quotedGroupExpr quote).Chooses rest good ⟨0, slots⟩
      ⟨1 + body.length + 1, (slots.set 2 (some 1)).set 3 (some (1 + body.length))⟩ := by
  obtain ⟨units, rfl, all⟩ := Language.mem_kstar.1 h.units
  have opens : [quote] <+: rest.drop 0 := by
    rw [h.split]
    exact List.prefix_append [quote] _
  have split : rest.drop 1 = units.flatten ++ quote :: behind := by
    rw [h.split]
    rfl
  have closing : rest.drop (1 + units.flatten.length) = quote :: behind := by
    rw [← List.drop_drop, split, List.drop_left]
  have closes : [quote] <+: rest.drop (1 + units.flatten.length) := by
    rw [closing]
    exact List.prefix_append [quote] _
  -- the units are taken one by one, the place in front of them having been noted
  have inner : (Expr.times (quotableExpr quote) 0 none true).Chooses rest
      ((Expr.literal [quote]).Joins rest good) (Point.note ⟨1, slots⟩ (2 * 1))
      ((Point.note ⟨1, slots⟩ (2 * 1)).moved (1 + units.flatten.length)) :=
    Expr.Chooses.rounds split (fun w hw good s here => chooses_quotable plain (all w hw) here)
      nofun fun _ j => not_matches_quotable h.ne_backslash closing
  have group : (Expr.capture 1 (.times (quotableExpr quote) 0 none true)).Chooses rest
      ((Expr.literal [quote]).Joins rest good) ⟨1, slots⟩
      ⟨1 + units.flatten.length,
        (slots.set 2 (some 1)).set 3 (some (1 + units.flatten.length))⟩ := .capture inner
  exact .cat (.literal ⟨rfl, opens⟩) (.cat group (.literal ⟨rfl, closes⟩))

/-- What is matched is a quoted string. -/
theorem exists_quotation_of_matches (plain : '\n' ∉ rest)
    (either : quote = '"' ∨ quote = '\x27') {j : Nat}
    (h : (quotedGroupExpr quote).Matches rest 0 j) :
    ∃ body behind, Quotation rest quote body behind := by
  obtain ⟨-, ⟨-, rfl, -, ⟨body, units, -, rfl, rfl⟩, rfl⟩, ⟨behind, split⟩, -⟩ :=
    (spells_quotedGroup quote rest plain 0 j).1 h
  refine ⟨body, behind, either, units, ?_⟩
  rw [List.drop_zero] at split
  rw [← split]
  simp

end Choice

/-! ### What the rule for strings matches -/

section Match

variable {a : Alternative} {rest : List Char} {quote : Char} {m : Match}

/-- What an expression for quoted strings matches where one begins. -/
theorem matchOn?_of_quotation (reads : Reads a.source (quotedGroupExpr quote).atStart)
    (plain : '\n' ∉ rest) {body behind : List Char} (h : Quotation rest quote body behind) :
    a.regex.matchOn? rest = some ⟨[], quote :: (body ++ [quote]), [some body]⟩ := by
  have whole : rest.take (1 + body.length + 1) = quote :: (body ++ [quote]) := by
    have length : (quote :: (body ++ [quote])).length = 1 + body.length + 1 := by
      rw [List.length_cons, List.length_append, List.length_singleton, Nat.add_comm 1]
    rw [← length]
    exact (List.prefix_iff_eq_take.1 h.isPrefix).symm
  have inside : Regex.Span.of ⟨1, 1 + body.length⟩ rest = body := by
    rw [Regex.Span.of, h.split, Nat.add_sub_cancel_left]
    exact List.take_left
  -- both places of the group were noted last
  have noted : spanAt? (((((quotedGroupExpr quote).atStart.opening 0).slots.set 2 (some 1)).set 3
      (some (1 + body.length)))) 1 = some ⟨1, 1 + body.length⟩ := rfl
  have groups : (quotedGroupExpr quote).groups = 1 := rfl
  rw [Alternative.matchOn?_of_chooses reads
      (chooses_quotedGroup plain h ((quotedGroupExpr quote).atStart.opening 0).slots),
    whole, groups, List.range_one, List.map_singleton, Nat.zero_add, noted, Option.map_some, inside]

/-- **The match of an expression for quoted strings.** -/
theorem matchOn?_quotedGroup_iff (reads : Reads a.source (quotedGroupExpr quote).atStart)
    (either : quote = '"' ∨ quote = '\x27') (plain : '\n' ∉ rest) :
    a.regex.matchOn? rest = some m ↔ ∃ body behind, Quotation rest quote body behind ∧
      m = ⟨[], quote :: (body ++ [quote]), [some body]⟩ := by
  constructor
  · -- something is matched, hence there is a quoted string, and this is matched
    intro h
    obtain ⟨j, matched, -⟩ := Alternative.matches_of_matchOn? reads h
    obtain ⟨body, behind, quotes⟩ := exists_quotation_of_matches plain either matched
    have found := matchOn?_of_quotation reads plain quotes
    exact ⟨body, behind, quotes, Option.some.inj (h.symm.trans found)⟩
  · rintro ⟨body, behind, quotes, rfl⟩
    exact matchOn?_of_quotation reads plain quotes

end Match

theorem sources_string : stringRule.pattern.sources = stringSources := by
  rw [stringRule]
  dsimp only
  exact Pattern.sources_ofValid _

/-- **The match of the rule for strings** on a text without line feeds. -/
theorem matchOn?_string_iff {rest : List Char} (plain : '\n' ∉ rest) {m : Match} :
    stringRule.pattern.matchOn? rest = some m ↔ ∃ quote body behind,
      Quotation rest quote body behind ∧ m = ⟨[], quote :: (body ++ [quote]), [some body]⟩ := by
  have exists_reads {a : Alternative} (h : a ∈ stringRule.pattern.alternatives) :
      ∃ quote, (quote = '"' ∨ quote = '\x27') ∧ Reads a.source (quotedGroupExpr quote).atStart :=
    exists_quote (sources_string ▸ List.mem_map_of_mem h)
  rw [Pattern.matchOn?_iff_of_agree]
  · constructor
    · rintro ⟨a, ha, found⟩
      obtain ⟨quote, either, reads⟩ := exists_reads ha
      exact ⟨quote, (matchOn?_quotedGroup_iff reads either plain).1 found⟩
    · rintro ⟨quote, body, behind, quotes, rfl⟩
      obtain ⟨source, hsource, reads⟩ := exists_source quotes.either
      obtain ⟨a, ha, rfl⟩ := List.mem_map.1 (sources_string ▸ hsource)
      exact ⟨a, ha, (matchOn?_quotedGroup_iff reads quotes.either plain).2
        ⟨body, behind, quotes, rfl⟩⟩
  · -- both expressions would have to cut the text in the same way
    intro a ha b hb m m' found found'
    obtain ⟨quote, either, reads⟩ := exists_reads ha
    obtain ⟨quote', either', reads'⟩ := exists_reads hb
    obtain ⟨body, behind, quotes, rfl⟩ := (matchOn?_quotedGroup_iff reads either plain).1 found
    obtain ⟨body', behind', quotes', rfl⟩ :=
      (matchOn?_quotedGroup_iff reads' either' plain).1 found'
    obtain ⟨rfl, rfl, -⟩ := quotes.unique quotes'
    rfl

theorem fits_string : Table.Fits [] Premade.string.rules :=
  ⟨List.not_mem_nil, nofun, trivial⟩

/-- What was escaped and put in quotes is scanned as one string. -/
theorem scan_quoted {t : Table} (only : t.rules = [stringRule]) (options : ScanOptions)
    {s : List Char} {quote : Char} (plain : '\n' ∉ s) (either : quote = '"' ∨ quote = '\x27') :
    t.scan options (String.ofList (quote :: (escaped quote s ++ [quote]))) =
      .ok [⟨"STRING", String.ofList (escaped quote s), 0⟩] := by
  have line : (String.ofList (quote :: (escaped quote s ++ [quote]))).toList =
      quote :: (escaped quote s ++ [quote]) := String.toList_ofList
  have plain' : '\n' ∉ quote :: (escaped quote s ++ [quote]) := by
    have proper : '\n' ≠ quote := by rcases either with rfl | rfl <;> decide
    simp [proper, not_mem_escaped plain (by decide : '\n' ≠ '\\')]
  have quotes : Quotation (quote :: (escaped quote s ++ [quote])) quote (escaped quote s) [] :=
    ⟨either, escaped_mem_quotable quote s, rfl⟩
  have found := (matchOn?_string_iff plain').2 ⟨quote, escaped quote s, [], quotes, rfl⟩
  -- the match takes all of the line
  have first : t.firstMatch? ⟨0, quote :: (escaped quote s ++ [quote]) ++ [], none⟩ = some
      (stringRule, ⟨[], quote :: (escaped quote s ++ [quote]), [some (escaped quote s)]⟩) := by
    rw [List.append_nil]
    have split : t.rules = [] ++ stringRule :: [] := only
    exact Table.firstMatch?_eq_of_split split rfl found fun q hq => absurd hq List.not_mem_nil
  have whole := Table.scanLine_of_yields options 0 first (List.cons_ne_nil _ _) rfl rfl rfl
  rw [List.append_nil] at whole
  have ends (column : Nat) (last : Option String) :
      t.scanLine options 0 ⟨column, [], last⟩ = .ok [] := Table.scanLine_of_end rfl
  rw [Table.scan_of_plain (by rwa [line]) (by rw [line]; exact List.cons_ne_nil _ _), line]
  exact whole.trans (by rw [ends]; rfl)

/-- **The rule for strings matches quoted strings and captures their bodies.** At a place of a line
it matches exactly if a quoted string follows; this is then the only one that follows, the match is
the whole of it, and the group 1 its body. So the table with no other rule has one token for a text
that was escaped and put in quotes, with the escaped text as its value. -/
theorem strings_quoted {line rest : List Char} {offset : Nat} (plain : '\n' ∉ line)
    (here : after? line offset = some rest) :
    ((stringRule.pattern.matchAt? line offset).isSome = true ↔
      ∃ quote body behind, Quotation rest quote body behind) ∧
    (∀ quote body behind quote' body' behind', Quotation rest quote body behind →
      Quotation rest quote' body' behind' → quote = quote' ∧ body = body' ∧ behind = behind') ∧
    (∀ quote body behind, Quotation rest quote body behind → ∃ m,
      stringRule.pattern.matchAt? line offset = some m ∧ m.skipped = [] ∧
        m.text = quote :: (body ++ [quote]) ∧ m.group? 1 = some body) ∧
    ∃ t, Table.empty.extend? Premade.string.rules = .ok t ∧
      ∀ (options : ScanOptions) (s : List Char) (quote : Char), '\n' ∉ s →
        (quote = '"' ∨ quote = '\x27') →
        t.scan options (String.ofList (quote :: (escaped quote s ++ [quote]))) =
          .ok [⟨"STRING", String.ofList (escaped quote s), 0⟩] := by
  have plain' : '\n' ∉ rest := Text.not_mem_of_after? plain here
  rw [Pattern.matchAt?_eq_matchOn? here]
  refine ⟨?_, fun _ _ _ _ _ _ => Quotation.unique, ?_, ?_⟩
  · rw [Option.isSome_iff_exists]
    constructor
    · rintro ⟨m, hm⟩
      obtain ⟨quote, body, behind, quotes, -⟩ := (matchOn?_string_iff plain').1 hm
      exact ⟨quote, body, behind, quotes⟩
    · rintro ⟨quote, body, behind, quotes⟩
      exact ⟨_, (matchOn?_string_iff plain').2 ⟨quote, body, behind, quotes, rfl⟩⟩
  · intro quote body behind quotes
    exact ⟨_, (matchOn?_string_iff plain').2 ⟨quote, body, behind, quotes, rfl⟩, rfl, rfl, rfl⟩
  · obtain ⟨t, added⟩ := Table.Indexed.empty.exists_extend?_iff.2 fits_string
    exact ⟨t, added, fun options s quote plain either => scan_quoted
      (Table.rules_of_extend (Table.extend?_eq_ok_iff.1 added)) options plain either⟩

/-- Behind the letter stands a string in double quotes; the quote behind two backslashes ends it,
and that of the other kind does not count. -/
theorem strings_quoted_backslashes :
    after? "é\"a'\\\\\" 'b'".toList 2 = some "\"a'\\\\\" 'b'".toList ∧
    ∃ m, stringRule.pattern.matchAt? "é\"a'\\\\\" 'b'".toList 2 = some m ∧
      m.text = "\"a'\\\\\"".toList ∧ m.group? 1 = some "a'\\\\".toList := by
  have place : after? "é\"a'\\\\\" 'b'".toList 2 = some "\"a'\\\\\" 'b'".toList := by
    decide +kernel
  -- two plain characters, and a backslash that is escaped
  have units : "a'\\\\".toList ∈ (quotable '"')∗ := by
    refine Language.mem_kstar.2 ⟨[['a'], ['\x27'], ['\\', '\\']], by decide, ?_⟩
    intro w hw
    simp only [List.mem_cons, List.not_mem_nil, or_false] at hw
    rcases hw with rfl | rfl | rfl
    · exact Or.inr ⟨'a', by decide, rfl⟩
    · exact Or.inr ⟨'\x27', by decide, rfl⟩
    · exact Or.inl (Language.append_mem_mul (a := ['\\']) rfl ⟨'\\', trivial, rfl⟩)
  have quotes : Quotation "\"a'\\\\\" 'b'".toList '"' "a'\\\\".toList " 'b'".toList :=
    ⟨Or.inl rfl, units, by decide⟩
  obtain ⟨m, found, -, text, body⟩ := (strings_quoted (by decide) place).2.2.1 _ _ _ quotes
  exact ⟨place, m, found, text.trans (by decide), body⟩

end Premade

end RuleLexer
