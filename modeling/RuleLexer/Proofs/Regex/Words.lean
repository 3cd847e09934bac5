import RuleLexer.Proofs.Regex.Language
import Mathlib

/-!
# The words of an expression

An expression without conditions on the place matches the same stretches of characters wherever they
stand, so that it can be told by the language of these stretches: a sequence by the product of the
languages of its parts, a choice by their sum, a repetition by powers.

* `Stands` — a word of a language stands between two places of a text;
* `Expr.Spells` — on texts without line feeds, the expression matches the words of a language and
  nothing else, which is shown part by part (`Expr.spells_cat`, `Expr.spells_star` and so on);
* `PrefixFree` — no word of a language is the beginning of another one, so that one text begins with
  one word at most. A product of such languages is one (`PrefixFree.mul`), and so are the words that
  are put together from pieces up to a final one that is no piece (`PrefixFree.kstar_mul`).

Line feeds are left out because the dot does not match them: where there are none, the dot is any
character.
-/

namespace RuleLexer.Regex

open scoped Computability

/-- The words of one character of some kind. -/
def oneOf (kind : Char → Prop) : Language Char := {w | ∃ c, kind c ∧ w = [c]}

/-- Characters of some kind in a row. -/
theorem mem_kstar_oneOf {kind : Char → Prop} {w : List Char} :
    w ∈ (oneOf kind)∗ ↔ ∀ c ∈ w, kind c := by
  constructor
  · intro h c hc
    obtain ⟨units, rfl, all⟩ := Language.mem_kstar.1 h
    obtain ⟨u, hu, hcu⟩ := List.mem_flatten.1 hc
    obtain ⟨d, hd, rfl⟩ := all u hu
    obtain rfl := List.mem_singleton.1 hcu
    exact hd
  · intro h
    refine Language.mem_kstar.2 ⟨w.map ([·]), ?_, fun u hu => ?_⟩
    · rw [← List.flatMap_def, List.flatMap_singleton']
    · obtain ⟨c, hc, rfl⟩ := List.mem_map.1 hu
      exact ⟨c, h c hc, rfl⟩

/-- A character of some kind or more in a row. -/
theorem mem_oneOf_mul_kstar {kind : Char → Prop} {w : List Char} :
    w ∈ oneOf kind * (oneOf kind)∗ ↔ w ≠ [] ∧ ∀ c ∈ w, kind c := by
  constructor
  · rintro ⟨-, ⟨c, hc, rfl⟩, v, hv, rfl⟩
    refine ⟨List.cons_ne_nil c v, fun d hd => ?_⟩
    rcases List.mem_cons.1 hd with rfl | hd
    · exact hc
    · exact mem_kstar_oneOf.1 hv d hd
  · rintro ⟨some, all⟩
    obtain ⟨c, v, rfl⟩ := List.exists_cons_of_ne_nil some
    refine Language.append_mem_mul (a := [c]) ⟨c, all c List.mem_cons_self, rfl⟩ ?_
    exact mem_kstar_oneOf.2 fun d hd => all d (List.mem_cons_of_mem c hd)

/-! ### Words between places -/

/-- **A word of a language stands** between two places of a text. -/
def Stands (words : Language Char) (text : List Char) (i j : Nat) : Prop :=
  ∃ w ∈ words, w <+: text.drop i ∧ j = i + w.length

section Stands

variable {L M : Language Char} {text : List Char} {i j : Nat}

theorem stands_one : Stands 1 text i j ↔ i = j := by
  constructor
  · rintro ⟨w, hw, -, rfl⟩
    obtain rfl := (Language.mem_one w).1 hw
    rfl
  · rintro rfl
    exact ⟨[], Language.nil_mem_one, List.nil_prefix, rfl⟩

theorem stands_singleton {cs : List Char} :
    Stands {cs} text i j ↔ j = i + cs.length ∧ cs <+: text.drop i := by
  constructor
  · rintro ⟨w, rfl, h, len⟩
    exact ⟨len, h⟩
  · rintro ⟨len, h⟩
    exact ⟨cs, rfl, h, len⟩

theorem stands_add : Stands (L + M) text i j ↔ Stands L text i j ∨ Stands M text i j := by
  constructor
  · rintro ⟨w, hw, h⟩
    exact ((Language.mem_add L M w).1 hw).imp (fun hw => ⟨w, hw, h⟩) fun hw => ⟨w, hw, h⟩
  · rintro (⟨w, hw, h⟩ | ⟨w, hw, h⟩)
    · exact ⟨w, Or.inl hw, h⟩
    · exact ⟨w, Or.inr hw, h⟩

theorem stands_mul :
    Stands (L * M) text i j ↔ ∃ k, Stands L text i k ∧ Stands M text k j := by
  constructor
  · rintro ⟨-, ⟨v, hv, w, hw, rfl⟩, ⟨tail, h⟩, rfl⟩
    have behind : text.drop (i + v.length) = w ++ tail := by
      rw [← List.drop_drop, ← h, List.append_assoc, List.drop_left]
    refine ⟨i + v.length, ⟨v, hv, ⟨w ++ tail, ?_⟩, rfl⟩, w, hw, ⟨tail, behind.symm⟩, ?_⟩
    · rw [← List.append_assoc, h]
    · rw [List.length_append, Nat.add_assoc]
  · rintro ⟨-, ⟨v, hv, ⟨tail, hvt⟩, rfl⟩, w, hw, ⟨tail', hwt⟩, rfl⟩
    rw [← List.drop_drop, ← hvt, List.drop_left] at hwt
    refine ⟨v ++ w, Language.append_mem_mul hv hw, ⟨tail', ?_⟩, ?_⟩
    · rw [List.append_assoc, hwt, hvt]
    · rw [List.length_append, Nat.add_assoc]

/-- Words in a row are a word of a power. -/
theorem iterated_stands {n : Nat} :
    Iterated (Stands L text) n i j ↔ Stands (L ^ n) text i j := by
  induction n generalizing i with
  | zero => rw [pow_zero, stands_one, Iterated]
  | succ n ih =>
    rw [pow_succ', stands_mul]
    exact exists_congr fun k => and_congr_right fun _ => ih

theorem stands_kstar : Stands L∗ text i j ↔ ∃ n, Stands (L ^ n) text i j := by
  simp only [Stands, Language.kstar_eq_iSup_pow, Language.mem_iSup]
  constructor
  · rintro ⟨w, ⟨n, hw⟩, h⟩
    exact ⟨n, w, hw, h⟩
  · rintro ⟨n, w, hw, h⟩
    exact ⟨w, ⟨n, hw⟩, h⟩

end Stands

/-! ### Expressions and their words -/

namespace Expr

/-- **An expression spells a language**: on texts without line feeds it matches the words of the
language wherever they stand, and nothing else. -/
def Spells (e : Expr) (words : Language Char) : Prop :=
  ∀ text, '\n' ∉ text → ∀ i j, e.Matches text i j ↔ Stands words text i j

variable {e f : Expr} {L M : Language Char}

theorem spells_literal (cs : List Char) : (literal cs).Spells {cs} :=
  fun _ _ _ _ => stands_singleton.symm

/-- A set spells the characters in it; whether the line feed is one of them does not matter. -/
theorem spells_set {s : CharSet} {kind : Char → Prop} (h : ∀ c ≠ '\n', c ∈ s ↔ kind c) :
    (set s).Spells (oneOf kind) := by
  intro text plain i j
  have proper {c : Char} (hc : text[i]? = some c) : c ∈ s ↔ kind c :=
    h c fun feed => plain (feed ▸ List.mem_of_getElem? hc)
  constructor
  · rintro ⟨rfl, c, hc, hs⟩
    obtain ⟨lt, rfl⟩ := List.getElem?_eq_some_iff.1 hc
    refine ⟨_, ⟨_, (proper hc).1 hs, rfl⟩, ?_, rfl⟩
    rw [List.drop_eq_getElem_cons lt]
    exact List.prefix_append [_] _
  · rintro ⟨-, ⟨c, hkind, rfl⟩, ⟨tail, h⟩, rfl⟩
    have hc : text[i]? = some c := by
      rw [← List.head?_drop, ← h]
      rfl
    exact ⟨rfl, c, hc, (proper hc).2 hkind⟩

theorem spells_cat (he : e.Spells L) (hf : f.Spells M) : (cat e f).Spells (L * M) := by
  intro text plain i j
  rw [stands_mul]
  exact exists_congr fun k => and_congr (he text plain i k) (hf text plain k j)

theorem spells_alt (he : e.Spells L) (hf : f.Spells M) : (alt e f).Spells (L + M) := by
  intro text plain i j
  rw [stands_add]
  exact or_congr (he text plain i j) (hf text plain i j)

/-- A repetition spells those powers of a language that its bounds allow. -/
theorem Spells.times_iff (he : e.Spells L) {text : List Char} (plain : '\n' ∉ text)
    {i j least : Nat} {most : Option Nat} {greedy : Bool} :
    (times e least most greedy).Matches text i j ↔
      ∃ n, least ≤ n ∧ (∀ m ∈ most, n ≤ max least m) ∧ Stands (L ^ n) text i j := by
  have same : e.Matches text = Stands L text := by
    funext i j
    exact propext (he text plain i j)
  simp only [← iterated_stands, Matches, same]

theorem spells_star {greedy : Bool} (he : e.Spells L) : (times e 0 none greedy).Spells L∗ := by
  intro text plain i j
  rw [he.times_iff plain, stands_kstar]
  refine exists_congr fun n => ⟨fun h => h.2.2, fun h => ⟨Nat.zero_le n, ?_, h⟩⟩
  exact fun m hm => nomatch hm

theorem spells_plus {greedy : Bool} (he : e.Spells L) :
    (times e 1 none greedy).Spells (L * L∗) := by
  intro text plain i j
  rw [he.times_iff plain, stands_mul]
  constructor
  · rintro ⟨n, pos, -, h⟩
    obtain ⟨m, rfl⟩ : ∃ m, n = m + 1 := ⟨n - 1, by omega⟩
    rw [pow_succ', stands_mul] at h
    obtain ⟨k, hk, h⟩ := h
    exact ⟨k, hk, stands_kstar.2 ⟨m, h⟩⟩
  · rintro ⟨k, hk, h⟩
    obtain ⟨m, h⟩ := stands_kstar.1 h
    refine ⟨m + 1, Nat.le_add_left 1 m, (fun m hm => nomatch hm), ?_⟩
    rw [pow_succ', stands_mul]
    exact ⟨k, hk, h⟩

theorem spells_option {greedy : Bool} (he : e.Spells L) :
    (times e 0 (some 1) greedy).Spells (1 + L) := by
  intro text plain i j
  rw [he.times_iff plain, stands_add]
  constructor
  · rintro ⟨n, -, le, h⟩
    have : n ≤ max 0 1 := le 1 rfl
    obtain rfl | rfl : n = 0 ∨ n = 1 := by omega
    · exact Or.inl (pow_zero L ▸ h)
    · exact Or.inr (pow_one L ▸ h)
  · rintro (h | h)
    · exact ⟨0, Nat.le_refl 0, fun m _ => Nat.zero_le _, (pow_zero L).symm ▸ h⟩
    · refine ⟨1, Nat.zero_le 1, ?_, (pow_one L).symm ▸ h⟩
      rintro m ⟨⟩
      exact Nat.le_refl 1

/-- **A sequence spells the product** of what its members spell. -/
theorem spells_seq {es : List Expr} {languages : List (Language Char)}
    (h : List.Forall₂ Spells es languages) : (seq es).Spells languages.prod := by
  intro text plain i j
  rw [matches_seq]
  induction h generalizing i with
  | nil =>
    rw [List.prod_nil, stands_one]
    exact Iff.rfl
  | cons he _ ih =>
    rw [List.prod_cons, stands_mul]
    exact exists_congr fun k => and_congr (he text plain i k) (ih k)

/-- Behind a mark for the start, words are matched at the start only. -/
theorem Spells.matches_behind_mark {es : List Expr} (h : (seq es).Spells L) {text : List Char}
    (plain : '\n' ∉ text) {i j : Nat} (le : i ≤ text.length) :
    (seq (look .textStart :: es)).Matches text i j ↔ i = 0 ∧ Stands L text 0 j := by
  rw [matches_seq]
  constructor
  · rintro ⟨k, ⟨rfl, here⟩, behind⟩
    obtain rfl := Look.eq_zero_of_textStart here le
    exact ⟨rfl, (h text plain 0 j).1 (matches_seq.2 behind)⟩
  · rintro ⟨rfl, stands⟩
    exact ⟨0, ⟨rfl, rfl⟩, matches_seq.1 ((h text plain 0 j).2 stands)⟩

end Expr

/-! ### Languages no word of which begins another -/

/-- Every word begins with a character of some kind. -/
def Begins (words : Language Char) (kind : Char → Prop) : Prop :=
  ∀ w ∈ words, ∃ c cs, w = c :: cs ∧ kind c

/-- **No word is the beginning of another one.** -/
def PrefixFree (words : Language Char) : Prop := ∀ v ∈ words, ∀ w ∈ words, v <+: w → v = w

section Prefixes

variable {L M : Language Char} {kind other : Char → Prop}

theorem begins_oneOf : Begins (oneOf kind) kind := by
  rintro _ ⟨c, hc, rfl⟩
  exact ⟨c, [], rfl, hc⟩

theorem begins_singleton {c : Char} {cs : List Char} : Begins {c :: cs} (· = c) := by
  rintro _ rfl
  exact ⟨c, cs, rfl, rfl⟩

theorem Begins.mul (h : Begins L kind) : Begins (L * M) kind := by
  rintro _ ⟨v, hv, w, -, rfl⟩
  obtain ⟨c, cs, rfl, hc⟩ := h v hv
  exact ⟨c, cs ++ w, rfl, hc⟩

theorem Begins.add (hL : Begins L kind) (hM : Begins M other) :
    Begins (L + M) fun c => kind c ∨ other c := by
  rintro w (hw | hw)
  · obtain ⟨c, cs, rfl, hc⟩ := hL w hw
    exact ⟨c, cs, rfl, Or.inl hc⟩
  · obtain ⟨c, cs, rfl, hc⟩ := hM w hw
    exact ⟨c, cs, rfl, Or.inr hc⟩

/-- Words that begin differently are no beginnings of each other. -/
theorem Begins.not_isPrefix (hL : Begins L kind) (hM : Begins M other)
    (apart : ∀ c, kind c → ¬ other c) {v w : List Char} (hv : v ∈ L) (hw : w ∈ M) :
    ¬ (v <+: w ∨ w <+: v) := by
  obtain ⟨c, cs, rfl, hc⟩ := hL v hv
  obtain ⟨d, ds, rfl, hd⟩ := hM w hw
  rintro (h | h)
  · exact apart c hc ((List.cons_prefix_cons.1 h).1 ▸ hd)
  · exact apart c hc ((List.cons_prefix_cons.1 h).1 ▸ hd)

namespace PrefixFree

/-- A text begins with one word at most. -/
theorem unique (h : PrefixFree L) {text v w : List Char} (hv : v ∈ L) (hw : w ∈ L)
    (vt : v <+: text) (wt : w <+: text) : v = w := by
  rcases List.prefix_or_prefix_of_prefix vt wt with vw | wv
  · exact h v hv w hw vw
  · exact (h w hw v hv wv).symm

theorem mono (h : PrefixFree M) (le : L ≤ M) : PrefixFree L :=
  fun v hv w hw => h v (le hv) w (le hw)

theorem of_singleton (w : List Char) : PrefixFree {w} := by
  rintro v rfl w rfl _
  rfl

theorem of_oneOf (kind : Char → Prop) : PrefixFree (oneOf kind) := by
  rintro _ ⟨c, -, rfl⟩ _ ⟨d, -, rfl⟩ h
  exact h.eq_of_length rfl

theorem mul (hL : PrefixFree L) (hM : PrefixFree M) : PrefixFree (L * M) := by
  rintro _ ⟨a, ha, b, hb, rfl⟩ _ ⟨c, hc, d, hd, rfl⟩ h
  -- the first halves begin the same word, so that they are the same
  obtain rfl : a = c :=
    hL.unique ha hc ((List.prefix_append a b).trans h) (List.prefix_append c d)
  exact congrArg (a ++ ·) (hM b hb d hd ((List.prefix_append_right_inj a).1 h))

theorem add (hL : PrefixFree L) (hM : PrefixFree M) (beginL : Begins L kind)
    (beginM : Begins M other) (apart : ∀ c, kind c → ¬ other c) : PrefixFree (L + M) := by
  rintro v (hv | hv) w (hw | hw) h
  · exact hL v hv w hw h
  · exact absurd (Or.inl h) (beginL.not_isPrefix beginM apart hv hw)
  · exact absurd (Or.inr h) (beginL.not_isPrefix beginM apart hw hv)
  · exact hM v hv w hw h

/-- A language whose words begin with a character that no word of the other one begins with. -/
theorem add_of_first {c : Char} (hL : PrefixFree L) (hM : PrefixFree M) (beginL : Begins L kind)
    (beginM : Begins M (· = c)) (new : ¬ kind c) : PrefixFree (L + M) := by
  refine hL.add hM beginL beginM ?_
  rintro d hd rfl
  exact new hd

/-- **Pieces up to a final word.** Where one look at the beginning tells the pieces from the final
words, the first final word is where the whole ends. -/
theorem kstar_mul (hL : PrefixFree L) (hM : PrefixFree M) (beginL : Begins L kind)
    (beginM : Begins M other) (apart : ∀ c, kind c → ¬ other c) : PrefixFree (L∗ * M) := by
  rintro _ ⟨v, hv, a, ha, rfl⟩ _ ⟨w, hw, b, hb, rfl⟩ h
  obtain ⟨vs, rfl, hvs⟩ := Language.mem_kstar.1 hv
  obtain ⟨ws, rfl, hws⟩ := Language.mem_kstar.1 hw
  -- the induction is on the pieces of the one word, the other word being opened alongside
  clear hv hw
  induction vs generalizing ws with
  | nil =>
    cases ws with
    | nil => exact hM a ha b hb h
    | cons w ws =>
      have wtext : w <+: (w :: ws).flatten ++ b :=
        List.append_assoc w ws.flatten b ▸ List.prefix_append w _
      have comparable := List.prefix_or_prefix_of_prefix h wtext
      exact absurd comparable.symm
        (beginL.not_isPrefix beginM apart (hws w List.mem_cons_self) ha)
  | cons v vs ih =>
    have vtext : v <+: (v :: vs).flatten ++ a :=
      List.append_assoc v vs.flatten a ▸ List.prefix_append v _
    cases ws with
    | nil =>
      exact absurd (Or.inl (vtext.trans h)) (beginL.not_isPrefix beginM apart
        (hvs v List.mem_cons_self) hb)
    | cons w ws =>
      have wtext : w <+: (w :: ws).flatten ++ b :=
        List.append_assoc w ws.flatten b ▸ List.prefix_append w _
      obtain rfl : v = w :=
        hL.unique (hvs v List.mem_cons_self) (hws w List.mem_cons_self) (vtext.trans h) wtext
      have behind : vs.flatten ++ a <+: ws.flatten ++ b := by
        refine (List.prefix_append_right_inj v).1 ?_
        rwa [← List.append_assoc, ← List.append_assoc]
      have same := ih (fun u hu => hvs u (List.mem_cons_of_mem v hu)) ws
        (fun u hu => hws u (List.mem_cons_of_mem v hu)) behind
      show v ++ vs.flatten ++ a = v ++ ws.flatten ++ b
      rw [List.append_assoc, List.append_assoc]
      exact congrArg (v ++ ·) same

end PrefixFree

end Prefixes

end RuleLexer.Regex
