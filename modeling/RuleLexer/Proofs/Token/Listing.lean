import Mathlib.Logic.Function.Basic
import RuleLexer.Listing
import RuleLexer.Proofs.Text.Quoted

/-!
# Lists of tokens with a line for each

The kind of a token is displayed as it is, and may itself look like the display of another token. A
display can still be read in one way only, from its end: the line of the token is the digits behind
the last at-sign; in front of it, the last quote that does not stand behind a backslash is the one
that opens the value; and what stands before the parenthesis in front of that is the kind.

So the display tells tokens apart (`Token.display_injective`). If the kinds have no line feed, then
no display has one, and a list of tokens can be read off its lines. The main statement,
`Token.simple_listing_inj`, says both.
-/

namespace RuleLexer.Token

open Text (quotedChar)

variable {t u : Token} {ts us : List Token}

/-- What is displayed of a token: the kind, what is shown of the value between parentheses and quotes,
and the digits of the line. -/
theorem toList_display (t : Token) : t.display.toList =
    t.kind.toList ++ '(' :: '"' :: (t.value.toList.flatMap quotedChar ++
      '"' :: ')' :: ' ' :: '@' :: (toString t.line).toList) := by
  have hopen : "(".toList = ['('] := rfl
  have hclose : ") @".toList = [')', ' ', '@'] := rfl
  rw [display, String.toList_append, String.toList_append, String.toList_append,
    String.toList_append, hopen, hclose, Text.quoted, String.toList_ofList]
  simp only [List.append_assoc, List.cons_append, List.nil_append]

/-! ### Displays -/

/-- **The quote that opens a value** can be told from all others: it alone stands behind no
backslash. -/
theorem cut_open_inj {kind kind' cs cs' : List Char}
    (h : kind ++ '(' :: '"' :: cs.flatMap quotedChar =
      kind' ++ '(' :: '"' :: cs'.flatMap quotedChar) :
    kind = kind' ∧ cs.flatMap quotedChar = cs'.flatMap quotedChar := by
  -- of the two quotes, the one further in front would leave the other among the shown characters
  have hlast : ∀ {front behind : List Char} {ds : List Char},
      '(' :: '"' :: ds.flatMap quotedChar = front ++ '(' :: '"' :: behind → front = [] := by
    intro front behind ds heq
    cases front with
    | nil => rfl
    | cons c front =>
      obtain ⟨rfl, hbehind⟩ := List.cons.inj heq
      have hchain : ('"' :: ds.flatMap quotedChar).IsChain Text.Guards :=
        Text.isChain_flatMap_quotedChar '"' ds
      rw [hbehind] at hchain
      have hpair := List.isChain_cons_cons.1 (List.isChain_append.1 hchain).2.1
      exact absurd (hpair.1 rfl) (by decide)
  rcases List.append_eq_append_iff.1 h with ⟨front, hkind, hbehind⟩ | ⟨front, hkind, hbehind⟩
  · obtain rfl := hlast hbehind
    rw [List.append_nil] at hkind
    exact ⟨hkind.symm, (List.cons.inj (List.cons.inj hbehind).2).2⟩
  · obtain rfl := hlast hbehind
    rw [List.append_nil] at hkind
    exact ⟨hkind, (List.cons.inj (List.cons.inj hbehind).2).2.symm⟩

/-- **What is displayed of a token tells it apart** from every other one, whatever its kind and its
value contain. -/
theorem display_injective : Function.Injective display := by
  intro t u h
  have hchars : t.display.toList = u.display.toList := congrArg String.toList h
  rw [toList_display, toList_display] at hchars
  have hassoc : ∀ kind cs digits : List Char,
      kind ++ '(' :: '"' :: (cs ++ '"' :: ')' :: ' ' :: '@' :: digits) =
        (kind ++ '(' :: '"' :: cs ++ ['"', ')', ' ']) ++ '@' :: digits := by simp
  rw [hassoc, hassoc] at hchars
  -- from the end: the digits, what closes the value, the value and the kind
  have hat : ∀ n, '@' ∉ (toString n).toList := Text.not_mem_toString rfl
  obtain ⟨hfront, hline⟩ := Text.cut_last_inj (hat t.line) (hat u.line) hchars
  obtain ⟨hkind, hvalue⟩ := cut_open_inj (List.append_cancel_right hfront)
  have hkind : t.kind = u.kind := String.toList_inj.1 hkind
  have hvalue : t.value = u.value := String.toList_inj.1 (Text.flatMap_quotedChar_inj hvalue)
  have hline : t.line = u.line := Text.toString_inj hline
  obtain ⟨kind, value, line⟩ := t
  obtain ⟨kind', value', line'⟩ := u
  subst hkind hvalue hline
  rfl

/-! ### Lines -/

/-- The display of a token whose kind has no line feed stays on its line. -/
theorem feed_not_mem_display (h : '\n' ∉ t.kind.toList) : '\n' ∉ t.display.toList := by
  have hopen : '\n' ∉ "(".toList := by decide +kernel
  have hclose : '\n' ∉ ") @".toList := by decide +kernel
  rw [display, String.toList_append, String.toList_append, String.toList_append,
    String.toList_append]
  simp only [List.mem_append, not_or]
  exact ⟨⟨⟨⟨h, hopen⟩, Text.feed_not_mem_quoted t.value⟩, hclose⟩, Text.not_mem_toString rfl t.line⟩

theorem toList_simpleLines (ts : List Token) :
    (simpleLines ts).toList = ts.flatMap fun t => t.display.toList ++ ['\n'] := by
  have hfeed : "\n".toList = ['\n'] := rfl
  rw [simpleLines, String.toList_join, List.flatMap_map]
  simp only [String.toList_append, hfeed]

/-- **A list of tokens can be read off its lines**, if the kinds have no line feed. -/
theorem simpleLines_inj (hts : ∀ t ∈ ts, '\n' ∉ t.kind.toList)
    (hus : ∀ u ∈ us, '\n' ∉ u.kind.toList) (h : simpleLines ts = simpleLines us) : ts = us := by
  have hchars : (simpleLines ts).toList = (simpleLines us).toList := congrArg String.toList h
  rw [toList_simpleLines, toList_simpleLines] at hchars
  clear h
  induction ts generalizing us with
  | nil =>
    cases us with
    | nil => rfl
    | cons u us => exact absurd hchars (by simp)
  | cons t ts ih =>
    cases us with
    | nil => exact absurd hchars (by simp)
    | cons u us =>
      obtain ⟨ht, hts⟩ := List.forall_mem_cons.1 hts
      obtain ⟨hu, hus⟩ := List.forall_mem_cons.1 hus
      rw [List.flatMap_cons, List.flatMap_cons, ← List.append_cons, ← List.append_cons] at hchars
      -- the first line of either list ends at the first line feed
      obtain ⟨hdisplay, hrest⟩ :=
        Text.cut_first_inj (feed_not_mem_display ht) (feed_not_mem_display hu) hchars
      rw [display_injective (String.toList_inj.1 hdisplay), ih hts hus hrest]

/-- **Lists of tokens with a line for each** are the same only if the lists are, provided that no kind
has a line feed; and displays are the same only if the tokens are, without any such condition. -/
theorem simple_listing_inj :
    Function.Injective display ∧ ∀ ts us : List Token, (∀ t ∈ ts, '\n' ∉ t.kind.toList) →
      (∀ u ∈ us, '\n' ∉ u.kind.toList) → (listing ts .simple = listing us .simple ↔ ts = us) := by
  refine ⟨display_injective, fun ts us hts hus => ⟨simpleLines_inj hts hus, ?_⟩⟩
  rintro rfl
  rfl

/-- A parenthesis and a quote may end the kind or begin the value; and one value with a line feed is
not the same as two tokens. -/
theorem simple_listing_inj_quotes :
    (∀ t ∈ [Token.mk "A(\"" "x" 0], '\n' ∉ t.kind.toList) ∧
    (∀ u ∈ [Token.mk "A" "(\"x" 0], '\n' ∉ u.kind.toList) ∧
    listing [⟨"A(\"", "x", 0⟩] .simple ≠ listing [⟨"A", "(\"x", 0⟩] .simple ∧
    listing [⟨"A", "x\") @0\nA(\"y", 0⟩] .simple ≠ listing [⟨"A", "x", 0⟩, ⟨"A", "y", 0⟩] .simple := by
  have hkind : ∀ t ∈ [Token.mk "A(\"" "x" 0], '\n' ∉ t.kind.toList := by decide +kernel
  have hvalue : ∀ u ∈ [Token.mk "A" "(\"x" 0], '\n' ∉ u.kind.toList := by decide +kernel
  have hone : ∀ t ∈ [Token.mk "A" "x\") @0\nA(\"y" 0], '\n' ∉ t.kind.toList := by decide +kernel
  have htwo : ∀ u ∈ [Token.mk "A" "x" 0, Token.mk "A" "y" 0], '\n' ∉ u.kind.toList := by
    decide +kernel
  refine ⟨hkind, hvalue, fun h => ?_, fun h => ?_⟩
  · exact absurd ((simple_listing_inj.2 _ _ hkind hvalue).1 h) (by decide)
  · exact absurd ((simple_listing_inj.2 _ _ hone htwo).1 h) (by decide)

end RuleLexer.Token
