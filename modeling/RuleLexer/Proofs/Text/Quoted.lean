import Mathlib.Data.List.Chain
import RuleLexer.Proofs.Text.Digits
import RuleLexer.Text.Quoted

/-!
# Quoted texts are equal only if the texts are

Between the quotes, a character is shown as itself, by a letter behind a backslash, or by its code
point (`Text.Shows`). How a character is shown tells it apart from every other one, whatever follows:
the first character says whether it is shown as itself, the second whether by a letter or by its code
point, and a code point ends with the first brace (`Shows.inj`). So the shown characters can be read
off one after the other (`Text.flatMap_quotedChar_inj`).

What a quoted text shows has no line feed (`Text.feed_not_mem_quoted`), and in it a quote stands only
directly behind a backslash (`Text.isChain_flatMap_quotedChar`). By the latter the quote that opens
the text can be told from all others, provided that no backslash stands in front of it.
-/

namespace RuleLexer.Text

variable {c d : Char} {u v cs ds xs ys : List Char}

/-! ### Texts that are cut at a character -/

/-- Where a character occurs first, a text can be cut in one way. -/
theorem cut_first_inj (hxs : c ∉ xs) (hys : c ∉ ys) (h : xs ++ c :: cs = ys ++ c :: ds) :
    xs = ys ∧ cs = ds := by
  induction xs generalizing ys with
  | nil =>
    cases ys with
    | nil => exact ⟨rfl, (List.cons.inj h).2⟩
    | cons y ys =>
      obtain ⟨rfl, -⟩ := List.cons.inj h
      exact absurd List.mem_cons_self hys
  | cons x xs ih =>
    cases ys with
    | nil =>
      obtain ⟨rfl, -⟩ := List.cons.inj h
      exact absurd List.mem_cons_self hxs
    | cons y ys =>
      obtain ⟨rfl, htail⟩ := List.cons.inj h
      obtain ⟨rfl, hrest⟩ := ih (fun hmem => hxs (List.mem_cons_of_mem _ hmem))
        (fun hmem => hys (List.mem_cons_of_mem _ hmem)) htail
      exact ⟨rfl, hrest⟩

/-- Where a character occurs last, a text can be cut in one way. -/
theorem cut_last_inj (hcs : c ∉ cs) (hds : c ∉ ds) (h : xs ++ c :: cs = ys ++ c :: ds) :
    xs = ys ∧ cs = ds := by
  -- read backwards, it is where the character occurs first
  have hreverse : cs.reverse ++ c :: xs.reverse = ds.reverse ++ c :: ys.reverse := by
    simpa using congrArg List.reverse h
  obtain ⟨hbehind, hfront⟩ :=
    cut_first_inj (mt List.mem_reverse.1 hcs) (mt List.mem_reverse.1 hds) hreverse
  exact ⟨List.reverse_injective hfront, List.reverse_injective hbehind⟩

/-! ### How a character is shown -/

/-- The characters that are shown by a letter, with their letters. -/
def letters : List (Char × Char) :=
  [('\x00', '0'), ('\t', 't'), ('\r', 'r'), ('\n', 'n'), ('"', '"'), ('\\', '\\')]

/-- **How a character is shown** between quotes. -/
inductive Shows : Char → List Char → Prop
  /-- It is shown as itself. -/
  | plain {c : Char} (hquote : c ≠ '"') (hslash : c ≠ '\\') (hfeed : c ≠ '\n') : Shows c [c]
  /-- It is shown by a letter. -/
  | letter {c l : Char} (h : (c, l) ∈ letters) : Shows c ['\\', l]
  /-- It is shown by its code point. -/
  | number (c : Char) : Shows c ('\\' :: 'u' :: '\x7b' :: (hexDigits c.toNat ++ ['\x7d']))

/-- A branch for one character that a letter stands for, in front of the branches for all others. -/
theorem shows_ite {l : Char} (hletter : (d, l) ∈ letters) (hother : c ≠ d → Shows c u) :
    Shows c (if c = d then ['\\', l] else u) := by
  by_cases h : c = d
  · rw [if_pos h, h]
    exact .letter hletter
  · rw [if_neg h]
    exact hother h

theorem shows_quotedChar (c : Char) : Shows c (quotedChar c) := by
  unfold quotedChar
  refine shows_ite (by decide) fun _ => shows_ite (by decide) fun _ => shows_ite (by decide) fun _ =>
    shows_ite (by decide) fun hfeed => shows_ite (by decide) fun hquote => shows_ite (by decide)
      fun hslash => ?_
  -- no letter stands for the character
  split
  · exact .number c
  · exact .plain hquote hslash hfeed

/-- A letter shows one character, and is not the one that a code point begins with. -/
theorem letters_inj : ∀ p ∈ letters, p.2 ≠ 'u' ∧ ∀ q ∈ letters, p.2 = q.2 → p.1 = q.1 := by
  decide

/-- **How a character is shown tells it apart** from every other one, whatever follows. -/
theorem Shows.inj (hu : Shows c u) (hv : Shows d v) (h : u ++ xs = v ++ ys) : c = d ∧ xs = ys := by
  cases hu with
  | plain _ hslash _ =>
    cases hv with
    | plain => exact List.cons.inj h
    | letter | number => exact absurd (List.cons.inj h).1 hslash
  | letter hl =>
    cases hv with
    | plain _ hslash _ => exact absurd (List.cons.inj h).1.symm hslash
    | letter hl' =>
      obtain ⟨heq, hrest⟩ := List.cons.inj (List.cons.inj h).2
      exact ⟨(letters_inj _ hl).2 _ hl' heq, hrest⟩
    | number =>
      obtain ⟨heq, -⟩ := List.cons.inj (List.cons.inj h).2
      exact absurd heq (letters_inj _ hl).1
  | number =>
    cases hv with
    | plain _ hslash _ => exact absurd (List.cons.inj h).1.symm hslash
    | letter hl' =>
      obtain ⟨heq, -⟩ := List.cons.inj (List.cons.inj h).2
      exact absurd heq.symm (letters_inj _ hl').1
    | number =>
      have hbrace : ∀ n, '\x7d' ∉ hexDigits n := fun n => not_mem_hexDigits (by decide)
      have hbehind := (List.cons.inj (List.cons.inj (List.cons.inj h).2).2).2
      have hcut : hexDigits c.toNat ++ '\x7d' :: xs = hexDigits d.toNat ++ '\x7d' :: ys := by
        rwa [List.append_cons, List.append_cons (hexDigits d.toNat)]
      obtain ⟨hdigits, hrest⟩ := cut_first_inj (hbrace _) (hbrace _) hcut
      exact ⟨Char.toNat_inj.1 (hexDigits_inj hdigits), hrest⟩

theorem Shows.ne_nil (h : Shows c u) : u ≠ [] := by
  cases h <;> exact List.cons_ne_nil _ _

/-- **What is shown of a text tells it apart** from every other one. -/
theorem flatMap_quotedChar_inj (h : cs.flatMap quotedChar = ds.flatMap quotedChar) : cs = ds := by
  induction cs generalizing ds with
  | nil =>
    cases ds with
    | nil => rfl
    | cons d ds =>
      rw [List.flatMap_nil, List.flatMap_cons, eq_comm, List.append_eq_nil_iff] at h
      exact absurd h.1 (shows_quotedChar d).ne_nil
  | cons c cs ih =>
    cases ds with
    | nil =>
      rw [List.flatMap_nil, List.flatMap_cons, List.append_eq_nil_iff] at h
      exact absurd h.1 (shows_quotedChar c).ne_nil
    | cons d ds =>
      rw [List.flatMap_cons, List.flatMap_cons] at h
      obtain ⟨rfl, hrest⟩ := (shows_quotedChar c).inj (shows_quotedChar d) h
      rw [ih hrest]

/-! ### What is not shown -/

/-- A quote stands only directly behind a backslash. -/
def Guards (front c : Char) : Prop := c = '"' → front = '\\'

/-- Characters that are no quotes can be put in front. -/
theorem isChain_append (hw : '"' ∉ u) (hrest : ∀ front, (front :: xs).IsChain Guards)
    (front : Char) : (front :: (u ++ xs)).IsChain Guards := by
  induction u generalizing front with
  | nil => exact hrest front
  | cons c u ih =>
    refine List.isChain_cons_cons.2 ⟨fun hquote => ?_, ih (fun hmem => hw ?_) c⟩
    · exact absurd (hquote ▸ List.mem_cons_self) hw
    · exact List.mem_cons_of_mem c hmem

/-- How a character is shown keeps quotes behind backslashes. -/
theorem Shows.isChain_append (h : Shows c u) (hrest : ∀ front, (front :: xs).IsChain Guards)
    (front : Char) : (front :: (u ++ xs)).IsChain Guards := by
  cases h with
  | plain hquote => exact Text.isChain_append (by simpa using hquote.symm) hrest front
  | letter =>
    -- the letter may be a quote, but the backslash stands in front of it
    refine List.isChain_cons_cons.2 ⟨fun hquote => absurd hquote (by decide), ?_⟩
    exact List.isChain_cons_cons.2 ⟨fun _ => rfl, hrest _⟩
  | number =>
    have hdigits : '"' ∉ hexDigits c.toNat := not_mem_hexDigits (by decide)
    exact Text.isChain_append (by simpa using hdigits) hrest front

/-- **In what is shown of a text**, a quote stands only directly behind a backslash. -/
theorem isChain_flatMap_quotedChar (front : Char) (cs : List Char) :
    (front :: cs.flatMap quotedChar).IsChain Guards := by
  induction cs generalizing front with
  | nil => exact List.isChain_singleton front
  | cons c cs ih =>
    rw [List.flatMap_cons]
    exact (shows_quotedChar c).isChain_append ih front

/-- How a character is shown has no line feed. -/
theorem Shows.feed_not_mem (h : Shows c u) : '\n' ∉ u := by
  cases h with
  | plain _ _ hfeed => simpa using hfeed.symm
  | letter h =>
    have hletters : ∀ p ∈ letters, p.2 ≠ '\n' := by decide
    simpa using (hletters _ h).symm
  | number =>
    have hdigits : '\n' ∉ hexDigits c.toNat := not_mem_hexDigits (by decide)
    simpa using hdigits

/-- **A quoted text stays on its line.** -/
theorem feed_not_mem_quoted (s : String) : '\n' ∉ (quoted s).toList := by
  rw [quoted, String.toList_ofList]
  intro hmem
  rcases List.mem_cons.1 hmem with hmem | hmem
  · exact absurd hmem (by decide)
  · rcases List.mem_append.1 hmem with hmem | hmem
    · obtain ⟨c, -, hc⟩ := List.mem_flatMap.1 hmem
      exact (shows_quotedChar c).feed_not_mem hc
    · exact absurd hmem (by decide)

end RuleLexer.Text
