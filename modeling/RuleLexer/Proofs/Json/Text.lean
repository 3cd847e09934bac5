import RuleLexer.Json.Parser

/-!
# Written texts in JSON

A character of a string is written in one of three ways: as itself, behind a backslash by a letter,
or behind a backslash by its number (`Json.Spells`). Either way it stands for the character, whatever
follows (`Spells.decode`). Characters that are written so can stand between quotes (`Json.IsRaw`), and
a string ends at the quote behind them (`IsRaw.rawString`).

Main statements: `Json.decode_encode` — a text is what its written form stands for — and
`Json.isRaw_encode` — its written form can stand between quotes.
-/

namespace RuleLexer.Json

/-- **A character is written** as some others. One whose number needs more than four digits, or is
that of a surrogate, is not written by its number here. -/
inductive Spells : Char → List Char → Prop
  /-- A character stands for itself. -/
  | plain {c : Char} (printable : 0x20 ≤ c.toNat) (noQuote : c ≠ '"') (noBackslash : c ≠ '\\') :
      Spells c [c]
  /-- A letter behind a backslash stands for it. -/
  | short {c e : Char} (h : escaped? e = some c) : Spells c ['\\', e]
  /-- Its number stands for it. -/
  | number {c a₁ a₂ a₃ a₄ : Char} (h : hexFour? a₁ a₂ a₃ a₄ = some c.toNat)
      (single : c.toNat < 0xD800) : Spells c ['\\', 'u', a₁, a₂, a₃, a₄]

/-- **Characters can stand between quotes.** Here the number behind a backslash may be any. -/
inductive IsRaw : List Char → Prop
  /-- There are none. -/
  | nil : IsRaw []
  /-- The first one stands for itself. -/
  | plain {c : Char} {raw : List Char} (printable : 0x20 ≤ c.toNat) (noQuote : c ≠ '"')
      (noBackslash : c ≠ '\\') (more : IsRaw raw) : IsRaw (c :: raw)
  /-- The first two stand for another one. -/
  | short {c e : Char} {raw : List Char} (h : escaped? e = some c) (more : IsRaw raw) :
      IsRaw ('\\' :: e :: raw)
  /-- The first six are a number. -/
  | number {a₁ a₂ a₃ a₄ : Char} {n : Nat} {raw : List Char} (h : hexFour? a₁ a₂ a₃ a₄ = some n)
      (more : IsRaw raw) : IsRaw ('\\' :: 'u' :: a₁ :: a₂ :: a₃ :: a₄ :: raw)

variable {c e a₁ a₂ a₃ a₄ : Char} {unit raw rest left cs : List Char} {n : Nat}

theorem ne_u_of_escaped? (h : escaped? e = some c) : e ≠ 'u' := by
  rintro rfl
  exact absurd h (by simp [escaped?])

/-! ### What a written character stands for -/

theorem decode_plain (h : c ≠ '\\') (hrest : decode rest = some cs) :
    decode (c :: rest) = some (c :: cs) := by
  rw [decode, hrest]
  · rfl
  all_goals
    intros
    contradiction

theorem decode_short (h : escaped? e = some c) (hrest : decode rest = some cs) :
    decode ('\\' :: e :: rest) = some (c :: cs) := by
  have hu := ne_u_of_escaped? h
  rw [decode, h, hrest]
  · rfl
  all_goals
    intros
    contradiction

theorem decode_number (h : hexFour? a₁ a₂ a₃ a₄ = some n) (single : n < 0xD800)
    (hrest : decode rest = some cs) :
    decode ('\\' :: 'u' :: a₁ :: a₂ :: a₃ :: a₄ :: rest) = some (Char.ofNat n :: cs) := by
  have hhigh : ¬ (0xD800 ≤ n ∧ n < 0xDC00) := by omega
  have hlow : ¬ (0xDC00 ≤ n ∧ n < 0xE000) := by omega
  have hnone : ¬ (0xD800 ≤ n ∧ n < 0xE000) := by omega
  -- another number behind this one could be the second half of a pair
  by_cases hpair : ∃ b₁ b₂ b₃ b₄ rest', rest = '\\' :: 'u' :: b₁ :: b₂ :: b₃ :: b₄ :: rest'
  · obtain ⟨b₁, b₂, b₃, b₄, rest', rfl⟩ := hpair
    rw [decode, h]
    simp only [Option.bind_eq_bind, Option.bind_some, if_neg hhigh, if_neg hlow, hrest]
    rfl
  · rw [decode, h]
    · simp only [Option.bind_eq_bind, Option.bind_some, if_neg hnone, hrest]
      rfl
    · intro b₁ b₂ b₃ b₄ rest' hrest'
      exact hpair ⟨b₁, b₂, b₃, b₄, rest', hrest'⟩

/-- **A written character stands for it**, in front of whatever stands for something. -/
theorem Spells.decode (h : Spells c unit) (hrest : Json.decode rest = some cs) :
    Json.decode (unit ++ rest) = some (c :: cs) := by
  cases h with
  | plain _ _ noBackslash => exact decode_plain noBackslash hrest
  | short h => exact decode_short h hrest
  | number h single =>
    have hdecode := decode_number h single hrest
    rwa [Char.ofNat_toNat] at hdecode

/-! ### How far a string goes -/

theorem rawString_plain (printable : 0x20 ≤ c.toNat) (noQuote : c ≠ '"') (noBackslash : c ≠ '\\')
    (hrest : rawString rest = some (raw, left)) : rawString (c :: rest) = some (c :: raw, left) := by
  have hstops : ¬ (c.toNat < 0x20 ∨ c = '\\') := by
    rintro (h | rfl)
    · omega
    · contradiction
  rw [rawString, if_neg hstops, hrest]
  · rfl
  all_goals
    intros
    contradiction

theorem rawString_short (h : escaped? e = some c) (hrest : rawString rest = some (raw, left)) :
    rawString ('\\' :: e :: rest) = some ('\\' :: e :: raw, left) := by
  have hu := ne_u_of_escaped? h
  rw [rawString, h, if_pos Option.isSome_some, hrest]
  · rfl
  all_goals
    intros
    contradiction

theorem rawString_number (h : hexFour? a₁ a₂ a₃ a₄ = some n)
    (hrest : rawString rest = some (raw, left)) :
    rawString ('\\' :: 'u' :: a₁ :: a₂ :: a₃ :: a₄ :: rest) =
      some ('\\' :: 'u' :: a₁ :: a₂ :: a₃ :: a₄ :: raw, left) := by
  rw [rawString, h, if_pos Option.isSome_some, hrest]
  rfl

/-- **A string ends at the quote behind it**, whatever follows. -/
theorem IsRaw.rawString (h : IsRaw raw) (rest : List Char) :
    Json.rawString (raw ++ '"' :: rest) = some (raw, rest) := by
  induction h with
  | nil => rfl
  | plain printable noQuote noBackslash _ ih =>
    exact rawString_plain printable noQuote noBackslash ih
  | short h _ ih => exact rawString_short h ih
  | number h _ ih => exact rawString_number h ih

/-- What a character is written as can stand between quotes. -/
theorem Spells.isRaw (h : Spells c unit) (more : IsRaw raw) : IsRaw (unit ++ raw) := by
  cases h with
  | plain printable noQuote noBackslash => exact .plain printable noQuote noBackslash more
  | short h => exact .short h more
  | number h single => exact .number h more

/-! ### The written form of a text -/

/-- The number of a control character is written with two zeros in front of its two digits. -/
theorem hexPadded_control : ∀ n < 0x20,
    Text.hexPadded 4 n = ['0', '0', Nat.digitChar (n / 16), Nat.digitChar (n % 16)] ∧
      hexFour? '0' '0' (Nat.digitChar (n / 16)) (Nat.digitChar (n % 16)) = some n := by
  decide

/-- **The written form of a character** is one that it is written as. -/
theorem spells_encodeChar (c : Char) : Spells c (encodeChar c) := by
  have eq_of_toNat : ∀ n, c.toNat = n → c = Char.ofNat n := fun n hn => by
    rw [← hn, Char.ofNat_toNat]
  -- one case for each branch: those with a letter, those with a number, and the others
  unfold encodeChar
  split
  · next h => exact h ▸ .short (e := '"') rfl
  split
  · next h => exact h ▸ .short (e := '\\') rfl
  split
  · next h => exact h ▸ .short (e := 'n') rfl
  split
  · next h => exact h ▸ .short (e := 'r') rfl
  split
  · next h => exact h ▸ .short (e := 't') rfl
  split
  · next h => exact eq_of_toNat _ h ▸ .short (e := 'b') rfl
  split
  · next h => exact eq_of_toNat _ h ▸ .short (e := 'f') rfl
  split
  · next h =>
    obtain ⟨hdigits, hnumber⟩ := hexPadded_control c.toNat h
    rw [hdigits]
    exact .number hnumber (by omega)
  · next noQuote noBackslash _ _ _ _ _ printable =>
    exact .plain (by omega) noQuote noBackslash

theorem encode_cons (c : Char) (cs : List Char) : encode (c :: cs) = encodeChar c ++ encode cs :=
  List.flatMap_cons ..

/-- **A text is what its written form stands for.** -/
theorem decode_encode (cs : List Char) : decode (encode cs) = some cs := by
  induction cs with
  | nil => rfl
  | cons c cs ih =>
    rw [encode_cons]
    exact (spells_encodeChar c).decode ih

/-- **The written form of a text can stand between quotes.** -/
theorem isRaw_encode (cs : List Char) : IsRaw (encode cs) := by
  induction cs with
  | nil => exact .nil
  | cons c cs ih =>
    rw [encode_cons]
    exact (spells_encodeChar c).isRaw ih

end RuleLexer.Json
