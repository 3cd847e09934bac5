import RuleLexer.Json.Parser
import RuleLexer.Proofs.Text.Digits

/-!
# Numbers in JSON

A number has a whole part, which may be negative, and may have a fraction and an exponent
(`Json.IsNumber`). It is read up to the first character that does not belong to it, and so as it was
written if nothing follows that could belong to it (`IsNumber.numberText`).

What stands for a natural number are its decimal digits. The first is a zero only if it is the only
one (`isWhole_toDigits`), and they are counted up to the natural number again (`count?_ofNat`).
-/

namespace RuleLexer.Json

variable {ds rest sign whole frac expo text : List Char} {c d : Char} {n : Nat}

/-! ### The parts of a number -/

/-- One digit or more. -/
structure IsDigits (ds : List Char) : Prop where
  /-- There is one. -/
  ne_nil : ds ≠ []
  /-- There is nothing else. -/
  isDigit : ∀ c ∈ ds, c.isDigit = true

/-- The whole part of a number begins with a zero only if that is all of it. -/
structure IsWhole (ds : List Char) : Prop extends IsDigits ds where
  /-- Nothing stands behind a leading zero. -/
  noLeadingZero : ∀ c more, ds ≠ '0' :: c :: more

/-- The fraction of a number. -/
inductive IsFraction : List Char → Prop
  /-- There is none. -/
  | missing : IsFraction []
  /-- Digits stand behind a point. -/
  | digits {ds : List Char} (h : IsDigits ds) : IsFraction ('.' :: ds)

/-- The exponent of a number. -/
inductive IsExponent : List Char → Prop
  /-- There is none. -/
  | missing : IsExponent []
  /-- Digits stand behind a letter. -/
  | digits {c : Char} {ds : List Char} (letter : c = 'e' ∨ c = 'E') (h : IsDigits ds) :
      IsExponent (c :: ds)
  /-- Digits stand behind a letter and a sign. -/
  | signed {c d : Char} {ds : List Char} (letter : c = 'e' ∨ c = 'E') (sign : d = '+' ∨ d = '-')
      (h : IsDigits ds) : IsExponent (c :: d :: ds)

/-- **The characters of a number**: a sign or none, a whole part, a fraction and an exponent. -/
inductive IsNumber : List Char → Prop
  /-- There is no sign. -/
  | unsigned {whole frac expo : List Char} (hwhole : IsWhole whole) (hfrac : IsFraction frac)
      (hexpo : IsExponent expo) : IsNumber (whole ++ (frac ++ expo))
  /-- There is a sign. -/
  | negative {whole frac expo : List Char} (hwhole : IsWhole whole) (hfrac : IsFraction frac)
      (hexpo : IsExponent expo) : IsNumber ('-' :: (whole ++ (frac ++ expo)))

/-- No digit follows. -/
def NoDigit (rest : List Char) : Prop := ∀ c more, rest = c :: more → c.isDigit = false

/-- **Nothing follows that could belong to a number.** -/
structure Ends (rest : List Char) : Prop where
  /-- No digit follows. -/
  noDigit : NoDigit rest
  /-- No point follows. -/
  noPoint : ∀ more, rest ≠ '.' :: more
  /-- No exponent follows. -/
  noExponent : ∀ c more, rest = c :: more → ¬ (c = 'e' ∨ c = 'E')

/-! ### Reading digits -/

theorem NoDigit.cons (h : c.isDigit = false) : NoDigit (c :: rest) := by
  rintro c' more ⟨⟩
  exact h

theorem takeWhile_digits (digits : ∀ c ∈ ds, c.isDigit = true) (noDigit : NoDigit rest) :
    (ds ++ rest).takeWhile Char.isDigit = ds := by
  rw [List.takeWhile_append_of_pos digits]
  cases rest with
  | nil => exact List.append_nil ds
  | cons c more => rw [List.takeWhile_cons_of_neg (by simp [noDigit c more rfl]), List.append_nil]

theorem dropWhile_digits (digits : ∀ c ∈ ds, c.isDigit = true) (noDigit : NoDigit rest) :
    (ds ++ rest).dropWhile Char.isDigit = rest := by
  rw [List.dropWhile_append_of_pos digits]
  cases rest with
  | nil => rfl
  | cons c more => rw [List.dropWhile_cons_of_neg (by simp [noDigit c more rfl])]

theorem IsDigits.someDigits (h : IsDigits ds) (noDigit : NoDigit rest) :
    Json.someDigits (ds ++ rest) = some (ds, rest) := by
  rw [Json.someDigits, takeWhile_digits h.isDigit noDigit, dropWhile_digits h.isDigit noDigit]
  cases ds with
  | nil => exact absurd rfl h.ne_nil
  | cons d ds => rfl

theorem IsWhole.wholePart (h : IsWhole ds) (noDigit : NoDigit rest) :
    Json.wholePart (ds ++ rest) = some (ds, rest) := by
  rw [Json.wholePart, takeWhile_digits h.isDigit noDigit, dropWhile_digits h.isDigit noDigit]
  split
  · exact absurd rfl h.ne_nil
  · exact absurd rfl (h.noLeadingZero _ _)
  · rfl

/-! ### Reading the parts behind the whole part -/

theorem IsFraction.fraction (h : IsFraction frac) (noDigit : NoDigit rest)
    (noPoint : ∀ more, rest ≠ '.' :: more) : Json.fraction (frac ++ rest) = some (frac, rest) := by
  cases h with
  | missing =>
    rw [List.nil_append, Json.fraction]
    exact noPoint
  | digits h =>
    rw [List.cons_append, Json.fraction, h.someDigits noDigit]
    rfl

theorem IsExponent.exponent (h : IsExponent expo) (ends : Ends rest) :
    Json.exponent (expo ++ rest) = some (expo, rest) := by
  cases h with
  | missing =>
    cases rest with
    | nil => rfl
    | cons c more =>
      change (if c = 'e' ∨ c = 'E' then _ else some ([], c :: more)) = _
      rw [if_neg (ends.noExponent c more rfl)]
  | digits letter h =>
    -- the first digit is no sign
    obtain ⟨d, ds, rfl⟩ := List.exists_cons_of_ne_nil h.ne_nil
    have hdigit := h.isDigit d List.mem_cons_self
    rw [List.cons_append, Json.exponent, if_pos letter, h.someDigits ends.noDigit]
    · rfl
    all_goals
      intro more heq
      obtain ⟨rfl, -⟩ := List.cons.inj heq
      exact absurd hdigit (by decide)
  | signed letter sign h =>
    obtain rfl | rfl := sign
    · rw [List.cons_append, List.cons_append, Json.exponent, if_pos letter,
        h.someDigits ends.noDigit]
      rfl
    · rw [List.cons_append, List.cons_append, Json.exponent, if_pos letter,
        h.someDigits ends.noDigit]
      rfl

/-- What stands behind a whole part begins with no digit. -/
theorem noDigit_behind (hfrac : IsFraction frac) (hexpo : IsExponent expo) (ends : Ends rest) :
    NoDigit (frac ++ (expo ++ rest)) := by
  cases hfrac with
  | digits => exact .cons rfl
  | missing =>
    cases hexpo with
    | missing => exact ends.noDigit
    | digits letter | signed letter =>
      obtain rfl | rfl := letter
      · exact .cons rfl
      · exact .cons rfl

/-- What stands behind a fraction begins with no point. -/
theorem noPoint_behind (hexpo : IsExponent expo) (ends : Ends rest) (more : List Char) :
    expo ++ rest ≠ '.' :: more := by
  cases hexpo with
  | missing => exact ends.noPoint more
  | digits letter | signed letter =>
    rintro ⟨⟩
    exact absurd letter (by decide)

/-! ### Reading numbers -/

/-- The parts behind the sign are read one after the other. -/
theorem read_parts (hwhole : IsWhole whole) (hfrac : IsFraction frac) (hexpo : IsExponent expo)
    (ends : Ends rest) :
    (do
      let (w, cs) ← wholePart (whole ++ (frac ++ expo) ++ rest)
      let (f, cs) ← fraction cs
      let (e, cs) ← exponent cs
      return (sign ++ w ++ f ++ e, cs)) = some (sign ++ (whole ++ (frac ++ expo)), rest) := by
  have hdigit : NoDigit (expo ++ rest) := noDigit_behind .missing hexpo ends
  have hpoint : ∀ more, expo ++ rest ≠ '.' :: more := noPoint_behind hexpo ends
  have hsplit : whole ++ (frac ++ expo) ++ rest = whole ++ (frac ++ (expo ++ rest)) := by
    simp only [List.append_assoc]
  rw [hsplit, hwhole.wholePart (noDigit_behind hfrac hexpo ends)]
  simp only [Option.bind_eq_bind, Option.bind_some, hfrac.fraction hdigit hpoint,
    hexpo.exponent ends, List.append_assoc]
  rfl

/-- **A number is read as it is written.** -/
theorem IsNumber.numberText (h : IsNumber text) (ends : Ends rest) :
    Json.numberText (text ++ rest) = some (text, rest) := by
  cases h with
  | negative hwhole hfrac hexpo => exact read_parts hwhole hfrac hexpo ends
  | unsigned hwhole hfrac hexpo =>
    unfold Json.numberText
    split
    next cs heq =>
      split at heq
      · next heq' =>
        -- a digit is no sign
        obtain ⟨d, ds, rfl⟩ := List.exists_cons_of_ne_nil hwhole.ne_nil
        obtain ⟨rfl, -⟩ := List.cons.inj heq'
        exact absurd (hwhole.isDigit '-' List.mem_cons_self) (by decide)
      · obtain ⟨rfl, rfl⟩ := Prod.mk.inj heq
        exact read_parts hwhole hfrac hexpo ends

/-! ### Natural numbers -/

/-- The first decimal digit of a natural number is a zero only for zero. -/
theorem toDigits_ne_zero_cons (hn : n ≠ 0) (more : List Char) :
    Nat.toDigits 10 n ≠ '0' :: more := by
  induction n using Nat.strongRecOn generalizing more with
  | ind n ih =>
    by_cases hlt : n < 10
    · have hdigit : ∀ d < 10, d ≠ 0 → Nat.digitChar d ≠ '0' := by decide
      rw [Nat.toDigits_of_lt_base hlt]
      intro heq
      exact hdigit n hlt hn (List.cons.inj heq).1
    · -- the first digit is that of the number without its last
      have hfewer := ih (n / 10) (by omega) (by omega)
      rw [Nat.toDigits_of_base_le (by decide) (Nat.le_of_not_lt hlt)]
      obtain ⟨d, ds, hds⟩ := List.exists_cons_of_ne_nil
        (Nat.toDigits_ne_nil : Nat.toDigits 10 (n / 10) ≠ [])
      rw [hds] at hfewer ⊢
      intro heq
      obtain ⟨rfl, -⟩ := List.cons.inj heq
      exact hfewer ds rfl

theorem isWhole_toDigits (n : Nat) : IsWhole (Nat.toDigits 10 n) where
  ne_nil := Nat.toDigits_ne_nil
  isDigit _ hc := Nat.isDigit_of_mem_toDigits (by decide) (by decide) hc
  noLeadingZero c more heq := by
    by_cases hn : n = 0
    · subst hn
      exact absurd heq (by simp)
    · exact toDigits_ne_zero_cons hn _ heq

/-- **What stands for a natural number** is a number. -/
theorem isNumber_toDigits (n : Nat) : IsNumber (Nat.toDigits 10 n) := by
  have h := IsNumber.unsigned (isWhole_toDigits n) .missing .missing
  rwa [List.append_nil, List.append_nil] at h

/-- **What stands for a natural number is counted up to it**, if it is in range. -/
theorem count?_ofNat (h : n ≤ maxCount) : (ofNat n).count? = some n := by
  have hall : (Nat.toDigits 10 n).all Char.isDigit = true :=
    List.all_eq_true.2 (isWhole_toDigits n).isDigit
  have hvalue : (Nat.toDigits 10 n).foldl (fun n c => n * 10 + (c.toNat - 0x30)) 0 = n := by
    calc (Nat.toDigits 10 n).foldl (fun n c => n * 10 + (c.toNat - 0x30)) 0
        = Nat.ofDigitChars 10 (Nat.toDigits 10 n) 0 := by
          simp only [Nat.ofDigitChars, Nat.mul_comm 10]
          rfl
      _ = n := Nat.ofDigitChars_toDigits (by decide) (by decide)
  rw [ofNat, Text.toList_toString, count?, hall, hvalue]
  rw [Bool.true_and, decide_eq_true h]
  rfl

end RuleLexer.Json
