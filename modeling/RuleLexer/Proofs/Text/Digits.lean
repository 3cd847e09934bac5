import Mathlib.Data.Nat.Digits.Defs
import RuleLexer.Text.Hex

/-!
# Digits

A number is written in decimal digits in texts, and in hexadecimal digits where a character is shown
by its code point. Either way the digits tell numbers apart (`Text.toString_inj`,
`Text.hexDigits_inj`), and there are no characters but digits among them (`Text.isDigit_of_mem`,
`Text.exists_of_mem_hexDigits`).
-/

namespace RuleLexer.Text

variable {c : Char} {m n : Nat}

/-! ### Decimal digits -/

theorem toList_toString (n : Nat) : (toString n).toList = Nat.toDigits 10 n := by
  simp

theorem isDigit_of_mem (hc : c ∈ (toString n).toList) : c.isDigit = true := by
  rw [toList_toString] at hc
  exact Nat.isDigit_of_mem_toDigits (by decide) (by decide) hc

theorem not_mem_toString (hc : c.isDigit = false) (n : Nat) : c ∉ (toString n).toList := by
  intro hmem
  rw [isDigit_of_mem hmem] at hc
  exact Bool.false_ne_true hc.symm

/-- **Decimal digits tell numbers apart.** -/
theorem toString_inj (h : (toString m).toList = (toString n).toList) : m = n := by
  have hcount : ∀ n, Nat.ofDigitChars 10 (Nat.toDigits 10 n) 0 = n := fun n =>
    Nat.ofDigitChars_toDigits (by decide) (by decide)
  rw [toList_toString, toList_toString] at h
  rw [← hcount m, h, hcount]

/-! ### Hexadecimal digits -/

/-- What is written of a number is made up of the sixteen digits. -/
theorem exists_of_mem_hexDigits (hc : c ∈ hexDigits n) :
    ∃ d < 16, c = Nat.digitChar d := by
  induction n using Nat.strongRecOn with
  | ind n ih =>
    unfold hexDigits at hc ih
    rcases Nat.lt_or_ge n 16 with hlt | hge
    · rw [Nat.toDigits_of_lt_base hlt] at hc
      exact ⟨n, hlt, List.mem_singleton.1 hc⟩
    · rw [Nat.toDigits_of_base_le (by decide) hge] at hc
      rcases List.mem_append.1 hc with hc | hc
      · exact ih (n / 16) (by omega) hc
      · exact ⟨n % 16, Nat.mod_lt n (by decide), List.mem_singleton.1 hc⟩

theorem not_mem_hexDigits (hc : ∀ d < 16, c ≠ Nat.digitChar d) : c ∉ hexDigits n := by
  intro hmem
  obtain ⟨d, hd, heq⟩ := exists_of_mem_hexDigits hmem
  exact hc d hd heq

/-- **Hexadecimal digits tell numbers apart.** -/
theorem hexDigits_inj (h : hexDigits m = hexDigits n) : m = n := by
  have hdigit : ∀ a < 16, ∀ b < 16, Nat.digitChar a = Nat.digitChar b → a = b := by decide
  unfold hexDigits at h
  induction m using Nat.strongRecOn generalizing n with
  | ind m ih =>
    -- a number below the base has one digit, any other has more
    rcases Nat.lt_or_ge m 16 with hm | hm
    · rcases Nat.lt_or_ge n 16 with hn | hn
      · rw [Nat.toDigits_of_lt_base hm, Nat.toDigits_of_lt_base hn] at h
        exact hdigit m hm n hn (List.cons.inj h).1
      · rw [Nat.toDigits_of_lt_base hm, Nat.toDigits_of_base_le (by decide) hn] at h
        exact absurd (List.append_eq_singleton_iff.1 h.symm) (by simp [Nat.toDigits_ne_nil])
    · rcases Nat.lt_or_ge n 16 with hn | hn
      · rw [Nat.toDigits_of_lt_base hn, Nat.toDigits_of_base_le (by decide) hm] at h
        exact absurd (List.append_eq_singleton_iff.1 h) (by simp [Nat.toDigits_ne_nil])
      · rw [Nat.toDigits_of_base_le (by decide) hm, Nat.toDigits_of_base_le (by decide) hn] at h
        obtain ⟨hfront, hlast⟩ := List.append_inj' h rfl
        have hquotient : m / 16 = n / 16 := ih (m / 16) (by omega) hfront
        have hremainder : m % 16 = n % 16 := hdigit _ (Nat.mod_lt m (by decide)) _
          (Nat.mod_lt n (by decide)) (List.cons.inj hlast).1
        omega

end RuleLexer.Text
