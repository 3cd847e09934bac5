/-!
# Byte offsets

A place in a text can be given by the number of bytes before it, each character taking as many bytes
as its encoding in UTF-8. Not every number of bytes is a place: it may point into a character, or
behind the end.
-/

namespace RuleLexer.Text

/-- The number of bytes that characters take. -/
def byteLength : List Char → Nat
  | [] => 0
  | c :: cs => c.utf8Size + byteLength cs

@[simp] theorem byteLength_nil : byteLength [] = 0 := rfl

@[simp] theorem byteLength_cons (c : Char) (cs : List Char) :
    byteLength (c :: cs) = c.utf8Size + byteLength cs := rfl

@[simp] theorem byteLength_append (as bs : List Char) :
    byteLength (as ++ bs) = byteLength as + byteLength bs := by
  induction as with
  | nil => simp
  | cons a as ih => simp [ih, Nat.add_assoc]

/-- **What follows an offset**, if the offset is a place in the text. -/
def after? : List Char → (offset : Nat) → Option (List Char)
  | cs, 0 => some cs
  | [], _ + 1 => none
  | c :: cs, offset => if c.utf8Size ≤ offset then after? cs (offset - c.utf8Size) else none

/-- An offset is a place exactly when some beginning of the text takes that many bytes. -/
theorem after?_eq_some_iff {text rest : List Char} {offset : Nat} :
    after? text offset = some rest ↔ ∃ start, text = start ++ rest ∧ byteLength start = offset := by
  induction text generalizing offset with
  | nil =>
    cases offset with
    | zero =>
      simp only [after?, Option.some.injEq]
      constructor
      · rintro rfl
        exact ⟨[], rfl, rfl⟩
      · rintro ⟨start, h, -⟩
        exact (List.append_eq_nil_iff.1 h.symm).2.symm
    | succ n =>
      simp only [after?, reduceCtorEq, false_iff]
      rintro ⟨start, h, len⟩
      obtain ⟨rfl, -⟩ := List.append_eq_nil_iff.1 h.symm
      simp at len
  | cons c cs ih =>
    have pos : 0 < c.utf8Size := c.utf8Size_pos
    cases offset with
    | zero =>
      simp only [after?, Option.some.injEq]
      constructor
      · rintro rfl
        exact ⟨[], rfl, rfl⟩
      · rintro ⟨start, h, len⟩
        cases start with
        | nil => exact h
        | cons d start => simp only [byteLength_cons] at len; have := d.utf8Size_pos; omega
    | succ n =>
      simp only [after?]
      split
      · next le =>
        rw [ih]
        constructor
        · rintro ⟨start, rfl, len⟩
          exact ⟨c :: start, rfl, by simp only [byteLength_cons]; omega⟩
        · rintro ⟨start, h, len⟩
          cases start with
          | nil => simp at len
          | cons d start =>
            obtain ⟨rfl, rfl⟩ := List.cons.inj h
            exact ⟨start, rfl, by simp only [byteLength_cons] at len; omega⟩
      · next nle =>
        simp only [reduceCtorEq, false_iff]
        rintro ⟨start, h, len⟩
        cases start with
        | nil => simp at len
        | cons d start =>
          obtain ⟨rfl, rfl⟩ := List.cons.inj h
          simp only [byteLength_cons] at len
          omega

end RuleLexer.Text
