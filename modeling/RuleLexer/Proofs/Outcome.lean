/-!
# Outcomes

A computation that can fail gives a value or an error. The lemmas say where the outcome of a
sequence of two computations comes from: a value goes through both, and an error stems from the
first of the two that fails.

Where the values are lists, two computations can be *joined*: the second is run after the first, and
its list is put behind the other. Joining is associative, and gives nothing new where one of the two
lists is empty.

Two outcomes are *alike* if both are values or both are errors, related as is said for either. What
is alike stays so when it goes on alike (`Alike.bind`).
-/

namespace RuleLexer

variable {ε ε' α β γ δ : Type}

theorem exists_of_isOk {x : Except ε α} (h : x.isOk = true) : ∃ a, x = .ok a := by
  cases x with
  | error e => cases h
  | ok a => exact ⟨a, rfl⟩

theorem bind_eq_ok_iff {x : Except ε α} {f : α → Except ε β} {b : β} :
    (x >>= f) = .ok b ↔ ∃ a, x = .ok a ∧ f a = .ok b := by
  cases x with
  | error e =>
    constructor
    · rintro ⟨⟩
    · rintro ⟨a, ⟨⟩, -⟩
  | ok a =>
    constructor
    · intro h
      exact ⟨a, rfl, h⟩
    · rintro ⟨a', ha, h⟩
      obtain rfl := Except.ok.inj ha
      exact h

theorem bind_eq_error_iff {x : Except ε α} {f : α → Except ε β} {e : ε} :
    (x >>= f) = .error e ↔ x = .error e ∨ ∃ a, x = .ok a ∧ f a = .error e := by
  cases x with
  | error e' =>
    constructor
    · rintro ⟨⟩
      exact Or.inl rfl
    · rintro (h | ⟨a, ⟨⟩, -⟩)
      obtain rfl := Except.error.inj h
      rfl
  | ok a =>
    constructor
    · intro h
      exact Or.inr ⟨a, rfl, h⟩
    · rintro (⟨⟨⟩⟩ | ⟨a', ha, h⟩)
      obtain rfl := Except.ok.inj ha
      exact h

theorem map_eq_ok_iff {x : Except ε α} {f : α → β} {b : β} :
    x.map f = .ok b ↔ ∃ a, x = .ok a ∧ f a = b := by
  cases x with
  | error e =>
    constructor
    · rintro ⟨⟩
    · rintro ⟨a, ⟨⟩, -⟩
  | ok a =>
    constructor
    · intro h
      exact ⟨a, rfl, Except.ok.inj h⟩
    · rintro ⟨a', ha, rfl⟩
      obtain rfl := Except.ok.inj ha
      rfl

theorem map_eq_error_iff {x : Except ε α} {f : α → β} {e : ε} :
    x.map f = .error e ↔ x = .error e := by
  cases x with
  | error e' => exact ⟨fun h => congrArg Except.error (Except.error.inj h),
      fun h => congrArg Except.error (Except.error.inj h)⟩
  | ok a =>
    constructor
    · rintro ⟨⟩
    · rintro ⟨⟩

theorem mapError_eq_ok_iff {x : Except ε α} {f : ε → ε'} {a : α} :
    x.mapError f = .ok a ↔ x = .ok a := by
  cases x with
  | error e =>
    constructor
    · rintro ⟨⟩
    · rintro ⟨⟩
  | ok a' => exact ⟨fun h => congrArg Except.ok (Except.ok.inj h),
      fun h => congrArg Except.ok (Except.ok.inj h)⟩

theorem mapError_eq_error_iff {x : Except ε α} {f : ε → ε'} {e' : ε'} :
    x.mapError f = .error e' ↔ ∃ e, x = .error e ∧ f e = e' := by
  cases x with
  | error e =>
    constructor
    · intro h
      exact ⟨e, rfl, Except.error.inj h⟩
    · rintro ⟨e₁, he, rfl⟩
      obtain rfl := Except.error.inj he
      rfl
  | ok a =>
    constructor
    · rintro ⟨⟩
    · rintro ⟨e, ⟨⟩, -⟩

/-- A computation for each item of a list fails for the reason of one of them. -/
theorem exists_of_mapM_eq_error {f : α → Except ε β} {as : List α} {e : ε}
    (h : as.mapM f = .error e) : ∃ a ∈ as, f a = .error e := by
  induction as with
  | nil => exact absurd h (by rintro ⟨⟩)
  | cons a as ih =>
    rw [List.mapM_cons, bind_eq_error_iff] at h
    obtain h | ⟨b, -, h⟩ := h
    · exact ⟨a, List.mem_cons_self, h⟩
    · obtain h | ⟨bs, -, ⟨⟩⟩ := bind_eq_error_iff.1 h
      obtain ⟨a', hmem, h⟩ := ih h
      exact ⟨a', List.mem_cons_of_mem a hmem, h⟩

/-! ### Joined computations of lists -/

/-- **The lists of two computations joined**, the second being run after the first. -/
def joined (x y : Except ε (List α)) : Except ε (List α) := x >>= fun as => y.map (as ++ ·)

@[simp] theorem joined_error (e : ε) (y : Except ε (List α)) :
    joined (.error e) y = .error e := rfl

@[simp] theorem joined_nil (x : Except ε (List α)) : joined x (.ok []) = x := by
  cases x with
  | error e => rfl
  | ok as => exact congrArg Except.ok (List.append_nil as)

@[simp] theorem nil_joined (y : Except ε (List α)) : joined (.ok []) y = y := by
  cases y <;> rfl

theorem joined_assoc (x y z : Except ε (List α)) :
    joined (joined x y) z = joined x (joined y z) := by
  cases x with
  | error e => rfl
  | ok as =>
    cases y with
    | error e => rfl
    | ok bs =>
      cases z with
      | error e => rfl
      | ok cs => exact congrArg Except.ok (List.append_assoc as bs cs)

theorem joined_eq_error_iff {x y : Except ε (List α)} {e : ε} :
    joined x y = .error e ↔ x = .error e ∨ ∃ as, x = .ok as ∧ y = .error e := by
  rw [joined, bind_eq_error_iff]
  simp only [map_eq_error_iff]

/-! ### Outcomes that are alike -/

/-- **Two outcomes are alike**: values that are related by `V`, or errors that are related by `R`. -/
inductive Alike (V : α → β → Prop) (R : ε → ε' → Prop) : Except ε α → Except ε' β → Prop
  /-- Both are values. -/
  | ok {a : α} {b : β} (h : V a b) : Alike V R (.ok a) (.ok b)
  /-- Both are errors. -/
  | error {e : ε} {e' : ε'} (h : R e e') : Alike V R (.error e) (.error e')

/-- **Computations that go on alike** are alike in the end. -/
theorem Alike.bind {V : α → β → Prop} {W : γ → δ → Prop} {R : ε → ε' → Prop} {x : Except ε α}
    {y : Except ε' β} {f : α → Except ε γ} {g : β → Except ε' δ} (h : Alike V R x y)
    (next : ∀ a b, x = .ok a → V a b → Alike W R (f a) (g b)) : Alike W R (x >>= f) (y >>= g) := by
  cases h with
  | ok hvalue => exact next _ _ rfl hvalue
  | error herror => exact .error herror

theorem Alike.map {V : α → β → Prop} {W : γ → δ → Prop} {R : ε → ε' → Prop} {x : Except ε α}
    {y : Except ε' β} {f : α → γ} {g : β → δ} (h : Alike V R x y)
    (values : ∀ a b, V a b → W (f a) (g b)) : Alike W R (x.map f) (y.map g) := by
  cases h with
  | ok hvalue => exact .ok (values _ _ hvalue)
  | error herror => exact .error herror

theorem Alike.mapError {ζ ζ' : Type} {V : α → β → Prop} {R : ε → ε' → Prop} {R' : ζ → ζ' → Prop}
    {x : Except ε α} {y : Except ε' β} {f : ε → ζ} {g : ε' → ζ'} (h : Alike V R x y)
    (errors : ∀ e e', R e e' → R' (f e) (g e')) : Alike V R' (x.mapError f) (y.mapError g) := by
  cases h with
  | ok hvalue => exact .ok hvalue
  | error herror => exact .error (errors _ _ herror)

theorem Alike.imp {V W : α → β → Prop} {R : ε → ε' → Prop} {x : Except ε α} {y : Except ε' β}
    (h : Alike V R x y) (values : ∀ a b, x = .ok a → V a b → W a b) : Alike W R x y := by
  cases h with
  | ok hvalue => exact .ok (values _ _ rfl hvalue)
  | error herror => exact .error herror

theorem Alike.refl {R : ε → ε → Prop} (errors : ∀ e, R e e) (x : Except ε α) : Alike Eq R x x := by
  cases x with
  | ok a => exact .ok rfl
  | error e => exact .error (errors e)

/-- Outcomes are the same if their values are, and their errors. -/
theorem alike_eq_iff {x y : Except ε α} : Alike Eq Eq x y ↔ x = y := by
  constructor
  · intro h
    cases h with
    | ok hvalue => exact congrArg Except.ok hvalue
    | error herror => exact congrArg Except.error herror
  · rintro rfl
    cases x with
    | ok a => exact .ok rfl
    | error e => exact .error rfl

end RuleLexer
