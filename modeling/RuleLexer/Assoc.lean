/-!
# Entries by key

Entries are pairs of a key and a value, in the order in which their keys came up. Changing the entry
of a key leaves all others as they are; a new entry goes to the end.

Main statements: `lookup_alter` — what a change does, seen through the look-up — and
`alter_of_lookup_eq_none`.
-/

namespace RuleLexer.Assoc

variable {α : Type}

/-- The entries with the one of a key changed, or made if there is none. -/
def alter (f : Option α → α) (key : String) : List (String × α) → List (String × α)
  | [] => [(key, f none)]
  | (k, a) :: rest => if key = k then (k, f (some a)) :: rest else (k, a) :: alter f key rest

/-- The entries with the one of a key changed, or made if there is none, if the change succeeds. -/
def alter? (f : Option α → Option α) (key : String) :
    List (String × α) → Option (List (String × α))
  | [] => (f none).map fun a => [(key, a)]
  | (k, a) :: rest =>
    if key = k then (f (some a)).map fun a => (k, a) :: rest
    else (alter? f key rest).map ((k, a) :: ·)

/-- **A change is seen at its key and nowhere else.** -/
theorem lookup_alter (f : Option α → α) (key k : String) (es : List (String × α)) :
    (alter f key es).lookup k = if k = key then some (f (es.lookup key)) else es.lookup k := by
  induction es with
  | nil => by_cases h : k = key <;> simp [alter, h]
  | cons e rest ih =>
    obtain ⟨k', a⟩ := e
    by_cases h : key = k'
    · subst h
      by_cases hk : k = key
      · simp [alter, hk]
      · have : (k == key) = false := by simpa using hk
        simp [alter, hk, List.lookup_cons, this]
    · have hne : (key == k') = false := by simpa using h
      by_cases hk : k = k'
      · subst hk
        have : ¬ k = key := fun e => h e.symm
        simp [alter, h, this]
      · have : (k == k') = false := by simpa using hk
        simp [alter, h, List.lookup_cons, this, ih, hne]

/-- **A new entry goes to the end.** -/
theorem alter_of_lookup_eq_none (f : Option α → α) {key : String} {es : List (String × α)}
    (h : es.lookup key = none) : alter f key es = es ++ [(key, f none)] := by
  induction es with
  | nil => rfl
  | cons e rest ih =>
    obtain ⟨k, a⟩ := e
    have hne : ¬ key = k := by
      rintro rfl
      simp at h
    have hrest : rest.lookup key = none := by
      rwa [List.lookup_cons, beq_eq_false_iff_ne.2 hne] at h
    rw [alter, if_neg hne, ih hrest, List.cons_append]

end RuleLexer.Assoc
