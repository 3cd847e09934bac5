import RuleLexer.Setting.Basic

/-!
# Values that are put are found

A scalar that is put at a key path of keys stands there afterwards (`Setting.at?_putAt`), whatever
was there before: what is on the way and is not a table makes way for one.
-/

namespace RuleLexer.Setting

/-- What stands where keys lead, from table to table. -/
def at? (s : Setting) : List String → Option Setting
  | [] => some s
  | key :: keys => (s.get? key).bind (·.at? keys)

/-- Keys lead only through tables. -/
theorem at?_cons_eq_some_iff {s s' : Setting} {key : String} {keys : List String} :
    s.at? (key :: keys) = some s' ↔
      ∃ entries origin next, s = .table entries origin ∧ entries.lookup key = some next ∧
        next.at? keys = some s' := by
  rw [at?, Option.bind_eq_some_iff]
  constructor
  · rintro ⟨next, hget, hnext⟩
    cases s with
    | table entries origin => exact ⟨entries, origin, next, rfl, hget, hnext⟩
    | scalar | array => exact absurd hget (by simp [get?])
  · rintro ⟨entries, origin, next, rfl, hlookup, hnext⟩
    exact ⟨next, hlookup, hnext⟩

theorem at?_eq_of_get? {s s' : Setting} {key : String} {keys : List String}
    (h : s.get? key = some s') : s.at? (key :: keys) = s'.at? keys := by
  rw [at?, h, Option.bind_some]

theorem get?_update_self (s : Setting) (key : String) (f : Option Setting → Setting) :
    (s.update key f).get? key = some (f (s.get? key)) := by
  rw [get?_update, if_pos rfl]

theorem put_scalar (s : Setting) (key : String) (v : Scalar) (origin : Option String) :
    s.put key (.scalar v origin) = s.update (Unicode.lowercase key) fun _ => .scalar v origin := by
  rw [put]
  simp

/-- **A scalar that is put at a key path is found there**, the keys being taken in lower case. -/
theorem at?_putAt (s : Setting) (head : String) (names : List String) (v : Scalar)
    (origin : Option String) :
    (s.putAt ⟨head, names.map .key⟩ (.scalar v origin)).at? ((head :: names).map Unicode.lowercase) =
      some (.scalar v origin) := by
  -- on the keys behind the first; what stands under that one is what the next is put in
  induction names generalizing s head with
  | nil =>
    rw [putAt, List.map_nil, putBehind, put_scalar]
    exact at?_eq_of_get? (get?_update_self ..)
  | cons name names ih =>
    rw [putAt, List.map_cons, putBehind]
    · exact (at?_eq_of_get? (get?_update_self ..)).trans (ih _ name)
    · rintro ⟨⟩

end RuleLexer.Setting
