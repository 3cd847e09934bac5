import Mathlib.Data.List.Induction
import RuleLexer.Proofs.Setting.Like
import RuleLexer.Proofs.Setting.Put

/-!
# Values put one over the other

Values that are put under one key come one over the other: a table goes into what stands there entry
by entry, and anything else takes its place (`Setting.merge`). So what stands at a key after several
entries were put is made of the values at this key alone, whatever stands at other keys
(`Setting.get?_putAll`).

What comes of several values at one key depends on what they are:

* tables become one table, made of all their entries (`mergeAll_of_tables`);
* of lists and scalars the last remains (`mergeAll_of_plain`);
* of any values the last remains, up to the entries of tables, if empty tables are passed over: a
  table without entries changes nothing (`mergeAll_like`).

So a table that several values make at a key reads like the table with the last values alone
(`mergeAll_tableAt`).
-/

namespace RuleLexer.Setting

variable {s v : Setting} {o : Option Setting} {key name : String} {names : List String}
  {entries more : List (String × Setting)} {values : List Setting}

/-! ### Values at one key -/

/-- **What a value makes of what stands where it is put.** A table goes into it entry by entry, and
anything else takes its place. -/
def merge (old : Option Setting) : Setting → Setting
  | .table incoming _ => (old.getD empty).putAll incoming
  | v => v

/-- What several values make of what stands where they are put, one over the other. -/
def mergeAll (old : Option Setting) (values : List Setting) : Option Setting :=
  values.foldl (fun old v => some (merge old v)) old

/-- The values that entries have under a key, in their order. Keys are taken in lower case. -/
def valuesAt (key : String) (entries : List (String × Setting)) : List Setting :=
  (entries.filter fun e => Unicode.lowercase e.1 = key).map (·.2)

theorem valuesAt_append (key : String) (entries more : List (String × Setting)) :
    valuesAt key (entries ++ more) = valuesAt key entries ++ valuesAt key more := by
  rw [valuesAt, List.filter_append, List.map_append]
  rfl

theorem valuesAt_cons (key k : String) (v : Setting) (entries : List (String × Setting)) :
    valuesAt key ((k, v) :: entries) =
      if Unicode.lowercase k = key then v :: valuesAt key entries else valuesAt key entries := by
  by_cases h : Unicode.lowercase k = key <;> simp [valuesAt, h]

theorem mem_valuesAt :
    v ∈ valuesAt key entries ↔ ∃ k, (k, v) ∈ entries ∧ Unicode.lowercase k = key := by
  simp [valuesAt]

/-- The values that an optional value under a key makes. -/
theorem valuesAt_toList (key k : String) (o : Option Setting) :
    valuesAt key (o.toList.map (k, ·)) = if Unicode.lowercase k = key then o.toList else [] := by
  cases o with
  | none =>
    rw [Option.toList_none, ite_self]
    rfl
  | some v => exact valuesAt_cons key k v []

@[simp] theorem putAll_nil (s : Setting) : s.putAll [] = s := by
  rw [putAll]

theorem putAll_cons (s : Setting) (key : String) (v : Setting) (rest : List (String × Setting)) :
    s.putAll ((key, v) :: rest) = (s.put key v).putAll rest := by
  rw [putAll]

theorem putAll_append (s : Setting) (entries more : List (String × Setting)) :
    s.putAll (entries ++ more) = (s.putAll entries).putAll more := by
  induction entries generalizing s with
  | nil => rw [List.nil_append, putAll_nil]
  | cons e entries ih =>
    rw [List.cons_append, putAll_cons, putAll_cons, ih]

theorem put_eq_update (s : Setting) (key : String) (v : Setting) :
    s.put key v = s.update (Unicode.lowercase key) (merge · v) := by
  cases v <;> rw [put] <;> first | rfl | simp

/-- **A value at a key path of two keys** is put like a table with it as the only entry. -/
theorem putAt_pair (s : Setting) (key name : String) (v : Setting) :
    s.putAt ⟨key, [.key name]⟩ v = s.put key (.table [(name, v)] none) := by
  have hnothing : nil.put name v = empty.put name v := by
    rw [put_eq_update, put_eq_update]
    rfl
  calc s.putAt ⟨key, [.key name]⟩ v
      = s.update (Unicode.lowercase key) (fun old => (old.getD nil).put name v) := by
        rw [putAt, putBehind]
        · rfl
        · rintro ⟨⟩
    _ = s.update (Unicode.lowercase key) (fun old => (old.getD empty).put name v) := by
        -- nothing makes way for a table as the empty table does
        congr 1
        funext old
        cases old with
        | none => exact hnothing
        | some s => rfl
    _ = s.put key (.table [(name, v)] none) := by
        rw [put]
        simp only [putAll_cons, putAll_nil]

theorem get?_put (s : Setting) (key k : String) (v : Setting) :
    (s.put key v).get? k =
      if k = Unicode.lowercase key then some (merge (s.get? k) v) else s.get? k := by
  rw [put_eq_update, get?_update]
  split
  · next h => rw [h]
  · rfl

/-- **What stands at a key after several entries were put** is made of the values at this key. -/
theorem get?_putAll (s : Setting) (entries : List (String × Setting)) (key : String) :
    (s.putAll entries).get? key = mergeAll (s.get? key) (valuesAt key entries) := by
  -- on the entries; the first has changed the setting that the others are put in
  induction entries generalizing s with
  | nil =>
    rw [putAll_nil]
    rfl
  | cons e entries ih =>
    rw [putAll_cons, ih, get?_put, valuesAt_cons]
    by_cases h : key = Unicode.lowercase e.1
    · rw [if_pos h, if_pos h.symm]
      rfl
    · rw [if_neg h, if_neg fun h' => h h'.symm]

/-! ### Where tables come from -/

/-- A setting that is no table of a file. What values are put in stays such. -/
def Fileless (s : Setting) : Prop := ∀ entries origin, s = .table entries origin → origin = none

theorem IsTable.fileless (h : s.IsTable) : s.Fileless := by
  obtain ⟨entries, rfl⟩ := h
  rintro entries' origin heq
  exact (Setting.table.inj heq).2.symm

theorem isTable_empty : empty.IsTable := ⟨[], rfl⟩

theorem Fileless.put (h : s.Fileless) (key : String) (v : Setting) : (s.put key v).IsTable := by
  rw [put_eq_update]
  cases s with
  | table entries origin =>
    obtain rfl := h entries origin rfl
    exact ⟨_, rfl⟩
  | scalar | array => exact ⟨_, rfl⟩

theorem IsTable.putAll (h : s.IsTable) (entries : List (String × Setting)) :
    (s.putAll entries).IsTable := by
  induction entries generalizing s with
  | nil => rwa [putAll_nil]
  | cons e entries ih =>
    rw [putAll_cons]
    exact ih (h.fileless.put e.1 e.2)

/-- Entries make a table of what is none. -/
theorem Fileless.putAll (h : s.Fileless) (hne : entries ≠ []) : (s.putAll entries).IsTable := by
  obtain ⟨e, rest, rfl⟩ := List.exists_cons_of_ne_nil hne
  rw [putAll_cons]
  exact (h.put e.1 e.2).putAll rest

theorem Fileless.getD (h : ∀ s ∈ o, s.Fileless) : (o.getD empty).Fileless := by
  cases o with
  | none => exact isTable_empty.fileless
  | some s => exact h s rfl

theorem Fileless.merge (h : ∀ s ∈ o, s.Fileless) (v : Setting) : (merge o v).Fileless := by
  cases v with
  | table incoming origin =>
    cases incoming with
    | nil =>
      rw [Setting.merge, putAll_nil]
      exact Fileless.getD h
    | cons e incoming => exact ((Fileless.getD h).putAll (List.cons_ne_nil e incoming)).fileless
  | scalar | array =>
    rintro entries origin ⟨⟩

theorem Fileless.mergeAll (h : ∀ s ∈ o, s.Fileless) (values : List Setting) :
    ∀ s ∈ mergeAll o values, s.Fileless := by
  induction values generalizing o with
  | nil => exact h
  | cons v values ih =>
    refine ih fun s hs => ?_
    obtain rfl := Option.some.inj hs
    exact Fileless.merge h v

/-! ### What several values make -/

theorem mergeAll_append (o : Option Setting) (values more : List Setting) :
    mergeAll o (values ++ more) = mergeAll (mergeAll o values) more :=
  List.foldl_append

theorem mergeAll_concat (o : Option Setting) (values : List Setting) (v : Setting) :
    mergeAll o (values ++ [v]) = some (merge (mergeAll o values) v) := by
  rw [mergeAll_append]
  rfl

/-- The entries of a table; anything else has none. -/
def entriesOf : Setting → List (String × Setting)
  | .table entries _ => entries
  | _ => []

/-- Whether a setting is a table. -/
def isTable : Setting → Bool
  | .table _ _ => true
  | _ => false

/-- **Tables become one table**, made of all their entries. -/
theorem mergeAll_of_tables (tables : ∀ v ∈ values, v.isTable = true) (hne : values ≠ []) :
    mergeAll o values = some ((o.getD empty).putAll (values.flatMap entriesOf)) := by
  -- on the values from the end; the last goes into what the others have become, if there are any
  induction values using List.reverseRecOn with
  | nil => exact absurd rfl hne
  | append_singleton values v ih =>
    have hlast : v.isTable = true := tables v (List.mem_append_right _ List.mem_cons_self)
    obtain ⟨entries, origin, rfl⟩ : ∃ entries origin, v = .table entries origin := by
      cases v with
      | table entries origin => exact ⟨entries, origin, rfl⟩
      | scalar | array => cases hlast
    rw [mergeAll_concat, List.flatMap_append, List.flatMap_singleton, putAll_append]
    by_cases hvalues : values = []
    · subst hvalues
      rw [List.flatMap_nil, putAll_nil]
      rfl
    · rw [ih (fun v hv => tables v (List.mem_append_left _ hv)) hvalues]
      rfl

/-- **Of lists and scalars the last remains.** -/
theorem mergeAll_of_plain (plain : ∀ v ∈ values, v.isTable = false) :
    mergeAll o values = values.getLast?.or o := by
  induction values using List.reverseRecOn with
  | nil => rfl
  | append_singleton values v ih =>
    have hlast : v.isTable = false := plain v (List.mem_append_right _ List.mem_cons_self)
    rw [mergeAll_concat, List.getLast?_concat, Option.some_or]
    cases v with
    | table entries origin => cases hlast
    | scalar | array => rfl

/-! ### The last value -/

/-- Whether a setting is a table without entries. -/
def isEmptyTable : Setting → Bool
  | .table [] _ => true
  | _ => false

/-- **The last of several values that is not an empty table**, or the first if all are. -/
def lastOf? (values : List Setting) : Option Setting :=
  (values.filter (!·.isEmptyTable)).getLast?.or values.head?

theorem lastOf?_concat (values : List Setting) (v : Setting) :
    lastOf? (values ++ [v]) =
      if v.isEmptyTable = true then (lastOf? values).or (some v) else some v := by
  rw [lastOf?, List.filter_append, lastOf?]
  by_cases h : v.isEmptyTable = true
  · rw [if_pos h, List.filter_cons_of_neg (by simp [h]), List.filter_nil, List.append_nil,
      List.head?_append, Option.or_assoc]
    rfl
  · rw [if_neg h, List.filter_cons_of_pos (by simp [h]), List.filter_nil, List.getLast?_concat,
      Option.some_or]

theorem mem_of_lastOf? (h : lastOf? values = some v) : v ∈ values := by
  rw [lastOf?, Option.or_eq_some_iff] at h
  rcases h with h | ⟨-, h⟩
  · exact (List.mem_filter.1 (List.mem_of_getLast? h)).1
  · exact List.mem_of_head? h

/-- Of lists and scalars none is passed over. -/
theorem lastOf?_of_plain (plain : ∀ v ∈ values, v.isTable = false) :
    lastOf? values = values.getLast? := by
  have hall : values.filter (!·.isEmptyTable) = values := by
    refine List.filter_eq_self.2 fun v hv => ?_
    have hplain := plain v hv
    cases v with
    | table => cases hplain
    | scalar | array => rfl
  rw [lastOf?, hall]
  cases values with
  | nil => rfl
  | cons v values => rw [List.getLast?_cons, Option.some_or]

theorem lastOf?_eq_none_iff : lastOf? values = none ↔ values = [] := by
  rw [lastOf?, Option.or_eq_none_iff, List.head?_eq_none_iff]
  constructor
  · exact fun h => h.2
  · rintro rfl
    exact ⟨rfl, rfl⟩

/-- **Of several values the last remains**, up to the entries of tables. -/
theorem mergeAll_like (h : ∀ s ∈ o, s.Fileless) (values : List Setting) :
    Option.Rel Like (mergeAll o values) (mergeAll o (lastOf? values).toList) := by
  -- on the values from the end; what the others have become matters only for an empty table
  induction values using List.reverseRecOn with
  | nil => exact rel_refl fun s _ => .refl s
  | append_singleton values v ih =>
    rw [mergeAll_concat, lastOf?_concat]
    cases v with
    | scalar | array => exact .some (.refl _)
    | table incoming origin =>
      cases incoming with
      | cons e incoming =>
        have hne : e :: incoming ≠ [] := List.cons_ne_nil e incoming
        have hleft := (Fileless.getD (Fileless.mergeAll h values)).putAll hne
        exact .some (hleft.like ((Fileless.getD h).putAll hne))
      | nil =>
        have hpassed : (table [] origin).isEmptyTable = true := rfl
        rw [if_pos hpassed, merge, putAll_nil]
        cases hlast : lastOf? values with
        | none =>
          obtain rfl := lastOf?_eq_none_iff.1 hlast
          rw [Option.none_or]
          show Option.Rel Like (some (o.getD empty)) (some (merge o (.table [] origin)))
          rw [merge, putAll_nil]
          exact .some (.refl _)
        | some last =>
          have hmade : mergeAll o (some last).toList = some (merge o last) := rfl
          rw [hlast, hmade] at ih
          rw [Option.some_or, hmade]
          generalize mergeAll o values = made at ih ⊢
          cases ih with
          | some hlike => exact .some hlike

/-! ### Tables of last values -/

/-- The values that the tables at a key have under a name. -/
def valuesUnder (key name : String) (entries : List (String × Setting)) : List Setting :=
  valuesAt name ((valuesAt key entries).flatMap entriesOf)

theorem valuesUnder_append (key name : String) (entries more : List (String × Setting)) :
    valuesUnder key name (entries ++ more) =
      valuesUnder key name entries ++ valuesUnder key name more := by
  rw [valuesUnder, valuesAt_append, List.flatMap_append, valuesAt_append]
  rfl

/-- Under each of some names the last of the values that entries have there. -/
def lastEntries (names : List String) (entries : List (String × Setting)) :
    List (String × Setting) :=
  names.flatMap fun name => (lastOf? (valuesAt name entries)).toList.map (name, ·)

theorem valuesAt_lastEntries (distinct : names.Nodup)
    (lower : ∀ name ∈ names, Unicode.lowercase name = name) (key : String)
    (entries : List (String × Setting)) :
    valuesAt key (lastEntries names entries) =
      if key ∈ names then (lastOf? (valuesAt key entries)).toList else [] := by
  induction names with
  | nil => rfl
  | cons name names ih =>
    obtain ⟨hnew, hdistinct⟩ := List.nodup_cons.1 distinct
    have hrest := ih hdistinct fun name hname => lower name (List.mem_cons_of_mem _ hname)
    rw [lastEntries, List.flatMap_cons, valuesAt_append, valuesAt_toList,
      lower name List.mem_cons_self]
    by_cases hkey : name = key
    · -- the first name is the one, and no later name is
      subst hkey
      rw [if_neg hnew] at hrest
      rw [if_pos rfl, if_pos List.mem_cons_self]
      exact (congrArg _ hrest).trans (List.append_nil _)
    · rw [if_neg hkey, List.nil_append]
      have hmem : key ∈ name :: names ↔ key ∈ names := by
        rw [List.mem_cons, or_iff_right (Ne.symm hkey)]
      simp only [hmem]
      exact hrest

/-- **Last values alone** are put as all values are, up to the entries of tables at the names. -/
theorem likeAt_lastEntries (distinct : names.Nodup)
    (lower : ∀ name ∈ names, Unicode.lowercase name = name) (h : s.IsTable)
    (fileless : ∀ name ∈ names, ∀ v ∈ s.get? name, v.Fileless) (entries : List (String × Setting)) :
    LikeAt names (s.putAll entries) (s.putAll (lastEntries names entries)) where
  left := h.putAll entries
  right := h.putAll (lastEntries names entries)
  entries := by
    intro name hname
    rw [get?_putAll, get?_putAll, valuesAt_lastEntries distinct lower, if_pos hname]
    exact mergeAll_like (fileless name hname) (valuesAt name entries)

/-- At a key, if entries have anything there, the table with the last values under some names. -/
def tableAt (key : String) (names : List String) (entries : List (String × Setting)) :
    List (String × Setting) :=
  if (valuesAt key entries).isEmpty then []
  else [(key, .table (lastEntries names ((valuesAt key entries).flatMap entriesOf)) none)]

theorem valuesAt_tableAt (key k : String) (names : List String)
    (entries : List (String × Setting)) :
    valuesAt k (tableAt key names entries) =
      if Unicode.lowercase key = k ∧ valuesAt key entries ≠ [] then
        [.table (lastEntries names ((valuesAt key entries).flatMap entriesOf)) none]
      else [] := by
  by_cases hempty : valuesAt key entries = []
  · rw [tableAt, if_pos (List.isEmpty_iff.2 hempty), if_neg fun h => h.2 hempty]
    rfl
  · rw [tableAt, if_neg (mt List.isEmpty_iff.1 hempty), valuesAt_cons]
    simp only [hempty, ne_eq, not_false_eq_true, and_true]
    rfl

/-- The table of last values has the last value under each name. -/
theorem valuesUnder_tableAt (distinct : names.Nodup)
    (lower : ∀ name ∈ names, Unicode.lowercase name = name) (hkey : Unicode.lowercase key = key)
    (hname : name ∈ names) (entries : List (String × Setting)) :
    valuesUnder key name (tableAt key names entries) =
      (lastOf? (valuesUnder key name entries)).toList := by
  rw [valuesUnder, valuesAt_tableAt, valuesUnder]
  by_cases hempty : valuesAt key entries = []
  · rw [if_neg fun h => h.2 hempty, hempty]
    rfl
  · rw [if_pos ⟨hkey, hempty⟩, List.flatMap_singleton, entriesOf,
      valuesAt_lastEntries distinct lower, if_pos hname]

/-- **The table of last values** is like the one that all tables at the key make. -/
theorem mergeAll_tableAt (distinct : names.Nodup)
    (lower : ∀ name ∈ names, Unicode.lowercase name = name) (hkey : Unicode.lowercase key = key)
    (tables : ∀ v ∈ valuesAt key entries, v.isTable = true)
    (base : ∀ s ∈ o, s.IsTable ∧ ∀ name ∈ names, ∀ v ∈ s.get? name, v.Fileless) :
    Option.Rel (LikeAt names) (mergeAll o (valuesAt key entries))
      (mergeAll o (valuesAt key (tableAt key names entries))) := by
  rw [valuesAt_tableAt]
  by_cases hempty : valuesAt key entries = []
  · rw [if_neg fun h => h.2 hempty, hempty]
    exact rel_refl fun s hs => (base s hs).1.likeAt_refl names
  · rw [if_pos ⟨hkey, hempty⟩, mergeAll_of_tables tables hempty]
    have hbase : (o.getD empty).IsTable ∧
        ∀ name ∈ names, ∀ v ∈ (o.getD empty).get? name, v.Fileless := by
      cases o with
      | none => exact ⟨isTable_empty, fun name _ v hv => absurd hv (by simp [empty, get?])⟩
      | some s => exact base s rfl
    exact .some (likeAt_lastEntries distinct lower hbase.1 hbase.2 _)

end RuleLexer.Setting
