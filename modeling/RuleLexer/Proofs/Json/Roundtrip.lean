import Mathlib.Data.List.TakeWhile
import RuleLexer.Proofs.Json.Number
import RuleLexer.Proofs.Json.Text

/-!
# Reading what was printed

A value whose numbers and strings are written as such (`Json.Sound`) is read back as it was printed,
in either layout. The proof does not look at the layouts more than it must: it says of each part of a
value, for any blanks between the parts, that it is read and what follows it is handed back
(`ReadsValue`, `ReadsItems`, `ReadsEntries`). The length of a text bounds the depth of its reading,
so that it is enough fuel.

Main statements: `Json.parse?_compact` and `Json.parse?_pretty`.
-/

namespace RuleLexer.Json

variable {j : Json} {items : List Json} {entries : List (List Char × Json)}
  {gap cs more rest key raw text : List Char} {c : Char} {fuel : Nat}

/-- **A value is sound** if its numbers are numbers and its strings and keys can stand between
quotes. -/
inductive Sound : Json → Prop
  /-- The value that stands for nothing is sound. -/
  | null : Sound .null
  /-- A truth value is sound. -/
  | bool (b : Bool) : Sound (.bool b)
  /-- A number is sound if its characters are those of one. -/
  | number {text : List Char} (h : IsNumber text) : Sound (.number text)
  /-- A string is sound if its characters can stand between quotes. -/
  | string {raw : List Char} (h : IsRaw raw) : Sound (.string raw)
  /-- An array is sound if its items are. -/
  | array {items : List Json} (h : ∀ j ∈ items, Sound j) : Sound (.array items)
  /-- An object is sound if its keys and its values are. -/
  | object {entries : List (List Char × Json)} (keys : ∀ e ∈ entries, IsRaw e.1)
      (values : ∀ e ∈ entries, Sound e.2) : Sound (.object entries)

/-! ### Blanks -/

/-- Blanks, as they may stand between the parts of a value. -/
def Blank (gap : List Char) : Prop := ∀ c ∈ gap, isSpace c = true

theorem Blank.nil : Blank [] := fun _ h => absurd h List.not_mem_nil

theorem Blank.singleton (hc : isSpace c = true) : Blank [c] := by
  intro d hd
  obtain rfl := List.mem_singleton.1 hd
  exact hc

theorem blank_newline (depth : Nat) : Blank (newline depth) := by
  intro c hc
  obtain rfl | hc := List.mem_cons.1 hc
  · rfl
  · obtain rfl := (List.mem_replicate.1 hc).2
    rfl

theorem Blank.dropSpaces (h : Blank gap) (hc : isSpace c = false) :
    Json.dropSpaces (gap ++ c :: rest) = c :: rest := by
  rw [Json.dropSpaces, List.dropWhile_append_of_pos h,
    List.dropWhile_cons_of_neg (Bool.eq_false_iff.1 hc)]

/-- The characters that can stand behind a value: blanks, a comma, and closing brackets. -/
def followers : List Char := [' ', '\n', '\t', '\r', ',', ']', '\x7d']

theorem mem_followers_of_isSpace (hc : isSpace c = true) : c ∈ followers := by
  simp only [isSpace, Bool.or_eq_true, decide_eq_true_eq] at hc
  obtain ((rfl | rfl) | rfl) | rfl := hc
  all_goals decide

/-- No number goes on with what can stand behind a value. -/
theorem ends_cons (hc : c ∈ followers) : Ends (c :: rest) := by
  have hall : (followers.all fun d => !d.isDigit && d != '.' && d != 'e' && d != 'E') = true := by
    decide
  obtain ⟨⟨⟨hdigit, hpoint⟩, he⟩, hE⟩ : ((c.isDigit = false ∧ c ≠ '.') ∧ c ≠ 'e') ∧ c ≠ 'E' := by
    simpa using List.all_eq_true.1 hall c hc
  refine ⟨.cons hdigit, ?_, ?_⟩
  · rintro more ⟨⟩
    exact hpoint rfl
  · rintro d more ⟨⟩
    exact not_or.2 ⟨he, hE⟩

theorem ends_nil : Ends [] where
  noDigit c more heq := absurd heq (by simp)
  noPoint more := by simp
  noExponent c more heq := absurd heq (by simp)

theorem Blank.ends (h : Blank gap) (hc : c ∈ followers) : Ends (gap ++ c :: rest) := by
  cases gap with
  | nil => exact ends_cons hc
  | cons g gap => exact ends_cons (mem_followers_of_isSpace (h g List.mem_cons_self))

theorem dropSpaces_cons (hc : isSpace c = false) : dropSpaces (c :: rest) = c :: rest :=
  Blank.nil.dropSpaces hc

/-! ### Reading the parts of a value -/

/-- A text opens a part of a value: it begins with no blank and closes no array. -/
def Opens (cs : List Char) : Prop := ∃ c more, cs = c :: more ∧ isSpace c = false ∧ c ≠ ']'

/-- **A text is read as a value**, whatever follows that does not go on with a number. -/
structure ReadsValue (j : Json) (cs : List Char) : Prop where
  /-- It opens a value. -/
  opens : Opens cs
  /-- Its length is enough fuel. -/
  read : ∀ fuel rest, cs.length ≤ fuel → Ends rest → value? fuel (cs ++ rest) = some (j, rest)

/-- **A text is read as the items of an array**, up to its bracket. -/
structure ReadsItems (items : List Json) (cs : List Char) : Prop where
  /-- It opens a value. -/
  opens : Opens cs
  /-- Its length is enough fuel. -/
  read : ∀ fuel rest, cs.length ≤ fuel → arrayRest? fuel (cs ++ rest) = some (items, rest)

/-- **A text is read as the entries of an object**, up to its brace. -/
structure ReadsEntries (entries : List (List Char × Json)) (cs : List Char) : Prop where
  /-- It opens a key. -/
  opens : ∃ more, cs = '"' :: more
  /-- Its length is enough fuel. -/
  read : ∀ fuel rest, cs.length ≤ fuel → objectRest? fuel (cs ++ rest) = some (entries, rest)

/-- What can stand behind an item, and the items that follow it. -/
inductive ItemsTail : List Json → List Char → Prop
  /-- The array is closed. -/
  | closed {gap : List Char} (blank : Blank gap) : ItemsTail [] (gap ++ [']'])
  /-- There are more items. -/
  | more {items : List Json} {gap cs : List Char} (blank : Blank gap) (h : ReadsItems items cs) :
      ItemsTail items (',' :: (gap ++ cs))

/-- What can stand behind an entry, and the entries that follow it. -/
inductive EntriesTail : List (List Char × Json) → List Char → Prop
  /-- The object is closed. -/
  | closed {gap : List Char} (blank : Blank gap) : EntriesTail [] (gap ++ ['\x7d'])
  /-- There are more entries. -/
  | more {entries : List (List Char × Json)} {gap cs : List Char} (blank : Blank gap)
      (h : ReadsEntries entries cs) : EntriesTail entries (',' :: (gap ++ cs))

/-- A text that is not empty leaves fuel for what is inside. -/
theorem exists_fuel (h : (c :: cs).length ≤ fuel) : ∃ f, fuel = f + 1 ∧ cs.length ≤ f :=
  ⟨fuel - 1, by rw [List.length_cons] at h; omega, by rw [List.length_cons] at h; omega⟩

theorem Opens.append (h : Opens cs) (more : List Char) : Opens (cs ++ more) := by
  obtain ⟨c, cs, rfl, hc, hne⟩ := h
  exact ⟨c, cs ++ more, rfl, hc, hne⟩

/-! ### Values without parts -/

theorem readsValue_null : ReadsValue .null (compact .null) where
  opens := ⟨_, _, rfl, rfl, by decide⟩
  read fuel rest hfuel _ := by
    obtain ⟨f, rfl, -⟩ := exists_fuel hfuel
    rfl

theorem readsValue_bool (b : Bool) : ReadsValue (.bool b) (bool b).compact := by
  cases b with
  | true =>
    refine ⟨⟨_, _, rfl, rfl, by decide⟩, fun fuel rest hfuel _ => ?_⟩
    obtain ⟨f, rfl, -⟩ := exists_fuel hfuel
    rfl
  | false =>
    refine ⟨⟨_, _, rfl, rfl, by decide⟩, fun fuel rest hfuel _ => ?_⟩
    obtain ⟨f, rfl, -⟩ := exists_fuel hfuel
    rfl

theorem readsValue_string (h : IsRaw raw) : ReadsValue (.string raw) (quotedRaw raw) where
  opens := ⟨_, _, rfl, rfl, by decide⟩
  read fuel rest hfuel _ := by
    obtain ⟨f, rfl, -⟩ := exists_fuel hfuel
    have hquoted : quotedRaw raw ++ rest = '"' :: (raw ++ '"' :: rest) := by
      rw [quotedRaw, List.cons_append, List.append_assoc, List.singleton_append]
    rw [hquoted, value?, h.rawString]
    rfl

/-- A number begins with a digit or a sign. -/
theorem IsNumber.exists_cons (h : IsNumber text) :
    ∃ c more, text = c :: more ∧ (c.isDigit = true ∨ c = '-') := by
  cases h with
  | unsigned hwhole =>
    obtain ⟨d, ds, rfl⟩ := List.exists_cons_of_ne_nil hwhole.ne_nil
    exact ⟨d, _, rfl, Or.inl (hwhole.isDigit d List.mem_cons_self)⟩
  | negative => exact ⟨'-', _, rfl, Or.inr rfl⟩

theorem readsValue_number (h : IsNumber text) : ReadsValue (.number text) text := by
  obtain ⟨c, more, rfl, hc⟩ := h.exists_cons
  have hne : ∀ d : Char, d.isDigit = false → d ≠ '-' → c ≠ d := by
    rintro d hdigit hsign rfl
    obtain hc | hc := hc
    · exact absurd (hc.symm.trans hdigit) (by decide)
    · exact hsign hc
  refine ⟨⟨c, more, rfl, ?_, hne ']' rfl (by decide)⟩, fun fuel rest hfuel ends => ?_⟩
  · simp [isSpace, hne ' ' rfl (by decide), hne '\n' rfl (by decide), hne '\t' rfl (by decide),
      hne '\r' rfl (by decide)]
  · obtain ⟨f, rfl, -⟩ := exists_fuel hfuel
    rw [List.cons_append, value?, ← List.cons_append, h.numberText ends]
    · rfl
    -- it begins as no other value does
    all_goals
      intro rest' heq
      exact absurd (List.cons.inj heq).1 (hne _ rfl (by decide))

/-! ### Arrays -/

theorem readsValue_emptyArray : ReadsValue (.array []) (array []).compact where
  opens := ⟨_, _, rfl, rfl, by decide⟩
  read fuel rest hfuel _ := by
    obtain ⟨f, rfl, -⟩ := exists_fuel hfuel
    rfl

/-- **An item and what stands behind it** are read as items. -/
theorem readsItems_of_tail (h : ReadsValue j cs) (tail : ItemsTail items more) :
    ReadsItems (j :: items) (cs ++ more) where
  opens := h.opens.append more
  read fuel rest hfuel := by
    -- what stands behind the item is not empty, and pays for the step to the item
    rw [List.length_append] at hfuel
    cases tail with
    | closed blank =>
      rw [List.length_append, List.length_singleton] at hfuel
      obtain ⟨f, rfl⟩ : ∃ f, fuel = f + 1 := ⟨fuel - 1, by omega⟩
      rw [List.append_assoc, List.append_assoc, List.singleton_append, arrayRest?,
        h.read f _ (by omega) (blank.ends (by decide))]
      simp only [Option.bind_eq_bind, Option.bind_some, blank.dropSpaces (c := ']') rfl]
      rfl
    | more blank htail =>
      rw [List.length_cons, List.length_append] at hfuel
      obtain ⟨f, rfl⟩ : ∃ f, fuel = f + 1 := ⟨fuel - 1, by omega⟩
      have hitems := htail.read f rest (by omega)
      obtain ⟨c, more, rfl, hc, -⟩ := htail.opens
      rw [List.cons_append] at hitems
      rw [List.append_assoc, List.cons_append, List.append_assoc, List.cons_append, arrayRest?,
        h.read f _ (by omega) (ends_cons (by decide))]
      simp only [Option.bind_eq_bind, Option.bind_some, dropSpaces_cons (c := ',') rfl,
        blank.dropSpaces hc, hitems]
      rfl

/-- **Items in brackets** are read as an array. -/
theorem readsValue_array (h : ReadsItems items cs) (blank : Blank gap) :
    ReadsValue (.array items) ('[' :: (gap ++ cs)) where
  opens := ⟨_, _, rfl, rfl, by decide⟩
  read fuel rest hfuel _ := by
    obtain ⟨f, rfl, hf⟩ := exists_fuel hfuel
    rw [List.length_append] at hf
    have hread := h.read f rest (by omega)
    obtain ⟨c, more, rfl, hc, hne⟩ := h.opens
    rw [List.cons_append, List.append_assoc, List.cons_append, value?, blank.dropSpaces hc]
    split
    · next heq => exact absurd (List.cons.inj heq).1 hne
    · rw [← List.cons_append, hread]
      rfl

/-! ### Objects -/

theorem readsValue_emptyObject : ReadsValue (.object []) (object []).compact where
  opens := ⟨_, _, rfl, rfl, by decide⟩
  read fuel rest hfuel _ := by
    obtain ⟨f, rfl, -⟩ := exists_fuel hfuel
    rfl

/-- **An entry and what stands behind it** are read as entries. -/
theorem readsEntries_of_tail (hkey : IsRaw key) (hgap : Blank gap) (h : ReadsValue j cs)
    (tail : EntriesTail entries more) :
    ReadsEntries ((key, j) :: entries) (quotedRaw key ++ ':' :: (gap ++ (cs ++ more))) where
  opens := ⟨_, rfl⟩
  read fuel rest hfuel := by
    simp only [quotedRaw, List.length_append, List.length_cons] at hfuel
    obtain ⟨f, rfl⟩ : ∃ f, fuel = f + 1 := ⟨fuel - 1, by omega⟩
    obtain ⟨c, cs, rfl, hc, -⟩ := h.opens
    -- the key up to its quote, the colon, and then the value
    have hquoted : quotedRaw key ++ ':' :: (gap ++ (c :: cs ++ more)) ++ rest =
        '"' :: (key ++ '"' :: ':' :: (gap ++ c :: (cs ++ (more ++ rest)))) := by
      simp [quotedRaw]
    rw [hquoted, objectRest?, hkey.rawString]
    simp only [Option.bind_eq_bind, Option.bind_some, dropSpaces_cons (c := ':') rfl,
      hgap.dropSpaces hc]
    rw [List.length_cons] at hfuel
    cases tail with
    | closed blank =>
      have ends : Ends (_ ++ '\x7d' :: rest) := blank.ends (by decide)
      have hvalue := h.read f _ (by rw [List.length_cons]; omega) ends
      rw [List.cons_append] at hvalue
      rw [List.append_assoc, List.singleton_append, hvalue]
      simp only [Option.bind_some, blank.dropSpaces (c := '\x7d') rfl]
      rfl
    | @more _ gap' cs' blank htail =>
      rw [List.length_cons, List.length_append] at hfuel
      have hentries := htail.read f rest (by omega)
      obtain ⟨more, rfl⟩ := htail.opens
      have hvalue := h.read f (',' :: (gap' ++ '"' :: (more ++ rest)))
        (by rw [List.length_cons]; omega) (ends_cons (by decide))
      rw [List.cons_append] at hvalue hentries
      rw [List.cons_append, List.append_assoc, List.cons_append, hvalue]
      simp only [Option.bind_some, dropSpaces_cons (c := ',') rfl, blank.dropSpaces (c := '"') rfl,
        hentries]
      rfl

/-- **Entries in braces** are read as an object. -/
theorem readsValue_object (h : ReadsEntries entries cs) (blank : Blank gap) :
    ReadsValue (.object entries) ('\x7b' :: (gap ++ cs)) where
  opens := ⟨_, _, rfl, rfl, by decide⟩
  read fuel rest hfuel _ := by
    obtain ⟨f, rfl, hf⟩ := exists_fuel hfuel
    rw [List.length_append] at hf
    have hread := h.read f rest (by omega)
    obtain ⟨more, rfl⟩ := h.opens
    rw [List.cons_append, List.append_assoc, List.cons_append, value?, blank.dropSpaces rfl]
    rw [List.cons_append] at hread
    change (objectRest? f ('"' :: (more ++ rest))).map _ = _
    rw [hread]
    rfl

/-! ### The compact layout -/

theorem itemsTail_compact (h : ∀ j ∈ items, ReadsValue j j.compact) :
    ItemsTail items (compactItems items) := by
  -- on the items; what stands behind one of them is the text of the others
  induction items with
  | nil => exact .closed .nil
  | cons j items ih =>
    obtain ⟨hj, hitems⟩ := List.forall_mem_cons.1 h
    rw [compactItems]
    exact @ItemsTail.more _ [] _ .nil (readsItems_of_tail hj (ih hitems))

theorem entriesTail_compact (keys : ∀ e ∈ entries, IsRaw e.1)
    (values : ∀ e ∈ entries, ReadsValue e.2 e.2.compact) :
    EntriesTail entries (compactEntries entries) := by
  induction entries with
  | nil => exact .closed .nil
  | cons e entries ih =>
    obtain ⟨hkey, hkeys⟩ := List.forall_mem_cons.1 keys
    obtain ⟨hvalue, hvalues⟩ := List.forall_mem_cons.1 values
    rw [compactEntries]
    exact @EntriesTail.more _ [] _ .nil (readsEntries_of_tail hkey .nil hvalue (ih hkeys hvalues))

/-- **The compact text of a sound value is read as the value.** -/
theorem Sound.readsValue_compact (h : Sound j) : ReadsValue j j.compact := by
  -- on why the value is sound; the first part of an array or object stands behind its bracket
  induction h with
  | null => exact readsValue_null
  | bool b => exact readsValue_bool b
  | number h =>
    rw [compact]
    exact readsValue_number h
  | string h =>
    rw [compact]
    exact readsValue_string h
  | @array items _ ih =>
    cases items with
    | nil => exact readsValue_emptyArray
    | cons j items =>
      obtain ⟨hj, hitems⟩ := List.forall_mem_cons.1 ih
      rw [compact]
      exact @readsValue_array _ [] _ (readsItems_of_tail hj (itemsTail_compact hitems)) .nil
  | @object entries keys _ ih =>
    cases entries with
    | nil => exact readsValue_emptyObject
    | cons e entries =>
      obtain ⟨hkey, hkeys⟩ := List.forall_mem_cons.1 keys
      obtain ⟨hvalue, hvalues⟩ := List.forall_mem_cons.1 ih
      rw [compact]
      exact @readsValue_object _ [] _
        (readsEntries_of_tail hkey .nil hvalue (entriesTail_compact hkeys hvalues)) .nil

/-! ### The layout with a line for every part -/

theorem itemsTail_pretty (depth : Nat)
    (h : ∀ j ∈ items, ReadsValue j (j.pretty (depth + 1))) :
    ItemsTail items (prettyItems depth items) := by
  induction items with
  | nil =>
    rw [prettyItems]
    exact .closed (blank_newline depth)
  | cons j items ih =>
    obtain ⟨hj, hitems⟩ := List.forall_mem_cons.1 h
    rw [prettyItems, List.append_assoc]
    exact .more (blank_newline (depth + 1)) (readsItems_of_tail hj (ih hitems))

theorem entriesTail_pretty (depth : Nat) (keys : ∀ e ∈ entries, IsRaw e.1)
    (values : ∀ e ∈ entries, ReadsValue e.2 (e.2.pretty (depth + 1))) :
    EntriesTail entries (prettyEntries depth entries) := by
  induction entries with
  | nil =>
    rw [prettyEntries]
    exact .closed (blank_newline depth)
  | cons e entries ih =>
    obtain ⟨hkey, hkeys⟩ := List.forall_mem_cons.1 keys
    obtain ⟨hvalue, hvalues⟩ := List.forall_mem_cons.1 values
    rw [prettyEntries, List.append_assoc]
    exact .more (blank_newline (depth + 1))
      (readsEntries_of_tail hkey (.singleton rfl) hvalue (ih hkeys hvalues))

/-- **The text of a sound value with a line for every part is read as the value**, at any depth. -/
theorem Sound.readsValue_pretty (h : Sound j) (depth : Nat) : ReadsValue j (j.pretty depth) := by
  induction h generalizing depth with
  | null =>
    rw [pretty]
    exact readsValue_null
  | bool b =>
    cases b with
    | true => exact readsValue_bool true
    | false => exact readsValue_bool false
  | number h =>
    rw [pretty]
    exact readsValue_number h
  | string h =>
    rw [pretty]
    exact readsValue_string h
  | @array items _ ih =>
    cases items with
    | nil => exact readsValue_emptyArray
    | cons j items =>
      obtain ⟨hj, hitems⟩ := List.forall_mem_cons.1 ih
      rw [pretty, List.append_assoc]
      exact readsValue_array (readsItems_of_tail (hj (depth + 1))
        (itemsTail_pretty depth fun j hj => hitems j hj (depth + 1))) (blank_newline (depth + 1))
  | @object entries keys _ ih =>
    cases entries with
    | nil => exact readsValue_emptyObject
    | cons e entries =>
      obtain ⟨hkey, hkeys⟩ := List.forall_mem_cons.1 keys
      obtain ⟨hvalue, hvalues⟩ := List.forall_mem_cons.1 ih
      rw [pretty, List.append_assoc]
      exact readsValue_object (readsEntries_of_tail hkey (.singleton rfl) (hvalue (depth + 1))
        (entriesTail_pretty depth hkeys fun e he => hvalues e he (depth + 1)))
        (blank_newline (depth + 1))

/-! ### Reading a whole text -/

/-- **What is read as a value is read as a text**, with blanks behind it. -/
theorem ReadsValue.parse? (h : ReadsValue j cs) (blank : Blank gap) :
    Json.parse? (cs ++ gap) = some j := by
  have ends : Ends gap := by
    cases gap with
    | nil => exact ends_nil
    | cons g gap => exact ends_cons (mem_followers_of_isSpace (blank g List.mem_cons_self))
  have hread := h.read (2 * (cs ++ gap).length + 2) gap (by rw [List.length_append]; omega) ends
  have hend : Json.dropSpaces gap = [] := List.dropWhile_eq_nil_iff.2 blank
  obtain ⟨c, cs, rfl, hc, -⟩ := h.opens
  rw [Json.parse?, List.cons_append, dropSpaces_cons hc, ← List.cons_append, hread]
  simp only [Option.bind_eq_bind, Option.bind_some, hend]
  rfl

/-- **A sound value is read back from its compact text.** -/
theorem parse?_compact (h : Sound j) : parse? j.compact = some j := by
  have hparse := h.readsValue_compact.parse? .nil
  rwa [List.append_nil] at hparse

/-- **A sound value is read back from its text with a line for every part**, and blanks behind it. -/
theorem parse?_pretty (h : Sound j) (depth : Nat) (blank : Blank gap) :
    parse? (j.pretty depth ++ gap) = some j :=
  (h.readsValue_pretty depth).parse? blank

end RuleLexer.Json
