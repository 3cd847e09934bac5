import Mathlib.Data.List.Nodup
import RuleLexer.Listing
import RuleLexer.Proofs.Json.Roundtrip

/-!
# Tokens read back from JSON

A record is printed as an object with a value for each field, so it is sound if its values are
(`Json.sound_ofEntries`), and its fields are found by their names if no two have the same
(`Json.fields?_ofEntries`). With the values of a token, which are texts and a number in range, a token
is what its object stands for (`Token.ofJson?_toJson`).

Main statement: `Token.read_printed` — tokens are read back from the text of one of them, and from
that of a list.
-/

namespace RuleLexer

namespace Json

variable {entries : List (String × Json)} {key : String} {value : Json} {n : Nat}

/-! ### Soundness of what is built -/

theorem sound_ofString (s : String) : Sound (ofString s) := .string (isRaw_encode s.toList)

theorem sound_ofNat (n : Nat) : Sound (ofNat n) := by
  rw [ofNat, Text.toList_toString]
  exact .number (isNumber_toDigits n)

/-- **A record is sound if its values are.** -/
theorem sound_ofEntries (h : ∀ e ∈ entries, Sound e.2) : Sound (ofEntries entries) := by
  refine .object (fun e he => ?_) (fun e he => ?_)
  · obtain ⟨e', -, rfl⟩ := List.mem_map.1 he
    exact isRaw_encode e'.1.toList
  · obtain ⟨e', he', rfl⟩ := List.mem_map.1 he
    exact h e' he'

/-! ### Reading what is built -/

/-- **A text is what its string stands for.** -/
theorem string?_ofString (s : String) : (ofString s).string? = some s := by
  rw [ofString, string?, decode_encode, Option.map_some, String.ofList_toList]

/-- The keys of a record are what their written forms stand for. -/
theorem decodedEntries?_encode (entries : List (String × Json)) :
    decodedEntries? (entries.map fun (key, value) => (encode key.toList, value)) =
      some (entries.map fun (key, value) => (key.toList, value)) := by
  induction entries with
  | nil => rfl
  | cons e entries ih =>
    rw [List.map_cons, decodedEntries?, decode_encode, ih]
    rfl

/-- The values under a key are found by the key itself, without its written form. -/
theorem valuesAt_toList (entries : List (String × Json)) (key : String) :
    valuesAt (entries.map fun (key, value) => (key.toList, value)) key =
      (entries.filter (·.1 = key)).map (·.2) := by
  rw [valuesAt, List.filter_map, List.map_map]
  simp only [Function.comp_def, String.toList_inj]

/-- Under a key that no other entry has stands its value alone. -/
theorem filter_key_eq_singleton (distinct : (entries.map (·.1)).Nodup)
    (h : (key, value) ∈ entries) : entries.filter (·.1 = key) = [(key, value)] := by
  induction entries with
  | nil => exact absurd h List.not_mem_nil
  | cons e entries ih =>
    rw [List.map_cons, List.nodup_cons] at distinct
    obtain ⟨hnew, hdistinct⟩ := distinct
    obtain rfl | h := List.mem_cons.1 h
    · -- no later entry has the key
      have hnone : entries.filter (·.1 = key) = [] := by
        refine List.filter_eq_nil_iff.2 fun e he hkey => hnew ?_
        exact List.mem_map.2 ⟨e, he, of_decide_eq_true hkey⟩
      rw [List.filter_cons_of_pos (by simp), hnone]
    · have hne : e.1 ≠ key := by
        rintro rfl
        exact hnew (List.mem_map.2 ⟨_, h, rfl⟩)
      rw [List.filter_cons_of_neg (by simpa using hne)]
      exact ih hdistinct h

/-- A computation that succeeds for every item of a list does for the list. -/
theorem mapM_eq_some {α β : Type} {f : α → Option β} {g : α → β} {as : List α}
    (h : ∀ a ∈ as, f a = some (g a)) : as.mapM f = some (as.map g) := by
  induction as with
  | nil => rfl
  | cons a as ih =>
    obtain ⟨ha, has⟩ := List.forall_mem_cons.1 h
    rw [List.mapM_cons, ha, ih has]
    rfl

/-- **The fields of a record are found by their names**, if no two have the same. -/
theorem fields?_ofEntries (distinct : (entries.map (·.1)).Nodup) :
    (ofEntries entries).fields? (entries.map (·.1)) = some (entries.map fun e => some e.2) := by
  rw [ofEntries, fields?, decodedEntries?_encode, Option.bind_eq_bind, Option.bind_some,
    List.mapM_map]
  refine mapM_eq_some fun e he => ?_
  rw [Function.comp_apply, valuesAt_toList, filter_key_eq_singleton distinct he]
  rfl

end Json

namespace Token

variable {t : Token} {tokens : List Token}

theorem sound_toJson (t : Token) : Json.Sound t.toJson := by
  refine Json.sound_ofEntries ?_
  simp only [List.forall_mem_cons, List.not_mem_nil, false_imp_iff, implies_true, and_true]
  exact ⟨Json.sound_ofString _, Json.sound_ofString _, Json.sound_ofNat _⟩

/-- **A token is what its object stands for**, if the number of its line is in range. -/
theorem ofJson?_toJson (h : t.line ≤ Json.maxCount) : ofJson? t.toJson = some t := by
  have hfields : t.toJson.fields? fieldNames =
      some [some (.ofString t.kind), some (.ofString t.value), some (.ofNat t.line)] :=
    @Json.fields?_ofEntries [("type", .ofString t.kind), ("value", .ofString t.value),
      ("line", .ofNat t.line)] (show fieldNames.Nodup by decide)
  rw [ofJson?, hfields]
  simp only [Option.bind_eq_bind, Option.bind_some, Json.required, Json.string?_ofString,
    Json.count?_ofNat h]
  rfl

/-- **Tokens are read back from JSON.** A token is what its compact text stands for, and the listing
of tokens is the text of one array, whose items stand for the tokens in their order. -/
theorem read_printed :
    (∀ t : Token, t.line < 2 ^ 64 → (Json.parse? t.jsonText.toList).bind ofJson? = some t) ∧
    ∀ tokens : List Token, (∀ t ∈ tokens, t.line < 2 ^ 64) →
      ∃ items, Json.parse? (listing tokens .json).toList = some (.array items) ∧
        items.map ofJson? = tokens.map some := by
  have hrange : ∀ n < 2 ^ 64, n ≤ Json.maxCount := fun n hn => by
    rw [Json.maxCount]
    omega
  constructor
  · intro t ht
    rw [jsonText, String.toList_ofList, Json.parse?_compact (sound_toJson t), Option.bind_some]
    exact ofJson?_toJson (hrange _ ht)
  · intro tokens htokens
    have hsound : Json.Sound (listToJson tokens) := by
      refine .array fun j hj => ?_
      obtain ⟨t, -, rfl⟩ := List.mem_map.1 hj
      exact sound_toJson t
    refine ⟨tokens.map toJson, ?_, ?_⟩
    · rw [listing, String.toList_ofList]
      -- a line end stands behind the array
      exact Json.parse?_pretty hsound 0 (.singleton rfl)
    · rw [List.map_map]
      exact List.map_congr_left fun t ht => ofJson?_toJson (hrange _ (htokens t ht))

/-- A token with characters that have to be escaped and some that need not be, on the last line that
can be counted. -/
def awkward : Token := ⟨"\"\\", "\n\t\x01\x7fé😀", 18446744073709551615⟩

/-- The token is written with short escapes where there are any, and read back alone and from a
list. -/
theorem read_printed_awkward :
    awkward.jsonText = "\x7b\"type\":\"\\\"\\\\\",\"value\":\"\\n\\t\\u0001\x7fé😀\",\"line\":" ++
      "18446744073709551615\x7d" ∧
    (Json.parse? awkward.jsonText.toList).bind ofJson? = some awkward ∧
    ∃ items, Json.parse? (listing [awkward, awkward] .json).toList = some (.array items) ∧
      items.map ofJson? = [some awkward, some awkward] := by
  have hline : awkward.line < 2 ^ 64 := by decide
  refine ⟨by decide +kernel, read_printed.1 awkward hline, read_printed.2 [awkward, awkward] ?_⟩
  intro t ht
  simp only [List.mem_cons, List.not_mem_nil, or_false, or_self] at ht
  exact ht ▸ hline

end Token

end RuleLexer
