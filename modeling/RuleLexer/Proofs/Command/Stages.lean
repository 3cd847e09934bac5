import RuleLexer.Command.Run
import RuleLexer.Proofs.Grammar.Entries
import RuleLexer.Proofs.Grammar.Override

/-!
# The stages of the command

The command adds ready-made sets to the table of a grammar itself, one after the other. This is the
same as if the grammar had an entry for each of them behind its own (`Command.addPremades_eq_ok_iff`):
the two ways differ in how they say that a set is unknown, and in nothing else.

So what the command leaves behind is told by the parts of the library alone:

* `Options.Yields` — the grammar is loaded, the grammar with the sets behind its entries has a table,
  the text is read, and the table splits it into tokens.
* `Options.Stops` — a stage fails, and all stages in front of it succeed.

The single setting that the command asks for always has a key path, so that no loading fails for one
(`Command.load_ne_keyPath`).

Main statement: `Command.tokenize_by_stages`.
-/

namespace RuleLexer.Command

variable {t t' : Table} {name : String} {names : List String} {failure : Failure}

/-! ### Adding ready-made sets -/

/-- **A ready-made set is added** as its entry is. -/
theorem addPremade_eq_ok_iff :
    addPremade t name = .ok t' ↔ t.addEntry (.ofPremade name) = .ok t' := by
  rw [Table.addEntry_ofPremade_eq_ok_iff, addPremade]
  cases Premade.ofName? name with
  | none =>
    constructor
    · rintro ⟨⟩
    · rintro ⟨set, ⟨⟩, -⟩
  | some set =>
    rw [mapError_eq_ok_iff]
    constructor
    · intro h
      exact ⟨set, rfl, h⟩
    · rintro ⟨set', hset, h⟩
      obtain rfl := Option.some.inj hset
      exact h

/-- **A ready-made set is refused** if there is none of the name, and else if the table refuses one
of its rules. -/
theorem addPremade_eq_error_iff :
    addPremade t name = .error failure ↔
      (Premade.ofName? name = none ∧ failure = .unknownPremade name) ∨
      ∃ set cause, Premade.ofName? name = some set ∧ t.extend? set.rules = .error cause ∧
        failure = .table (.table cause) := by
  rw [addPremade]
  cases Premade.ofName? name with
  | none =>
    constructor
    · intro h
      exact Or.inl ⟨rfl, (Except.error.inj h).symm⟩
    · rintro (⟨-, rfl⟩ | ⟨set, cause, ⟨⟩, -⟩)
      rfl
  | some set =>
    rw [mapError_eq_error_iff]
    constructor
    · rintro ⟨cause, hcause, rfl⟩
      exact Or.inr ⟨set, cause, rfl, hcause, rfl⟩
    · rintro (⟨⟨⟩, -⟩ | ⟨set', cause, hset, hcause, rfl⟩)
      obtain rfl := Option.some.inj hset
      exact ⟨cause, hcause, rfl⟩

/-- **Ready-made sets are added** as their entries are. -/
theorem addPremades_eq_ok_iff :
    addPremades t names = .ok t' ↔ t.addEntries (names.map .ofPremade) = .ok t' := by
  induction names generalizing t with
  | nil =>
    exact ⟨fun h => congrArg Except.ok (Except.ok.inj h), fun h => congrArg Except.ok (Except.ok.inj h)⟩
  | cons name names ih =>
    rw [addPremades, List.map_cons, Table.addEntries, bind_eq_ok_iff, bind_eq_ok_iff]
    simp only [addPremade_eq_ok_iff, ih]

/-- The first set that is refused ends the adding; those in front of it are added as their entries
are. -/
theorem addPremades_eq_error_iff :
    addPremades t names = .error failure ↔
      ∃ done name rest t', names = done ++ name :: rest ∧
        t.addEntries (done.map .ofPremade) = .ok t' ∧ addPremade t' name = .error failure := by
  -- on the names; the first one is refused, or goes over to those that are added
  induction names generalizing t with
  | nil =>
    constructor
    · rintro ⟨⟩
    · rintro ⟨done, name, rest, t', hnames, -⟩
      exact absurd hnames (by simp)
  | cons first names ih =>
    rw [addPremades, bind_eq_error_iff]
    simp only [ih]
    constructor
    · rintro (hfirst | ⟨t₁, hfirst, done, name, rest, t', rfl, hdone, hname⟩)
      · exact ⟨[], first, names, t, rfl, rfl, hfirst⟩
      · refine ⟨first :: done, name, rest, t', rfl, ?_, hname⟩
        rw [List.map_cons, Table.addEntries, bind_eq_ok_iff]
        exact ⟨t₁, addPremade_eq_ok_iff.1 hfirst, hdone⟩
    · rintro ⟨done, name, rest, t', hnames, hdone, hname⟩
      cases done with
      | nil =>
        obtain ⟨rfl, -⟩ := List.cons.inj hnames
        obtain rfl := Except.ok.inj hdone
        exact Or.inl hname
      | cons q done =>
        obtain ⟨rfl, rfl⟩ := List.cons.inj hnames
        rw [List.map_cons, Table.addEntries, bind_eq_ok_iff] at hdone
        obtain ⟨t₁, hfirst, hdone⟩ := hdone
        exact Or.inr ⟨t₁, addPremade_eq_ok_iff.2 hfirst, done, name, rest, t', rfl, hdone, hname⟩

/-! ### What the options ask for, by the library -/

/-- **The options yield tokens**: every stage succeeds, the ready-made sets being entries behind
those of the grammar. -/
def Options.Yields (o : Options) (files : Files) (input : ByteArray) (tokens : List Token) : Prop :=
  ∃ g t text, o.load files = .ok g ∧ (g.withPremades o.sets).table = .ok t ∧
    o.text files input = .ok text ∧ t.scan (g.withPremades o.sets).options text = .ok tokens

/-- **A stage fails**, and it is the first that does. -/
inductive Options.Stops (o : Options) (files : Files) (input : ByteArray) : Failure → Prop
  /-- The grammar cannot be loaded. -/
  | load {cause : LoadError} (hload : o.load files = .error cause) : Stops o files input (.load cause)
  /-- The grammar has no table. -/
  | table {g : Grammar} {cause : EntryError} (hload : o.load files = .ok g)
      (htable : g.table = .error cause) : Stops o files input (.table cause)
  /-- There is no ready-made set of a name; the sets in front of it are added. -/
  | unknownPremade {g : Grammar} {done rest : List String} {name : String} {t : Table}
      (hload : o.load files = .ok g) (hsets : o.sets = done ++ name :: rest)
      (htable : (g.withPremades done).table = .ok t) (hname : Premade.ofName? name = none) :
      Stops o files input (.unknownPremade name)
  /-- The rules of a ready-made set are refused; the sets in front of it are added. -/
  | premade {g : Grammar} {done rest : List String} {name : String} {t : Table} {set : Premade}
      {cause : TableError} (hload : o.load files = .ok g) (hsets : o.sets = done ++ name :: rest)
      (htable : (g.withPremades done).table = .ok t) (hname : Premade.ofName? name = some set)
      (hextend : t.extend? set.rules = .error cause) : Stops o files input (.table (.table cause))
  /-- The text cannot be read. -/
  | read {g : Grammar} {t : Table} {cause : ReadError} (hload : o.load files = .ok g)
      (htable : (g.withPremades o.sets).table = .ok t) (htext : o.text files input = .error cause) :
      Stops o files input (.read cause)
  /-- The scan fails. -/
  | fault {g : Grammar} {t : Table} {text : String} {cause : Fault} (hload : o.load files = .ok g)
      (htable : (g.withPremades o.sets).table = .ok t) (htext : o.text files input = .ok text)
      (hscan : t.scan (g.withPremades o.sets).options text = .error cause) :
      Stops o files input (.fault cause)

/-- The table of a grammar with sets behind its entries, by the two steps of the command. -/
theorem table_withPremades_eq_ok_iff {g : Grammar} :
    (g.withPremades names).table = .ok t ↔
      ∃ t₁, g.table = .ok t₁ ∧ addPremades t₁ names = .ok t := by
  rw [Grammar.table_withPremades, bind_eq_ok_iff]
  simp only [addPremades_eq_ok_iff]

variable {o : Options} {files : Files} {input : ByteArray} {tokens : List Token}

/-- **The tokens that are read** are those that the options yield. -/
theorem tokens_eq_ok_iff : o.tokens files input = .ok tokens ↔ o.Yields files input tokens := by
  simp only [Options.tokens, Options.Yields, bind_eq_ok_iff, mapError_eq_ok_iff,
    table_withPremades_eq_ok_iff, Grammar.options_withPremades]
  constructor
  · rintro ⟨g, hload, t₁, htable, t, hsets, text, htext, hscan⟩
    exact ⟨g, t, text, hload, ⟨t₁, htable, hsets⟩, htext, hscan⟩
  · rintro ⟨g, t, text, hload, ⟨t₁, htable, hsets⟩, htext, hscan⟩
    exact ⟨g, hload, t₁, htable, t, hsets, text, htext, hscan⟩

/-- The sets of a grammar whose own table stands are refused at one of them. -/
theorem stops_of_addPremades {g : Grammar} (hload : o.load files = .ok g) (htable : g.table = .ok t)
    (h : addPremades t o.sets = .error failure) : o.Stops files input failure := by
  obtain ⟨done, name, rest, t', hsets, hdone, hname⟩ := addPremades_eq_error_iff.1 h
  have hbehind : (g.withPremades done).table = .ok t' :=
    table_withPremades_eq_ok_iff.2 ⟨t, htable, addPremades_eq_ok_iff.2 hdone⟩
  obtain ⟨hunknown, rfl⟩ | ⟨set, cause, hset, hextend, rfl⟩ := addPremade_eq_error_iff.1 hname
  · exact .unknownPremade hload hsets hbehind hunknown
  · exact .premade hload hsets hbehind hset hextend

/-- A set that is refused behind others is refused among all. -/
theorem addPremades_of_refused {g : Grammar} {done rest : List String}
    (hsets : o.sets = done ++ name :: rest) (hbehind : (g.withPremades done).table = .ok t)
    (hname : addPremade t name = .error failure) :
    ∃ t₁, g.table = .ok t₁ ∧ addPremades t₁ o.sets = .error failure := by
  obtain ⟨t₁, htable, hdone⟩ := table_withPremades_eq_ok_iff.1 hbehind
  exact ⟨t₁, htable, addPremades_eq_error_iff.2
    ⟨done, name, rest, t, hsets, addPremades_eq_ok_iff.1 hdone, hname⟩⟩

/-- **The reading of tokens fails** where the options stop. -/
theorem tokens_eq_error_iff :
    o.tokens files input = .error failure ↔ o.Stops files input failure := by
  simp only [Options.tokens, bind_eq_error_iff, mapError_eq_error_iff, mapError_eq_ok_iff]
  constructor
  · -- one case for each stage that can fail
    rintro (⟨cause, hload, rfl⟩ | ⟨g, hload, ⟨cause, htable, rfl⟩ | ⟨t₁, htable, hsets |
      ⟨t, hsets, ⟨cause, htext, rfl⟩ | ⟨text, htext, cause, hscan, rfl⟩⟩⟩⟩)
    · exact .load hload
    · exact .table hload htable
    · exact stops_of_addPremades hload htable hsets
    · exact .read hload (table_withPremades_eq_ok_iff.2 ⟨t₁, htable, hsets⟩) htext
    · exact .fault hload (table_withPremades_eq_ok_iff.2 ⟨t₁, htable, hsets⟩) htext hscan
  · intro h
    cases h with
    | load hload => exact Or.inl ⟨_, hload, rfl⟩
    | table hload htable => exact Or.inr ⟨_, hload, Or.inl ⟨_, htable, rfl⟩⟩
    | unknownPremade hload hsets hbehind hname =>
      obtain ⟨t₁, htable, hrefused⟩ :=
        addPremades_of_refused hsets hbehind (addPremade_eq_error_iff.2 (Or.inl ⟨hname, rfl⟩))
      exact Or.inr ⟨_, hload, Or.inr ⟨_, htable, Or.inl hrefused⟩⟩
    | premade hload hsets hbehind hname hextend =>
      obtain ⟨t₁, htable, hrefused⟩ := addPremades_of_refused hsets hbehind
        (addPremade_eq_error_iff.2 (Or.inr ⟨_, _, hname, hextend, rfl⟩))
      exact Or.inr ⟨_, hload, Or.inr ⟨_, htable, Or.inl hrefused⟩⟩
    | read hload hbehind htext =>
      obtain ⟨t₁, htable, hsets⟩ := table_withPremades_eq_ok_iff.1 hbehind
      exact Or.inr ⟨_, hload, Or.inr ⟨_, htable, Or.inr ⟨_, hsets, Or.inl ⟨_, htext, rfl⟩⟩⟩⟩
    | fault hload hbehind htext hscan =>
      obtain ⟨t₁, htable, hsets⟩ := table_withPremades_eq_ok_iff.1 hbehind
      exact Or.inr ⟨_, hload, Or.inr ⟨_, htable, Or.inr ⟨_, hsets, Or.inr ⟨_, htext, _, hscan,
        rfl⟩⟩⟩⟩

/-! ### What the command leaves behind -/

theorem tokenize_of_yields (h : o.Yields files input tokens) :
    o.tokenize files input = ⟨0, Token.listing tokens (o.format.getD .json), ""⟩ := by
  rw [Options.tokenize, tokens_eq_ok_iff.2 h]

theorem tokenize_of_stops (h : o.Stops files input failure) :
    o.tokenize files input = ⟨1, "", failure.message ++ "\n"⟩ := by
  rw [Options.tokenize, tokens_eq_error_iff.2 h]
  rfl

/-- The options yield tokens, or they stop somewhere. -/
theorem yields_or_stops (o : Options) (files : Files) (input : ByteArray) :
    (∃ tokens, o.Yields files input tokens) ∨ ∃ failure, o.Stops files input failure := by
  cases h : o.tokens files input with
  | ok tokens => exact Or.inl ⟨tokens, tokens_eq_ok_iff.1 h⟩
  | error failure => exact Or.inr ⟨failure, tokens_eq_error_iff.1 h⟩

/-- The number of characters that the options ask for is that of the grammar. -/
theorem maxErrorText_of_load {n : Nat} {g : Grammar} (hn : o.maxErrorText = some n)
    (hload : o.load files = .ok g) : g.options.maxErrorText = n := by
  rw [Options.load, Options.overrides, hn] at hload
  exact Grammar.maxErrorText_of_load hload

/-- The options never ask for what is no key path, so the loading does not fail for one. -/
theorem load_ne_keyPath (o : Options) (files : Files) (key : String) :
    o.load files ≠ .error (.keyPath key) := by
  rw [Options.load, Options.overrides]
  cases o.maxErrorText with
  | none => exact Grammar.load_ne_keyPath rfl key
  | some n =>
    exact Grammar.load_ne_keyPath (Grammar.override_eq_ok _ Grammar.ofText?_maxErrorText) key

/-- **The command does what the library does.** It succeeds exactly when the options yield tokens,
the ready-made sets being entries behind those of the grammar, and then shows those tokens in the
format and no complaint. Otherwise it fails, shows nothing, and complains about the first stage that
fails, which there always is. The number of characters that a failure quotes is the one that the
options ask for. -/
theorem tokenize_by_stages (o : Options) (files : Files) (input : ByteArray) :
    ((o.tokenize files input).code = 0 ↔ ∃ tokens, o.Yields files input tokens) ∧
    (∀ tokens, o.Yields files input tokens →
      o.tokenize files input = ⟨0, Token.listing tokens (o.format.getD .json), ""⟩) ∧
    ((¬ ∃ tokens, o.Yields files input tokens) → ∃ failure, o.Stops files input failure) ∧
    (∀ failure, o.Stops files input failure →
      o.tokenize files input = ⟨1, "", failure.message ++ "\n"⟩) ∧
    (∀ n g, o.maxErrorText = some n → o.load files = .ok g → g.options.maxErrorText = n) := by
  refine ⟨⟨fun hcode => ?_, ?_⟩, fun tokens => tokenize_of_yields, fun hnone => ?_,
    fun failure => tokenize_of_stops, fun n g => maxErrorText_of_load⟩
  · obtain hyields | ⟨failure, hstops⟩ := yields_or_stops o files input
    · exact hyields
    · rw [tokenize_of_stops hstops] at hcode
      exact absurd hcode Nat.one_ne_zero
  · rintro ⟨tokens, hyields⟩
    rw [tokenize_of_yields hyields]
  · exact (yields_or_stops o files input).resolve_left hnone

/-- A text of two signs on the input, to be read by ready-made sets and shown simply. -/
def signs (sets : List String) : Options where
  path := some "-"
  premades := some sets
  format := some .simple
  maxErrorText := some 7

/-- Two sets suffice for the text. A name that no set has is complained about, although the table is
built up to it; and seven characters are quoted. -/
theorem tokenize_by_stages_signs :
    (∃ tokens, (signs ["operator_arithmetic", "whitespace"]).Yields (fun _ => .missing)
        "+ -".toUTF8 tokens ∧
      Token.listing tokens .simple =
        "OPERATOR_ARITHMETIC(\"+\") @0\nOPERATOR_ARITHMETIC(\"-\") @0\n") ∧
    (∃ failure, (signs ["whitespace", "words"]).Stops (fun _ => .missing) "+ -".toUTF8 failure ∧
      failure.message ++ "\n" =
        "Unknown premade 'words'. Available premades: string, float, int, bool, list, tuple, dict, " ++
          "identifier, operator, operator_arithmetic, comment, whitespace, var_declaration\n") ∧
    ∃ g, (signs []).load (fun _ => .missing) = .ok g ∧ g.options.maxErrorText = 7 := by
  refine ⟨?_, ?_, ?_⟩
  · obtain ⟨succeeds, shows, -⟩ := tokenize_by_stages
      (signs ["operator_arithmetic", "whitespace"]) (fun _ => .missing) "+ -".toUTF8
    obtain ⟨tokens, hyields⟩ := succeeds.1 (by decide +kernel)
    have houtput : ((signs ["operator_arithmetic", "whitespace"]).tokenize (fun _ => .missing)
        "+ -".toUTF8).output =
        "OPERATOR_ARITHMETIC(\"+\") @0\nOPERATOR_ARITHMETIC(\"-\") @0\n" := by decide +kernel
    rw [shows tokens hyields] at houtput
    exact ⟨tokens, hyields, houtput⟩
  · obtain ⟨succeeds, -, stops, complains, -⟩ := tokenize_by_stages
      (signs ["whitespace", "words"]) (fun _ => .missing) "+ -".toUTF8
    have houtcome : (signs ["whitespace", "words"]).tokenize (fun _ => .missing) "+ -".toUTF8 =
        ⟨1, "",
          "Unknown premade 'words'. Available premades: string, float, int, bool, list, tuple, dict, " ++
            "identifier, operator, operator_arithmetic, comment, whitespace, var_declaration\n"⟩ := by
      decide +kernel
    obtain ⟨failure, hstops⟩ := stops fun hyields => by
      have hcode := succeeds.2 hyields
      rw [houtcome] at hcode
      exact absurd hcode Nat.one_ne_zero
    rw [complains failure hstops] at houtcome
    exact ⟨failure, hstops, congrArg Outcome.complaint houtcome⟩
  · obtain ⟨succeeds, -, -, -, quotes⟩ :=
      tokenize_by_stages (signs []) (fun _ => .missing) ByteArray.empty
    obtain ⟨-, g, -, -, hload, -⟩ := succeeds.1 (by decide +kernel)
    exact ⟨g, hload, quotes 7 g rfl hload⟩

end RuleLexer.Command
