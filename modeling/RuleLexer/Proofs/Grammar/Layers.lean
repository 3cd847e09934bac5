import Mathlib.Data.List.Basic
import RuleLexer.Proofs.Grammar.Override
import RuleLexer.Proofs.Setting.Merge

/-!
# Layers are one document

A grammar is loaded from any number of layers. The parts of a layer are a table `settings`, a table
`fallback_error` and a list `rules`; the tables of all layers become one table, and of the lists the
last remains. So the layers are read like one document (`Grammar.single`), in which whatever can be
said of a grammar (`Grammar.Topic`) is said once, namely as the last layer says it that says
anything of it.

An empty table says nothing where something was said before: it is merged with what is there. A
single setting for the number of characters is one more layer behind all others
(`Grammar.settings_forced`).

* `Grammar.ofSetting_single` — the layers are read like the single document, over the defaults;
* `Grammar.single_congr` — the single document depends on what is said of each topic, in its order,
  so that layers that speak of different topics can be exchanged.

Main statement: `Grammar.load_layers`.
-/

namespace RuleLexer

open Setting (Respects LikeAt valuesAt valuesUnder lastOf? tableAt)

/-! ### Records of a grammar -/

/-- The choices for a scan are read alike if the number of characters is. -/
theorem ScanOptions.ofSetting_respects : Respects (LikeAt ["max_error_text"]) ofSetting := by
  rintro s s' ⟨⟨entries, rfl⟩, ⟨entries', rfl⟩, hentries⟩
  have hmost := Setting.Field.required_alike Setting.count_respects
    (hentries "max_error_text" List.mem_cons_self) recordKind "max_error_text"
  exact hmost.map fun most most' => congrArg ScanOptions.mk

/-- A descriptor is read alike if its kind and its message are. -/
theorem Descriptor.ofSetting_respects : Respects (LikeAt ["kind", "message"]) ofSetting := by
  rintro s s' ⟨⟨entries, rfl⟩, ⟨entries', rfl⟩, hentries⟩
  have hkind := Setting.Field.withDefault_alike Setting.string_respects
    (hentries "kind" List.mem_cons_self) recordKind "kind" defaultKind
  have hmessage := Setting.Field.required_alike Setting.string_respects
    (hentries "message" (List.mem_cons_of_mem _ List.mem_cons_self)) recordKind "message"
  refine hkind.bind fun kind _ _ => ?_
  rintro rfl
  refine hmessage.bind fun message _ _ => ?_
  rintro rfl
  exact .ok rfl

namespace Grammar

/-- **A grammar is read alike** if its tables are alike and its lists are the same. -/
theorem ofSetting_alike {s s' : Setting} (h : s.IsTable) (h' : s'.IsTable)
    (options : Option.Rel (LikeAt ["max_error_text"]) (s.get? "settings") (s'.get? "settings"))
    (fallback : Option.Rel (LikeAt ["kind", "message"]) (s.get? "fallback_error")
      (s'.get? "fallback_error"))
    (rules : s.get? "rules" = s'.get? "rules") :
    Alike Eq SettingError.Like (ofSetting s) (ofSetting s') := by
  obtain ⟨entries, rfl⟩ := h
  obtain ⟨entries', rfl⟩ := h'
  have hoptions := Setting.Field.required_alike ScanOptions.ofSetting_respects options recordKind
    "settings"
  have hfallback := Setting.Field.withDefault_alike
    (Setting.nullable_respects Descriptor.ofSetting_respects) fallback recordKind "fallback_error"
    none
  have hrules : Option.Rel Eq (entries.lookup "rules") (entries'.lookup "rules") := by
    rw [show entries.lookup "rules" = entries'.lookup "rules" from rules]
    exact Setting.rel_refl fun _ _ => rfl
  have hentries := Setting.Field.withDefault_alike
    (Setting.respects_eq (Setting.list Entry.ofSetting)) hrules recordKind "rules" []
  refine hoptions.bind fun options _ _ => ?_
  rintro rfl
  refine hfallback.bind fun fallback _ _ => ?_
  rintro rfl
  refine hentries.bind fun entries _ _ => ?_
  rintro rfl
  exact .ok rfl

/-! ### What layers say -/

/-- The settings of a layer, by their top-level keys. -/
abbrev Layer := List (String × Setting)

/-- Whether an entry of a layer is a part of a grammar. -/
def isPart : String × Setting → Bool
  | (key, .table _ _) => key = "settings" || key = "fallback_error"
  | (key, .array _ _) => key = "rules"
  | _ => false

/-- **What can be said of a grammar** in a layer. -/
inductive Topic
  /-- The number of characters that a failure quotes. -/
  | maxErrorText
  /-- The kind of the fallback descriptor. -/
  | kind
  /-- The message of the fallback descriptor. -/
  | message
  /-- The entries. -/
  | rules
  deriving DecidableEq, Repr

/-- What is said of a topic, in its order. -/
def Topic.values : Topic → Layer → List Setting
  | .maxErrorText => valuesUnder "settings" "max_error_text"
  | .kind => valuesUnder "fallback_error" "kind"
  | .message => valuesUnder "fallback_error" "message"
  | .rules => valuesAt "rules"

/-- **The single document** that layers stand for. Of each topic it says what the layers say last,
empty tables apart. -/
def single (layers : List Layer) : Layer :=
  tableAt "settings" ["max_error_text"] layers.flatten ++
    tableAt "fallback_error" ["kind", "message"] layers.flatten ++
      (lastOf? (valuesAt "rules" layers.flatten)).toList.map ("rules", ·)

variable {layers : List Layer} {entries more : Layer}

theorem Topic.values_append (topic : Topic) (entries more : Layer) :
    topic.values (entries ++ more) = topic.values entries ++ topic.values more := by
  cases topic with
  | rules => exact Setting.valuesAt_append "rules" entries more
  | maxErrorText | kind | message => exact Setting.valuesUnder_append _ _ entries more

/-! ### Parts -/

/-- The keys of a grammar are in lower case. -/
theorem lowercase_keys :
    Unicode.lowercase "settings" = "settings" ∧
      Unicode.lowercase "fallback_error" = "fallback_error" ∧
      Unicode.lowercase "rules" = "rules" ∧
      (∀ name ∈ ["max_error_text"], Unicode.lowercase name = name) ∧
      ∀ name ∈ ["kind", "message"], Unicode.lowercase name = name := by
  decide +kernel

/-- The top-level keys of a grammar are key paths of one key. -/
theorem ofText?_key :
    ∀ key ∈ ["settings", "fallback_error", "rules"], KeyPath.ofText? key = some ⟨key, []⟩ := by
  decide +kernel

/-- A part is a table or a list, as its key says. -/
theorem isPart_iff {key : String} {v : Setting} :
    isPart (key, v) = true ↔
      (key = "settings" ∨ key = "fallback_error") ∧ v.isTable = true ∨
        key = "rules" ∧ ∃ items origin, v = .array items origin := by
  cases v <;> simp [isPart, Setting.isTable]

theorem mem_keys_of_isPart {e : String × Setting} (h : isPart e = true) :
    e.1 ∈ ["settings", "fallback_error", "rules"] := by
  rcases isPart_iff.1 h with ⟨hkey | hkey, -⟩ | ⟨hkey, -⟩ <;> simp [hkey]

theorem lowercase_of_isPart {e : String × Setting} (h : isPart e = true) :
    Unicode.lowercase e.1 = e.1 := by
  obtain ⟨hsettings, hfallback, hrules, -⟩ := lowercase_keys
  rcases isPart_iff.1 h with ⟨hkey | hkey, -⟩ | ⟨hkey, -⟩
  · rw [hkey, hsettings]
  · rw [hkey, hfallback]
  · rw [hkey, hrules]

/-- The values at a key of parts are those of parts of this key. -/
theorem isPart_of_mem_valuesAt (parts : ∀ e ∈ entries, isPart e = true) {key : String} {v : Setting}
    (h : v ∈ valuesAt key entries) : isPart (key, v) = true := by
  obtain ⟨k, hmem, rfl⟩ := Setting.mem_valuesAt.1 h
  have hpart := parts (k, v) hmem
  rwa [lowercase_of_isPart hpart]

theorem isTable_of_mem_valuesAt (parts : ∀ e ∈ entries, isPart e = true) {key : String}
    (hkey : key ≠ "rules") : ∀ v ∈ valuesAt key entries, v.isTable = true := by
  intro v hv
  rcases isPart_iff.1 (isPart_of_mem_valuesAt parts hv) with ⟨-, htable⟩ | ⟨hrules, -⟩
  · exact htable
  · exact absurd hrules hkey

theorem plain_of_mem_rules (parts : ∀ e ∈ entries, isPart e = true) :
    ∀ v ∈ valuesAt "rules" entries, v.isTable = false := by
  intro v hv
  rcases isPart_iff.1 (isPart_of_mem_valuesAt parts hv) with ⟨hkey, -⟩ | ⟨-, items, origin, rfl⟩
  · exact absurd hkey (by decide)
  · rfl

/-- **Parts are put** under their keys. -/
theorem overlay_eq_putAll (s : Setting) (parts : ∀ e ∈ entries, isPart e = true) :
    s.overlay entries = s.putAll entries := by
  induction entries generalizing s with
  | nil => exact (Setting.putAll_nil s).symm
  | cons e entries ih =>
    have hpath := ofText?_key e.1 (mem_keys_of_isPart (parts e List.mem_cons_self))
    rw [Setting.putAll_cons, ← ih _ fun e' he' => parts e' (List.mem_cons_of_mem e he'),
      Setting.overlay, List.foldl_cons]
    simp only [hpath]
    rfl

/-- **Layers of parts** are put one behind the other. -/
theorem foldl_overlay (s : Setting) (parts : ∀ layer ∈ layers, ∀ e ∈ layer, isPart e = true) :
    layers.foldl Setting.overlay s = s.putAll layers.flatten := by
  induction layers generalizing s with
  | nil => exact (Setting.putAll_nil s).symm
  | cons layer layers ih =>
    rw [List.foldl_cons, ih _ fun l hl => parts l (List.mem_cons_of_mem layer hl),
      overlay_eq_putAll s (parts layer List.mem_cons_self), List.flatten_cons,
      Setting.putAll_append]

theorem parts_flatten (parts : ∀ layer ∈ layers, ∀ e ∈ layer, isPart e = true) :
    ∀ e ∈ layers.flatten, isPart e = true := by
  intro e he
  obtain ⟨layer, hlayer, hmem⟩ := List.mem_flatten.1 he
  exact parts layer hlayer e hmem

/-! ### The single document -/

/-- What the single document has at its top-level keys. -/
theorem valuesAt_single (layers : List Layer) :
    valuesAt "settings" (single layers) =
        valuesAt "settings" (tableAt "settings" ["max_error_text"] layers.flatten) ∧
      valuesAt "fallback_error" (single layers) =
        valuesAt "fallback_error" (tableAt "fallback_error" ["kind", "message"] layers.flatten) ∧
      valuesAt "rules" (single layers) = (lastOf? (valuesAt "rules" layers.flatten)).toList := by
  obtain ⟨hsettings, hfallback, hrules, -⟩ := lowercase_keys
  simp [single, Setting.valuesAt_append, Setting.valuesAt_tableAt, Setting.valuesAt_toList,
    hsettings, hfallback, hrules]

/-- **The single document says of each topic** what was said last. -/
theorem Topic.values_single (topic : Topic) (layers : List Layer) :
    topic.values (single layers) = (lastOf? (topic.values layers.flatten)).toList := by
  obtain ⟨hsettings, hfallback, -, hmost, hparts⟩ := lowercase_keys
  obtain ⟨atSettings, atFallback, atRules⟩ := valuesAt_single layers
  cases topic with
  | rules => exact atRules
  | maxErrorText =>
    show valuesUnder "settings" "max_error_text" (single layers) = _
    rw [valuesUnder, atSettings]
    exact Setting.valuesUnder_tableAt (by decide) hmost hsettings (by decide) layers.flatten
  | kind =>
    show valuesUnder "fallback_error" "kind" (single layers) = _
    rw [valuesUnder, atFallback]
    exact Setting.valuesUnder_tableAt (by decide) hparts hfallback (by decide) layers.flatten
  | message =>
    show valuesUnder "fallback_error" "message" (single layers) = _
    rw [valuesUnder, atFallback]
    exact Setting.valuesUnder_tableAt (by decide) hparts hfallback (by decide) layers.flatten

/-- The single document has the parts of a grammar only. -/
theorem parts_single (parts : ∀ layer ∈ layers, ∀ e ∈ layer, isPart e = true) :
    ∀ e ∈ single layers, isPart e = true := by
  have table : ∀ key names, (key = "settings" ∨ key = "fallback_error") →
      ∀ e ∈ tableAt key names layers.flatten, isPart e = true := by
    intro key names hkey e he
    rw [tableAt] at he
    split at he
    · exact absurd he List.not_mem_nil
    · rw [List.mem_singleton.1 he]
      exact isPart_iff.2 (Or.inl ⟨hkey, rfl⟩)
  intro e he
  rcases List.mem_append.1 he with he | he
  · rcases List.mem_append.1 he with he | he
    · exact table "settings" _ (Or.inl rfl) e he
    · exact table "fallback_error" _ (Or.inr rfl) e he
  · obtain ⟨v, hv, rfl⟩ := List.mem_map.1 he
    exact isPart_of_mem_valuesAt (parts_flatten parts)
      (Setting.mem_of_lastOf? (Option.mem_toList.1 hv))

/-- **The layers are read like the single document.** -/
theorem ofSetting_single (parts : ∀ layer ∈ layers, ∀ e ∈ layer, isPart e = true) :
    Alike Eq SettingError.Like (ofSetting (layers.foldl Setting.overlay defaults))
      (ofSetting (defaults.overlay (single layers))) := by
  obtain ⟨hsettings, hfallback, -, hmost, hparts⟩ := lowercase_keys
  obtain ⟨atSettings, atFallback, atRules⟩ := valuesAt_single layers
  have hall := parts_flatten parts
  have hdefaults : defaults.IsTable := ⟨_, rfl⟩
  rw [foldl_overlay defaults parts, overlay_eq_putAll defaults (parts_single parts)]
  refine ofSetting_alike (hdefaults.putAll _) (hdefaults.putAll _) ?_ ?_ ?_
  · -- the default number stands in the table that the layers are merged with
    rw [Setting.get?_putAll, Setting.get?_putAll, atSettings]
    refine Setting.mergeAll_tableAt (by decide) hmost hsettings
      (isTable_of_mem_valuesAt hall (by decide)) ?_
    rintro s ⟨⟩
    refine ⟨⟨_, rfl⟩, fun name hname v hv => ?_⟩
    obtain rfl := List.mem_singleton.1 hname
    obtain rfl := Option.some.inj hv
    rintro entries origin ⟨⟩
  · rw [Setting.get?_putAll, Setting.get?_putAll, atFallback]
    refine Setting.mergeAll_tableAt (by decide) hparts hfallback
      (isTable_of_mem_valuesAt hall (by decide)) ?_
    rintro s ⟨⟩
  · have hplain := plain_of_mem_rules hall
    rw [Setting.get?_putAll, Setting.get?_putAll, Setting.mergeAll_of_plain hplain,
      Setting.mergeAll_of_plain (plain_of_mem_rules (parts_single parts)), atRules,
      Setting.lastOf?_of_plain hplain]
    cases (valuesAt "rules" layers.flatten).getLast? <;> rfl

/-- **What is said of each topic decides the single document**, with the tables that there are. -/
theorem single_congr {layers' : List Layer}
    (topics : ∀ topic : Topic, topic.values layers.flatten = topic.values layers'.flatten)
    (tables : ∀ key,
      (valuesAt key layers.flatten).isEmpty = (valuesAt key layers'.flatten).isEmpty) :
    single layers = single layers' := by
  have table : ∀ key names, (∀ name ∈ names, valuesUnder key name layers.flatten =
      valuesUnder key name layers'.flatten) →
      tableAt key names layers.flatten = tableAt key names layers'.flatten := by
    intro key names hnames
    have hlast : Setting.lastEntries names
          ((valuesAt key layers.flatten).flatMap Setting.entriesOf) =
        Setting.lastEntries names ((valuesAt key layers'.flatten).flatMap Setting.entriesOf) := by
      refine List.flatMap_congr fun name hname => ?_
      rw [← valuesUnder, ← valuesUnder, hnames name hname]
    rw [tableAt, tableAt, tables key, hlast]
  have hsettings : tableAt "settings" ["max_error_text"] layers.flatten =
      tableAt "settings" ["max_error_text"] layers'.flatten := by
    refine table "settings" _ fun name hname => ?_
    obtain rfl := List.mem_singleton.1 hname
    exact topics .maxErrorText
  have hfallback : tableAt "fallback_error" ["kind", "message"] layers.flatten =
      tableAt "fallback_error" ["kind", "message"] layers'.flatten := by
    refine table "fallback_error" _ fun name hname => ?_
    rcases List.mem_cons.1 hname with rfl | hname
    · exact topics .kind
    · obtain rfl := List.mem_singleton.1 hname
      exact topics .message
  have hrules : valuesAt "rules" layers.flatten = valuesAt "rules" layers'.flatten := topics .rules
  rw [single, single, hsettings, hfallback, hrules]

/-- **Layers that speak of different topics** can be exchanged. -/
theorem single_exchange (before after : List Layer) {layer layer' : Layer}
    (apart : ∀ topic : Topic, topic.values layer = [] ∨ topic.values layer' = []) :
    single (before ++ layer' :: layer :: after) = single (before ++ layer :: layer' :: after) := by
  refine single_congr (fun topic => ?_) fun key => ?_
  · simp only [List.flatten_append, List.flatten_cons, Topic.values_append]
    rcases apart topic with h | h <;> simp [h]
  · simp only [List.flatten_append, List.flatten_cons, Setting.valuesAt_append]
    exact ((List.perm_append_comm_assoc _ _ _).append_left _).isEmpty_eq

/-! ### Loading -/

variable {files : Files} {sources before after : List LayerSource}

/-- **What comes of a loading**: the grammar, or what the failure says. -/
def outcome (files : Files) (sources : List LayerSource) (overrides : List (String × Setting)) :
    Except String Grammar :=
  (load files sources overrides).mapError LoadError.message

/-- A layer that says the number of characters that a failure quotes, and nothing else. -/
def maxErrorTextLayer (v : Setting) : Layer := [("settings", .table [("max_error_text", v)] none)]

theorem parts_maxErrorTextLayer (v : Setting) : ∀ e ∈ maxErrorTextLayer v, isPart e = true := by
  intro e he
  rw [List.mem_singleton.1 he]
  rfl

theorem values_maxErrorTextLayer (v : Setting) :
    Topic.maxErrorText.values (maxErrorTextLayer v) = [v] := by
  obtain ⟨hsettings, -, -, hmost, -⟩ := lowercase_keys
  have htables : valuesAt "settings" (maxErrorTextLayer v) =
      [.table [("max_error_text", v)] none] := by
    rw [maxErrorTextLayer, Setting.valuesAt_cons, if_pos hsettings]
    rfl
  show valuesUnder "settings" "max_error_text" (maxErrorTextLayer v) = [v]
  rw [valuesUnder, htables, List.flatMap_singleton, Setting.entriesOf, Setting.valuesAt_cons,
    if_pos (hmost "max_error_text" List.mem_cons_self)]
  rfl

/-- **A single setting for the number of characters** is one more layer, behind all others. -/
theorem settings_forced (loaded : sources.mapM (layer files) = .ok layers)
    (forced : Option Setting) :
    settings files sources (forced.toList.map ("settings.max_error_text", ·)) =
      .ok ((layers ++ forced.toList.map maxErrorTextLayer).foldl Setting.overlay defaults) := by
  cases forced with
  | none =>
    rw [settings_eq_map rfl, loaded, Option.toList_none, List.map_nil, List.append_nil]
    rfl
  | some v =>
    rw [Option.toList_some, List.map_singleton, List.map_singleton,
      settings_eq_map (override_eq_ok v ofText?_maxErrorText), loaded, List.foldl_append]
    refine congrArg Except.ok ?_
    show (layers.foldl Setting.overlay defaults).putAt ⟨"settings", [.key "max_error_text"]⟩ v =
      (layers.foldl Setting.overlay defaults).overlay (maxErrorTextLayer v)
    rw [Setting.putAt_pair, overlay_eq_putAll _ (parts_maxErrorTextLayer v), maxErrorTextLayer,
      Setting.putAll_cons, Setting.putAll_nil]

theorem outcome_eq {overrides : List (String × Setting)} {s : Setting}
    (h : settings files sources overrides = .ok s) :
    outcome files sources overrides = (ofSetting s).mapError SettingError.message := by
  have hload : load files sources overrides = (ofSetting s).mapError .setting := by
    rw [load, h]
    rfl
  rw [outcome, hload]
  cases ofSetting s <;> rfl

/-- **Loading layers is reading their single document.** -/
theorem outcome_forced (loaded : sources.mapM (layer files) = .ok layers)
    (parts : ∀ layer ∈ layers, ∀ e ∈ layer, isPart e = true) (forced : Option Setting) :
    outcome files sources (forced.toList.map ("settings.max_error_text", ·)) =
      (ofSetting (defaults.overlay
        (single (layers ++ forced.toList.map maxErrorTextLayer)))).mapError
          SettingError.message := by
  rw [outcome_eq (settings_forced loaded forced)]
  have hparts : ∀ layer ∈ layers ++ forced.toList.map maxErrorTextLayer, ∀ e ∈ layer,
      isPart e = true := by
    intro layer hlayer
    rcases List.mem_append.1 hlayer with hlayer | hlayer
    · exact parts layer hlayer
    · obtain ⟨v, -, rfl⟩ := List.mem_map.1 hlayer
      exact parts_maxErrorTextLayer v
  exact alike_eq_iff.1 ((ofSetting_single hparts).mapError fun _ _ he => he.message_eq)

/-- There is no document of a name at whose places no file stands. -/
theorem document_of_missing {name : String}
    (missing : ∀ path ∈ Files.candidates name, ∀ content, files path ≠ .file content) :
    files.document name = .error (.noFile name) := by
  have hnone : ∀ paths : List String, (∀ path ∈ paths, ∀ content, files path ≠ .file content) →
      files.firstFile? paths = none := by
    intro paths
    induction paths with
    | nil => exact fun _ => rfl
    | cons path paths ih =>
      intro h
      rw [Files.firstFile?]
      split
      · next content hfile => exact absurd hfile (h path List.mem_cons_self content)
      · exact ih fun p hp => h p (List.mem_cons_of_mem path hp)
  rw [Files.document, hnone _ missing]

/-- **A file that need not be there**, and cannot be read, changes nothing. -/
theorem load_missing {name : String} {cause : LoadError}
    (missing : files.document name = .error cause) (overrides : List (String × Setting)) :
    load files (before ++ .file name false :: after) overrides =
      load files (before ++ after) overrides := by
  have hlayer : layer files (.file name false) = .ok [] := by
    rw [layer, missing]
    rfl
  have hsettings : settings files (before ++ .file name false :: after) overrides =
      settings files (before ++ after) overrides := by
    unfold settings
    rw [List.mapM_append, List.mapM_append, List.mapM_cons, hlayer]
    -- what the single settings fail for comes first, and is the same
    congr 1
    funext paths
    cases before.mapM (layer files) with
    | error e => rfl
    | ok layers =>
      -- the empty layer stands between those in front of the file and those behind it
      cases after.mapM (layer files) with
      | error e => rfl
      | ok layers' =>
        show Except.ok _ = Except.ok _
        rw [List.foldl_append, List.foldl_append]
        rfl
  rw [load, load, hsettings]

/-- Layers are loaded when those in front of two of them are, the two, and those behind. -/
theorem mapM_two_eq_ok_iff {a b : LayerSource} :
    (before ++ a :: b :: after).mapM (layer files) = .ok layers ↔
      ∃ front la lb back, before.mapM (layer files) = .ok front ∧ layer files a = .ok la ∧
        layer files b = .ok lb ∧ after.mapM (layer files) = .ok back ∧
        layers = front ++ la :: lb :: back := by
  rw [List.mapM_append, List.mapM_cons, List.mapM_cons]
  simp only [bind_eq_ok_iff]
  constructor
  · rintro ⟨front, hfront, -, ⟨la, ha, -, ⟨lb, hb, back, hback, ⟨⟩⟩, ⟨⟩⟩, ⟨⟩⟩
    exact ⟨front, la, lb, back, hfront, ha, hb, hback, rfl⟩
  · rintro ⟨front, la, lb, back, hfront, ha, hb, hback, rfl⟩
    exact ⟨front, hfront, _, ⟨la, ha, _, ⟨lb, hb, back, hback, rfl⟩, rfl⟩, rfl⟩

/-- **Layers that speak of different topics** can be exchanged. -/
theorem outcome_exchange {a b : LayerSource} {la lb : Layer}
    (loaded : (before ++ a :: b :: after).mapM (layer files) = .ok layers)
    (parts : ∀ layer ∈ layers, ∀ e ∈ layer, isPart e = true) (ha : layer files a = .ok la)
    (hb : layer files b = .ok lb)
    (apart : ∀ topic : Topic, topic.values la = [] ∨ topic.values lb = [])
    (forced : Option Setting) :
    outcome files (before ++ b :: a :: after)
        (forced.toList.map ("settings.max_error_text", ·)) =
      outcome files (before ++ a :: b :: after)
        (forced.toList.map ("settings.max_error_text", ·)) := by
  obtain ⟨front, la', lb', back, hfront, ha', hb', hback, rfl⟩ := mapM_two_eq_ok_iff.1 loaded
  obtain rfl := Except.ok.inj (ha.symm.trans ha')
  obtain rfl := Except.ok.inj (hb.symm.trans hb')
  have loaded' : (before ++ b :: a :: after).mapM (layer files) = .ok (front ++ lb :: la :: back) :=
    mapM_two_eq_ok_iff.2 ⟨front, lb, la, back, hfront, hb, ha, hback, rfl⟩
  have parts' : ∀ layer ∈ front ++ lb :: la :: back, ∀ e ∈ layer, isPart e = true := by
    intro layer hlayer
    refine parts layer ?_
    exact ((List.Perm.swap la lb back).append_left front).mem_iff.1 hlayer
  -- the two stacks with the single setting, told by the same front and the same back
  have hstack : ∀ x y : Layer, front ++ x :: y :: back ++ forced.toList.map maxErrorTextLayer =
      front ++ x :: y :: (back ++ forced.toList.map maxErrorTextLayer) := by
    intro x y
    rw [List.append_assoc, List.cons_append, List.cons_append]
  rw [outcome_forced loaded parts, outcome_forced loaded' parts', hstack, hstack,
    single_exchange front _ apart]

/-- A layer with a number and a message. -/
def messageLayer : LayerSource :=
  .text "[settings]\nmax_error_text = 3\n[fallback_error]\nmessage = 'm'\n"

/-- A layer with a kind. -/
def kindLayer : LayerSource := .text "[fallback_error]\nkind = 'K'\n"

end Grammar

end RuleLexer
