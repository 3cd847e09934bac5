import RuleLexer.Grammar.Load
import RuleLexer.Proofs.Outcome
import RuleLexer.Proofs.Setting.Put

/-!
# Single settings over all layers

A single setting is put over the layers of a grammar, so it stands at its key path whatever they say.
Hence a number given for `settings.max_error_text` is the one that the grammar has
(`Grammar.maxErrorText_of_load`). A loading whose single settings have key paths fails for the sake
of its layers or of what is read from them, never for a key path (`Grammar.load_ne_keyPath`).
-/

namespace RuleLexer

variable {s : Setting} {n : Nat} {origin : Option String}

/-- A field that is there is read as what stands there is read. -/
theorem Setting.Field.required_eq_ok_iff {α : Type} {f : Field} {read : Read α} {a : α}
    (stands : f.value = some s) : f.required read = .ok a ↔ read s = .ok a := by
  rw [required, stands]
  exact mapError_eq_ok_iff

/-- A count is read from the entry in which it stands. -/
theorem ScanOptions.maxErrorText_of_ofSetting {options : ScanOptions}
    (stands : s.at? ["max_error_text"] = some (.scalar (.integer n) origin))
    (read : ofSetting s = .ok options) : options.maxErrorText = n := by
  obtain ⟨entries, tableOrigin, next, rfl, hlookup, hnext⟩ := Setting.at?_cons_eq_some_iff.1 stands
  obtain rfl := Option.some.inj hnext
  obtain ⟨fields, hfields, hread⟩ := bind_eq_ok_iff.1 read
  obtain rfl := Except.ok.inj hfields
  obtain ⟨most, hmost, hoptions⟩ := bind_eq_ok_iff.1 hread
  obtain rfl := Except.ok.inj hoptions
  have hcount : Setting.count (.scalar (.integer n) origin) = .ok n := by
    rw [Setting.count, if_pos (Int.natCast_nonneg n), Int.toNat_natCast]
  have hnumber := (Setting.Field.required_eq_ok_iff hlookup).1 hmost
  exact (Except.ok.inj (hcount.symm.trans hnumber)).symm

namespace Grammar

variable {files : Files} {sources : List LayerSource} {g : Grammar}

theorem maxErrorText_of_ofSetting
    (stands : s.at? ["settings", "max_error_text"] = some (.scalar (.integer n) origin))
    (read : ofSetting s = .ok g) : g.options.maxErrorText = n := by
  obtain ⟨entries, tableOrigin, next, rfl, hlookup, hnext⟩ := Setting.at?_cons_eq_some_iff.1 stands
  obtain ⟨fields, hfields, hread⟩ := bind_eq_ok_iff.1 read
  obtain rfl := Except.ok.inj hfields
  obtain ⟨options, hoptions, hread⟩ := bind_eq_ok_iff.1 hread
  obtain ⟨fallback, -, hread⟩ := bind_eq_ok_iff.1 hread
  obtain ⟨rules, -, hg⟩ := bind_eq_ok_iff.1 hread
  obtain rfl := Except.ok.inj hg
  have hsettings := (Setting.Field.required_eq_ok_iff hlookup).1 hoptions
  exact ScanOptions.maxErrorText_of_ofSetting hnext hsettings

/-- Single settings whose key paths are such are put over all layers. -/
theorem settings_eq_map {overrides : List (String × Setting)} {paths : List (KeyPath × Setting)}
    (hpaths : overrides.mapM (fun e => override e.1 e.2) = .ok paths) :
    settings files sources overrides = (sources.mapM (layer files)).map fun layers =>
      (lastOfEach paths).foldl (fun s e => s.putAt e.1 e.2)
        (layers.foldl Setting.overlay defaults) := by
  change (overrides.mapM (fun e => override e.1 e.2) >>= _) = _
  rw [hpaths]
  change (sources.mapM (layer files) >>= _) = _
  cases sources.mapM (layer files) with
  | error cause => rfl
  | ok layers => rfl

theorem override_eq_ok {key : String} {path : KeyPath} (value : Setting)
    (hpath : KeyPath.ofText? key = some path) :
    [(key, value)].mapM (fun e => override e.1 e.2) = .ok [(path, value)] := by
  simp only [List.mapM_cons, List.mapM_nil, override, hpath]
  rfl

/-- The key path of the number of characters that a failure quotes. -/
theorem ofText?_maxErrorText :
    KeyPath.ofText? "settings.max_error_text" = some ⟨"settings", [.key "max_error_text"]⟩ := by
  decide +kernel

/-- **A number of characters asked for as a single setting** is what the grammar has, whatever its
layers say. -/
theorem maxErrorText_of_load
    (h : load files sources [("settings.max_error_text", .scalar (.integer n) none)] = .ok g) :
    g.options.maxErrorText = n := by
  obtain ⟨s, hs, hread⟩ := bind_eq_ok_iff.1 h
  rw [settings_eq_map (override_eq_ok _ ofText?_maxErrorText)] at hs
  obtain ⟨layers, -, rfl⟩ := map_eq_ok_iff.1 hs
  have hlower : ["settings", "max_error_text"].map Unicode.lowercase =
      ["settings", "max_error_text"] := by
    decide +kernel
  have hstands := Setting.at?_putAt (layers.foldl Setting.overlay defaults) "settings"
    ["max_error_text"] (.integer n) none
  rw [hlower] at hstands
  exact maxErrorText_of_ofSetting hstands (mapError_eq_ok_iff.1 hread)

/-! ### What a loading does not fail for -/

theorem layerOf_ne_keyPath (origin : Option String) (text key : String) :
    layerOf origin text ≠ .error (.keyPath key) := by
  unfold layerOf
  split
  · rintro ⟨⟩
  · rintro ⟨⟩

theorem document_ne_keyPath (files : Files) (name key : String) :
    files.document name ≠ .error (.keyPath key) := by
  unfold Files.document
  split
  · rintro ⟨⟩
  · intro h
    obtain h | ⟨text, -, ⟨⟩⟩ := bind_eq_error_iff.1 h
    obtain ⟨cause, -, ⟨⟩⟩ := mapError_eq_error_iff.1 h

/-- No layer fails for a key path. -/
theorem layer_ne_keyPath (files : Files) (source : LayerSource) (key : String) :
    layer files source ≠ .error (.keyPath key) := by
  cases source with
  | text document => exact layerOf_ne_keyPath none document key
  | file name required =>
    rw [layer]
    split
    · next origin text _ => exact layerOf_ne_keyPath (some origin) text key
    · next cause hdocument =>
      -- a file that cannot be read counts as empty, or the reason is that of the file
      cases required with
      | false => rintro ⟨⟩
      | true =>
        rintro ⟨⟩
        exact document_ne_keyPath files name key hdocument

/-- **A loading fails for no key path** if those of its single settings are such. -/
theorem load_ne_keyPath {overrides : List (String × Setting)} {paths : List (KeyPath × Setting)}
    (hpaths : overrides.mapM (fun e => override e.1 e.2) = .ok paths) (key : String) :
    load files sources overrides ≠ .error (.keyPath key) := by
  intro h
  obtain h | ⟨s, -, h⟩ := bind_eq_error_iff.1 h
  · rw [settings_eq_map hpaths, map_eq_error_iff] at h
    obtain ⟨source, -, h⟩ := exists_of_mapM_eq_error h
    exact layer_ne_keyPath files source key h
  · obtain ⟨cause, -, ⟨⟩⟩ := mapError_eq_error_iff.1 h

end Grammar

end RuleLexer
