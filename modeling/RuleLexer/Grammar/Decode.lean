import RuleLexer.Grammar.Basic
import RuleLexer.Setting.Decode

/-!
# Grammars in settings

A grammar is a record of the choices for a scan, a descriptor for failures that no rule describes,
and a list of entries. The descriptor and the list may be left out; so may the kind of a descriptor,
and in a table every part of an entry.
-/

namespace RuleLexer

namespace Descriptor

/-- Descriptors as a kind of record. -/
def recordKind : RecordKind := ⟨"CustomError", 2⟩

/-- Reads a descriptor. -/
def ofSetting (s : Setting) : Except SettingError Descriptor := do
  match ← Setting.fields recordKind ["kind", "message"] s with
  | [kind, message] =>
    return {
      kind := ← kind.withDefault defaultKind Setting.string
      message := ← message.required Setting.string }
  | _ => throw (.shape s (.record recordKind))

end Descriptor

namespace ScanOptions

/-- The choices for a scan as a kind of record. -/
def recordKind : RecordKind := ⟨"Settings", 1⟩

/-- Reads the choices for a scan. -/
def ofSetting (s : Setting) : Except SettingError ScanOptions := do
  match ← Setting.fields recordKind ["max_error_text"] s with
  | [most] => return { maxErrorText := ← most.required Setting.count }
  | _ => throw (.shape s (.record recordKind))

end ScanOptions

namespace Entry

/-- Entries as a kind of record. -/
def recordKind : RecordKind := ⟨"RuleSpec", 8⟩

/-- Reads an entry. -/
def ofSetting (s : Setting) : Except SettingError Entry := do
  match ← Setting.fields recordKind ["name", "pattern", "patterns", "capturing_group",
      "depends_on", "skip", "premade", "error"] s with
  | [name, pattern, patterns, capture, dependsOn, skips, premade, descriptor] =>
    return {
      name := ← name.optional Setting.string
      pattern := ← pattern.optional Setting.string
      patterns := ← patterns.withDefault [] (Setting.list Setting.string)
      capture := ← capture.optional Setting.count
      dependsOn := ← dependsOn.optional Setting.string
      skips := ← skips.withDefault false Setting.truth
      premade := ← premade.optional Setting.string
      descriptor := ← descriptor.optional Descriptor.ofSetting }
  | _ => throw (.shape s (.record recordKind))

end Entry

namespace Grammar

/-- Grammars as a kind of record. -/
def recordKind : RecordKind := ⟨"Grammar", 3⟩

/-- **Reads a grammar.** -/
def ofSetting (s : Setting) : Except SettingError Grammar := do
  match ← Setting.fields recordKind ["settings", "fallback_error", "rules"] s with
  | [options, fallback, entries] =>
    return {
      options := ← options.required ScanOptions.ofSetting
      fallback := ← fallback.withDefault none (Setting.nullable Descriptor.ofSetting)
      entries := ← entries.withDefault [] (Setting.list Entry.ofSetting) }
  | _ => throw (.shape s (.record recordKind))

end Grammar

end RuleLexer
