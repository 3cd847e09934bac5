import RuleLexer.Setting.Basic
import RuleLexer.Toml.Document

/-!
# Settings in documents

The values of a document are settings that come from its file. A date or a time counts as its text.
-/

namespace RuleLexer.Setting

mutual

/-- The setting that a value of a document is. -/
def ofValue (origin : Option String) : Toml.Value → Setting
  | .string s => .scalar (.string s) origin
  | .integer i => .scalar (.integer i) origin
  | .float x => .scalar (.float x) origin
  | .bool b => .scalar (.bool b) origin
  | .dateTime d => .scalar (.string d.text) origin
  | .array items => .array (ofValues origin items) origin
  | .table entries => .table (ofEntries origin entries) origin

/-- The settings that several values are. -/
def ofValues (origin : Option String) : List Toml.Value → List Setting
  | [] => []
  | v :: rest => ofValue origin v :: ofValues origin rest

/-- The settings that several entries are. -/
def ofEntries (origin : Option String) : List (String × Toml.Value) → List (String × Setting)
  | [] => []
  | (key, v) :: rest => (key, ofValue origin v) :: ofEntries origin rest

end

/-- **The settings in a document**, by their top-level keys, if it is well-formed. -/
def ofDocument? (origin : Option String) (text : String) : Option (List (String × Setting)) :=
  (Toml.parse? text).map (ofEntries origin)

end RuleLexer.Setting
