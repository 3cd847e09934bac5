import RuleLexer.Files
import RuleLexer.Grammar.Decode
import RuleLexer.Setting.Document

/-!
# Loading grammars

A grammar is loaded from layers of settings over the defaults, a later layer over an earlier one,
and from single settings over all layers. A layer is a document, given as a text or by the name of a
file. A file that need not be there counts as an empty layer if it cannot be read; a document that
is not well-formed is always a failure.
-/

namespace RuleLexer

/-- Where a layer comes from. -/
inductive LayerSource
  /-- The text of a document. -/
  | text (document : String)
  /-- A file, which must be there or need not. -/
  | file (name : String) (required : Bool)
  deriving DecidableEq, Repr

/-- Why a grammar cannot be loaded. -/
inductive LoadError
  /-- A document is not well-formed. -/
  | document (origin : Option String)
  /-- There is no file of the name. -/
  | noFile (name : String)
  /-- A file cannot be read. -/
  | file (cause : ReadError)
  /-- What should be a key path is none. -/
  | keyPath (text : String)
  /-- The settings are not those of a grammar. -/
  | setting (cause : SettingError)
  deriving Repr

/-- What a failure to load a grammar says. -/
def LoadError.message : LoadError → String
  | .document origin =>
    "TOML parse error" ++
      match origin with
      | some path => " in " ++ path
      | none => ""
  | .noFile name => "configuration file \"" ++ name ++ "\" not found"
  | .file cause => cause.message
  | .keyPath text => "invalid key path '" ++ text ++ "'"
  | .setting cause => cause.message

/-! ### Finding files -/

namespace Files

/-- The extension of documents. -/
def documentExtension : String := "toml"

/-- What may be left out of the name of a document is its extension. -/
def candidates (name : String) : List String :=
  name :: (withExtension? name documentExtension).toList

/-- The first path of several at which a file stands, with its content. -/
def firstFile? (files : Files) : List String → Option (String × ByteArray)
  | [] => none
  | path :: rest =>
    match files path with
    | .file content => some (path, content)
    | _ => files.firstFile? rest

/-- The text of the document of a name, with the path at which it was found. -/
def document (files : Files) (name : String) : Except LoadError (String × String) :=
  match files.firstFile? (candidates name) with
  | none => .error (.noFile name)
  | some (path, content) => do
    return (normal path, ← (textOf content).mapError .file)

end Files

/-! ### Layers -/

namespace Grammar

/-- The settings that all layers stand over. -/
def defaults : Setting :=
  .table [("settings", .table [("max_error_text", .scalar (.integer 40) none)] none)] none

/-- The settings in a document. -/
def layerOf (origin : Option String) (text : String) :
    Except LoadError (List (String × Setting)) :=
  match Setting.ofDocument? origin text with
  | some layer => .ok layer
  | none => .error (.document origin)

/-- The settings of a layer. -/
def layer (files : Files) : LayerSource → Except LoadError (List (String × Setting))
  | .text document => layerOf none document
  | .file name required =>
    match files.document name with
    | .ok (origin, text) => layerOf (some origin) text
    | .error cause => if required then .error cause else .ok []

/-- Single settings with those left out that another one follows at the same key path. -/
def lastOfEach : List (KeyPath × Setting) → List (KeyPath × Setting)
  | [] => []
  | (path, s) :: rest =>
    if rest.any (·.1 = path) then lastOfEach rest else (path, s) :: lastOfEach rest

/-- A single setting with its key path. -/
def override (key : String) (s : Setting) : Except LoadError (KeyPath × Setting) :=
  match KeyPath.ofText? key with
  | some path => .ok (path, s)
  | none => .error (.keyPath key)

/-- The settings of layers and single settings. -/
def settings (files : Files) (sources : List LayerSource) (overrides : List (String × Setting)) :
    Except LoadError Setting := do
  let overrides ← overrides.mapM fun (key, s) => override key s
  let layers ← sources.mapM (layer files)
  let base := layers.foldl Setting.overlay defaults
  return (lastOfEach overrides).foldl (fun s (path, value) => s.putAt path value) base

/-- **Loading a grammar.** -/
def load (files : Files) (sources : List LayerSource) (overrides : List (String × Setting)) :
    Except LoadError Grammar := do
  (ofSetting (← settings files sources overrides)).mapError .setting

end Grammar

end RuleLexer
