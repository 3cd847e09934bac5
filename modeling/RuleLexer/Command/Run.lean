import RuleLexer.Command.Options
import RuleLexer.Grammar.Load

/-!
# The command

The command reads the tokens of a text by the rules of a grammar, of ready-made sets, or both, and
shows them in a format. It goes through stages, and the first that fails decides what it says: the
loading of the grammar, the building of its table, each ready-made set, the reading of the text, and
the scan.
-/

namespace RuleLexer.Command

/-- What the command leaves behind. -/
structure Outcome where
  /-- The exit code: zero for success, one for a failure, two for a misuse. -/
  code : Nat
  /-- What it writes. -/
  output : String := ""
  /-- What it writes about failures. -/
  complaint : String := ""
  deriving DecidableEq, Repr

/-- Why the work fails. -/
inductive Failure
  /-- There is neither a grammar nor a ready-made set. -/
  | noRules
  /-- The grammar cannot be loaded. -/
  | load (cause : LoadError)
  /-- The table cannot be built. -/
  | table (cause : EntryError)
  /-- There is no ready-made set of the name. -/
  | unknownPremade (name : String)
  /-- The text cannot be read. -/
  | read (cause : ReadError)
  /-- The scan ends before the end of the text. -/
  | fault (cause : Fault)
  deriving Repr

/-- **What a failure says.** -/
def Failure.message : Failure → String
  | .noRules => "no rules given: pass --grammar and/or --premades"
  | .load cause => "Grammar error: " ++ cause.message
  | .table cause => "Grammar error: " ++ cause.message
  | .unknownPremade name =>
    "Unknown premade '" ++ name ++ "'. Available premades: " ++ ", ".intercalate Premade.names
  | .read cause => "IO error: " ++ cause.message
  | .fault cause => cause.kind ++ ": " ++ cause.message

/-! ### The stages -/

/-- The single settings that the options ask for. -/
def Options.overrides (o : Options) : List (String × Setting) :=
  match o.maxErrorText with
  | some n => [("settings.max_error_text", .scalar (.integer n) none)]
  | none => []

/-- The grammar that the options ask for. -/
def Options.load (o : Options) (files : Files) : Except LoadError Grammar :=
  Grammar.load files (o.grammar.toList.map (.file · true)) o.overrides

/-- The table with the ready-made set of a name added. -/
def addPremade (t : Table) (name : String) : Except Failure Table :=
  match Premade.ofName? name with
  | none => .error (.unknownPremade name)
  | some set => (t.extend? set.rules).mapError fun cause => .table (.table cause)

/-- The table with ready-made sets added, one after the other. -/
def addPremades (t : Table) : List String → Except Failure Table
  | [] => .ok t
  | name :: rest => do addPremades (← addPremade t name) rest

/-- The text that is read, a hyphen standing for the input. -/
def readText (files : Files) (input : ByteArray) (path : String) : Except ReadError String :=
  if path = "-" then textOf input else files.read path

/-- The text that the options ask for. -/
def Options.text (o : Options) (files : Files) (input : ByteArray) : Except ReadError String :=
  readText files input (o.path.getD "-")

/-- The names of the ready-made sets that the options ask for, in their order. -/
def Options.sets (o : Options) : List String := o.premades.getD []

/-- **The tokens that the options ask for.** -/
def Options.tokens (o : Options) (files : Files) (input : ByteArray) :
    Except Failure (List Token) := do
  let grammar ← (o.load files).mapError .load
  let table ← grammar.table.mapError .table
  let table ← addPremades table o.sets
  let text ← (o.text files input).mapError .read
  (table.scan grammar.options text).mapError .fault

/-! ### Fixed texts -/

/-- The version. -/
def versionText : String := "sblex 0.1.0\n"

/-- The ready-made sets with their rules. -/
def premadeList : String :=
  "Available premades:\n\n" ++ String.join (Premade.all.map fun set =>
    "  " ++ set.name ++ "\n" ++
      String.join (set.rules.map fun rule => "    " ++ rule.display ++ "\n"))

/-- How the command is used. -/
def usage : String := "Usage: sblex [OPTIONS] [path]\n"

/-- An account of the options. -/
def helpText : String :=
  "Tokenize text with ordered regex rules\n\n" ++ usage ++
  "\nArguments:\n" ++
  "  [path]  Path to the text to tokenize, or '-' for stdin\n" ++
  "\nOptions:\n" ++
  "  -g, --grammar <grammar>                TOML grammar file describing the rules\n" ++
  "  -p, --premades <premades>              Comma separated premade rule sets, " ++
    "added after the grammar rules\n" ++
  "  -f, --format <format>                  Output format " ++
    "[default: json] [possible values: json, yaml, simple]\n" ++
  "      --max-error-text <max-error-text>  Characters of unmatched text quoted in errors\n" ++
  "      --list-premades                    List available premade rule sets\n" ++
  "  -h, --help                             Print help\n" ++
  "  -V, --version                          Print version\n"

/-! ### The command as a whole -/

/-- What a failure leaves behind. -/
def Outcome.ofFailure (failure : Failure) : Outcome :=
  { code := 1, complaint := failure.message ++ "\n" }

/-- **What the reading of tokens leaves behind.** -/
def Options.tokenize (o : Options) (files : Files) (input : ByteArray) : Outcome :=
  match o.tokens files input with
  | .ok tokens => { code := 0, output := Token.listing tokens (o.format.getD .json) }
  | .error failure => .ofFailure failure

/-- What the work leaves behind. -/
def Options.outcome (o : Options) (files : Files) (input : ByteArray) : Outcome :=
  if o.listPremades then { code := 0, output := premadeList }
  else if o.grammar.isNone && o.sets.isEmpty then .ofFailure .noRules
  else o.tokenize files input

/-- **What a command line leaves behind.** -/
def run (arguments : List String) (files : Files) (input : ByteArray) : Outcome :=
  match Request.ofArguments? arguments with
  | none => { code := 2, complaint := usage }
  | some .version => { code := 0, output := versionText }
  | some .help => { code := 0, output := helpText }
  | some (.run o) => o.outcome files input

/-- The paths of the files that a command line may ask for. -/
def paths (arguments : List String) : List String :=
  match Request.ofArguments? arguments with
  | some (.run o) => o.grammar.toList.flatMap Files.candidates ++ o.path.toList
  | _ => []

/-- Whether a command line asks for the input. -/
def wantsInput (arguments : List String) : Bool :=
  match Request.ofArguments? arguments with
  | some (.run o) => o.path = some "-" && !o.listPremades
  | _ => false

end RuleLexer.Command
