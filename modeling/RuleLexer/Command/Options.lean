import RuleLexer.Listing

/-!
# Command lines

The arguments of a command line are options and at most one path. An option is written with its long
name behind two hyphens or, some of them, with a letter behind one. Its value follows as the next
argument, behind an equals sign, or right behind the letter. No option is given twice. Behind an
argument of two hyphens there are only paths; a single hyphen is a path or a value.
-/

namespace RuleLexer.Command

/-- What a command line asks for. -/
structure Options where
  /-- The path of the text. -/
  path : Option String := none
  /-- The name of the grammar. -/
  grammar : Option String := none
  /-- The names of ready-made sets. -/
  premades : Option (List String) := none
  /-- The format of the output. -/
  format : Option Format := none
  /-- The number of characters of unmatched text that a failure quotes. -/
  maxErrorText : Option Nat := none
  /-- Whether the ready-made sets are to be listed. -/
  listPremades : Bool := false
  deriving DecidableEq, Repr

/-- What a well-formed command line asks for. -/
inductive Request
  /-- The version. -/
  | version
  /-- An account of the options. -/
  | help
  /-- The work itself. -/
  | run (options : Options)
  deriving DecidableEq, Repr

/-- An option that has a value. -/
inductive ValueOption
  /-- The name of the grammar. -/
  | grammar
  /-- The names of ready-made sets. -/
  | premades
  /-- The format of the output. -/
  | format
  /-- The number of characters of unmatched text that a failure quotes. -/
  | maxErrorText
  deriving DecidableEq, Repr

/-- An option that has none. -/
inductive Flag
  /-- Lists the ready-made sets. -/
  | listPremades
  /-- Shows the options. -/
  | help
  /-- Shows the version. -/
  | version
  deriving DecidableEq, Repr

/-- The option of a long name. -/
def ofLongName? : String → Option (ValueOption ⊕ Flag)
  | "grammar" => some (.inl .grammar)
  | "premades" => some (.inl .premades)
  | "format" => some (.inl .format)
  | "max-error-text" => some (.inl .maxErrorText)
  | "list-premades" => some (.inr .listPremades)
  | "help" => some (.inr .help)
  | "version" => some (.inr .version)
  | _ => none

/-- The option of a letter. -/
def ofLetter? : Char → Option (ValueOption ⊕ Flag)
  | 'g' => some (.inl .grammar)
  | 'p' => some (.inl .premades)
  | 'f' => some (.inl .format)
  | 'h' => some (.inr .help)
  | 'V' => some (.inr .version)
  | _ => none

/-- The greatest number of characters that can be asked for. -/
def maxNumber : Nat := 4294967295

/-- The number that a text stands for: decimal digits, possibly behind a sign. -/
def number? (text : String) : Option Nat :=
  let (negative, digits) := match text.toList with
    | '-' :: cs => (true, cs)
    | '+' :: cs => (false, cs)
    | cs => (false, cs)
  let n := digits.foldl (fun n c => n * 10 + (c.toNat - 0x30)) 0
  if digits.isEmpty || !digits.all Char.isDigit || maxNumber < n || (negative && n != 0) then none
  else some n

/-- The options with the value of one of them, which must not have one yet. -/
def Options.set? (o : Options) (option : ValueOption) (value : String) : Option Options :=
  match option with
  | .grammar => if o.grammar.isSome then none else some { o with grammar := some value }
  | .premades =>
    if o.premades.isSome then none else some { o with premades := some (value.splitOn ",") }
  | .format =>
    if o.format.isSome then none
    else (Format.ofName? value).map fun format => { o with format := some format }
  | .maxErrorText =>
    if o.maxErrorText.isSome then none
    else (number? value).map fun n => { o with maxErrorText := some n }

/-- The options with the path, which must not be there yet. -/
def Options.setPath? (o : Options) (path : String) : Option Options :=
  if o.path.isSome then none else some { o with path := some path }

/-- Whether an argument is written as an option, and so is neither a path nor a value. -/
def isOption (argument : String) : Bool :=
  match argument.toList with
  | '-' :: _ :: _ => true
  | _ => false

/-- What an argument that is written as an option says. -/
inductive Reading
  /-- A flag. -/
  | flag (f : Flag)
  /-- An option with its value. -/
  | value (option : ValueOption) (value : String)
  /-- An option whose value is the next argument. -/
  | awaiting (option : ValueOption)
  deriving DecidableEq, Repr

/-- Reads an argument with a long name, given without its hyphens. -/
def readLong? (cs : List Char) : Option Reading := do
  let name := cs.takeWhile (· != '=')
  match ← ofLongName? (String.ofList name), cs.dropWhile (· != '=') with
  | .inl option, _ :: value => some (.value option (String.ofList value))
  | .inl option, [] => some (.awaiting option)
  | .inr flag, [] => some (.flag flag)
  | .inr _, _ => none

/-- Reads an argument with letters, given without its hyphen. What follows the letter of a flag
does not matter: each of those flags ends the reading. -/
def readLetters? : List Char → Option Reading
  | [] => none
  | c :: rest => do
    match ← ofLetter? c, rest with
    | .inr flag, _ => some (.flag flag)
    | .inl option, [] => some (.awaiting option)
    | .inl option, '=' :: value => some (.value option (String.ofList value))
    | .inl option, value => some (.value option (String.ofList value))

/-- Reads an argument that is written as an option. -/
def read? (argument : String) : Option Reading :=
  match argument.toList with
  | '-' :: '-' :: cs => readLong? cs
  | '-' :: cs => readLetters? cs
  | _ => none

/-- The paths behind an argument of two hyphens. -/
def readPaths? (o : Options) : List String → Option Request
  | [] => some (.run o)
  | path :: rest => do readPaths? (← o.setPath? path) rest

/-- Reads arguments behind others. -/
def readAll? (o : Options) : List String → Option Request
  | [] => some (.run o)
  | "--" :: rest => readPaths? o rest
  | argument :: rest =>
    if isOption argument then do
      match ← read? argument, rest with
      | .flag .version, _ => some .version
      | .flag .help, _ => some .help
      | .flag .listPremades, rest =>
        if o.listPremades then none else readAll? { o with listPremades := true } rest
      | .value option value, rest => readAll? (← o.set? option value) rest
      | .awaiting option, value :: rest =>
        if isOption value then none else readAll? (← o.set? option value) rest
      | .awaiting _, [] => none
    else do readAll? (← o.setPath? argument) rest

/-- **What a command line asks for**, if it is well-formed. Without a path it only makes sense to
list the ready-made sets. -/
def Request.ofArguments? (arguments : List String) : Option Request := do
  match ← readAll? {} arguments with
  | .run o => if o.path.isSome || o.listPremades then some (.run o) else none
  | request => some request

end RuleLexer.Command
