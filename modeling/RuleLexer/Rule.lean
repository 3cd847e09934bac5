import RuleLexer.Fault
import RuleLexer.Pattern
import RuleLexer.Token

/-!
# Rules

A rule is a named pattern with a policy for its matches:

* it may take what a group captured as the value of the token;
* it may depend on another rule, and is then tried only right after a match of that rule;
* it may hand each token to a callback, which keeps, replaces, suppresses or refuses it;
* it may bring a descriptor for failures that it is the reason of;
* it may skip, that is, pass over its matches without a trace.
-/

namespace RuleLexer

/-! ### Callbacks -/

/-- What a callback wants to be done with a token. -/
inductive Action
  /-- The token is kept. -/
  | keep
  /-- Another token takes its place. -/
  | replace (t : Token)
  /-- The token is dropped. -/
  | suppress
  deriving DecidableEq, Repr

/-- A callback decides on a token, or refuses it with a message. -/
abbrev Callback := Token → Except String Action

namespace Callback

/-- Keeps every token. -/
def keep : Callback := fun _ => .ok .keep

/-- Drops every token. -/
def suppress : Callback := fun _ => .ok .suppress

/-- Puts the small letters of ASCII in the value into upper case. -/
def upper : Callback := fun t =>
  .ok (.replace (t.withValue (String.ofList (t.value.toList.map Char.toUpper))))

/-- Puts a text before the value and another one after it. -/
def wrap (before after : String) : Callback := fun t =>
  .ok (.replace (t.withValue (before ++ t.value ++ after)))

/-- Puts the given parts into the token. -/
def override (kind value : Option String) (line : Option Nat) : Callback := fun t =>
  .ok (.replace ⟨kind.getD t.kind, value.getD t.value, line.getD t.line⟩)

/-- Refuses every token. The value of the token stands in the message for each pair of braces. -/
def refuse (message : String) : Callback := fun t =>
  .error (Text.replace "\x7b\x7d" t.value message)

/-- Hands tokens with one of the listed values to one callback, and all others to another. -/
def whenValue (values : List String) (yes no : Callback) : Callback := fun t =>
  if values.contains t.value then yes t else no t

end Callback

/-! ### Rules -/

/-- A named pattern with a policy for its matches. -/
structure Rule where
  /-- The name, which is the kind of its tokens. -/
  name : String
  /-- What the rule matches. -/
  pattern : Pattern
  /-- The group whose capture is the value of the token, if not the whole match. -/
  capture : Option Nat := none
  /-- The rule after whose matches alone this one is tried. -/
  dependsOn : Option String := none
  /-- The callback for its tokens. -/
  onMatch : Option Callback := none
  /-- How failures that the rule is the reason of are reported. -/
  descriptor : Option Descriptor := none
  /-- Whether its matches are passed over. -/
  skips : Bool := false

/-- The errors in building a table of rules. -/
inductive TableError
  /-- The name is taken. -/
  | duplicateName (name : String)
  /-- There is no rule of the name. -/
  | unknownRule (name : String)
  /-- The pattern of a rule is refused. -/
  | invalidPattern (rule : String) (cause : PatternError)
  deriving DecidableEq, Repr

/-- What an error in building a table says. -/
def TableError.message : TableError → String
  | .duplicateName name => "a rule named '" ++ name ++ "' already exists in the table"
  | .unknownRule name => "unknown rule '" ++ name ++ "'"
  | .invalidPattern rule cause => "invalid pattern for rule '" ++ rule ++ "': " ++ cause.message

namespace Rule

/-- **A rule from its expressions**, without any policy. -/
def ofSources (name : String) (sources : List String) : Except TableError Rule :=
  match Pattern.ofSources sources with
  | .ok pattern => .ok { name := name, pattern := pattern }
  | .error cause => .error (.invalidPattern name cause)

/-- Whether the rule may be tried when `last` is the rule that matched last. -/
def eligible (r : Rule) (last : Option String) : Bool :=
  match r.dependsOn with
  | some dependency => last = some dependency
  | none => true

/-- **The rule on one line**: its name and its expressions, as they are. -/
def display (r : Rule) : String :=
  "rule(name: '" ++ r.name ++ "', pattern: r'" ++ "' | r'".intercalate r.pattern.sources ++ "')"

/-- An optional value as it is shown in a full account. -/
def optionText : Option String → String
  | some text => "Some(" ++ text ++ ")"
  | none => "None"

/-- A descriptor as it is shown in a full account. -/
def descriptorText (d : Descriptor) : String :=
  "CustomError \x7b kind: " ++ Text.quoted d.kind ++ ", message: " ++ Text.quoted d.message ++
    " \x7d"

/-- **The full account of a rule**: all its parts, texts in quotes; of the callback, only whether
there is one. -/
def account (r : Rule) : String :=
  "Rule \x7b name: " ++ Text.quoted r.name ++
    ", patterns: " ++ Text.bracketedList (r.pattern.sources.map Text.quoted) ++
    ", capturing_group: " ++ optionText (r.capture.map toString) ++
    ", depends_on: " ++ optionText (r.dependsOn.map Text.quoted) ++
    ", on_match: " ++ toString r.onMatch.isSome ++
    ", custom_error: " ++ optionText (r.descriptor.map descriptorText) ++
    ", skip: " ++ toString r.skips ++ " \x7d"

end Rule

end RuleLexer
