import RuleLexer.Json.Token
import RuleLexer.Yaml

/-!
# Lists of tokens

A list of tokens is shown in one of three formats: as a JSON array, as a YAML sequence, or simply
with a line for each token.
-/

namespace RuleLexer

/-- A format for lists of tokens. -/
inductive Format
  /-- A JSON array. -/
  | json
  /-- A YAML sequence. -/
  | yaml
  /-- A line for each token. -/
  | simple
  deriving DecidableEq, Repr

namespace Format

/-- The format of a name, if there is one. -/
def ofName? (name : String) : Option Format :=
  if name = "json" then some .json
  else if name = "yaml" then some .yaml
  else if name = "simple" then some .simple
  else none

end Format

namespace Token

/-- A token as an item of a YAML sequence. -/
def yamlItem (t : Token) : List Char :=
  "- type: ".toList ++ Yaml.encode t.kind ++ "  value: ".toList ++ Yaml.encode t.value ++
    "  line: ".toList ++ (toString t.line).toList ++ ['\n']

/-- The lines of a list of tokens, one for each. -/
def simpleLines (tokens : List Token) : String :=
  String.join (tokens.map fun t => t.display ++ "\n")

/-- A list of tokens in JSON. -/
def listToJson (tokens : List Token) : Json := .array (tokens.map toJson)

/-- **A list of tokens in a format.** -/
def listing (tokens : List Token) : Format → String
  | .json => String.ofList ((listToJson tokens).pretty 0 ++ ['\n'])
  | .yaml =>
    if tokens.isEmpty then "[]\n" else String.ofList (tokens.flatMap yamlItem)
  | .simple => simpleLines tokens

end Token

end RuleLexer
