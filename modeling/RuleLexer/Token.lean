import RuleLexer.Text.Quoted

/-!
# Tokens

A token is what a rule makes of a stretch of text: its kind, which normally is the name of the rule,
its value, and the line it stands on. Tokens do not change; a callback that wants another one builds
it from the old.
-/

namespace RuleLexer

/-- A token. -/
structure Token where
  /-- The kind of the token. -/
  kind : String
  /-- The text it stands for. -/
  value : String
  /-- The line on which its match began, counted from zero. -/
  line : Nat
  deriving DecidableEq, Repr

namespace Token

/-- The token with another value. -/
def withValue (t : Token) (value : String) : Token := { t with value := value }

/-- The token with another kind. -/
def withKind (t : Token) (kind : String) : Token := { t with kind := kind }

/-- **The token on one line**: its kind, its value in quotes, and its line. -/
def display (t : Token) : String :=
  t.kind ++ "(" ++ Text.quoted t.value ++ ") @" ++ toString t.line

end Token

end RuleLexer
