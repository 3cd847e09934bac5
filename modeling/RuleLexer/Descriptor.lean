/-!
# Error descriptors

A descriptor says how a failure is reported in place of the usual wording. Its message is a
template: the marks for line, column and text are replaced by those of the failure. The marks are
replaced one after the other, each in the whole message.
-/

namespace RuleLexer

/-! ### Replacing a mark -/

namespace Text

/-- The text with every occurrence of `mark` replaced by `image`, from left to right. The counter
says how many characters of an occurrence are still to be passed over. -/
def replaceFrom (mark image : List Char) : (pending : Nat) → List Char → List Char
  | _, [] => []
  | pending + 1, _ :: cs => replaceFrom mark image pending cs
  | 0, c :: cs =>
    if mark.isPrefixOf (c :: cs) then image ++ replaceFrom mark image (mark.length - 1) cs
    else c :: replaceFrom mark image 0 cs

/-- The text with every occurrence of a mark replaced. The mark must have a character. -/
def replace (mark image text : String) : String :=
  String.ofList (replaceFrom mark.toList image.toList 0 text.toList)

end Text

/-! ### Descriptors -/

/-- A way to report a failure. -/
structure Descriptor where
  /-- The kind of the error. -/
  kind : String
  /-- The template of the message. -/
  message : String
  deriving DecidableEq, Repr

namespace Descriptor

/-- The kind of a descriptor that does not name one. -/
def defaultKind : String := "SyntaxError"

/-- A descriptor of the usual kind. -/
def ofMessage (message : String) : Descriptor := ⟨defaultKind, message⟩

/-- **The message of a failure** at a line and a column, in front of a text. -/
def render (d : Descriptor) (line column : Nat) (text : String) : String :=
  Text.replace "[[TEXT]]" text
    (Text.replace "[[COLUMN]]" (toString column)
      (Text.replace "[[LINE]]" (toString line) d.message))

end Descriptor

end RuleLexer
