/-!
# Lines

A text is split at line feeds. A carriage return directly in front of a line feed belongs to the
line break; any other one is an ordinary character. A last line without a line feed counts if it has
a character.
-/

namespace RuleLexer.Text

/-- Drops a carriage return that ends a line, the line being given with its last character first. -/
def dropReturn : List Char → List Char
  | '\r' :: cs => cs
  | cs => cs

/-- The lines of a text, `line` being the one in progress with its last character first. -/
def linesFrom (line : List Char) : List Char → List (List Char)
  | [] => if line.isEmpty then [] else [line.reverse]
  | c :: cs =>
    if c = '\n' then (dropReturn line).reverse :: linesFrom [] cs else linesFrom (c :: line) cs

/-- **The lines of a text.** -/
def lines (text : List Char) : List (List Char) := linesFrom [] text

@[simp] theorem lines_nil : lines [] = [] := rfl

/-- The lines of a text begin afresh behind a line feed. -/
theorem linesFrom_append_feed (line head tail : List Char) :
    linesFrom line (head ++ '\n' :: tail) = linesFrom line (head ++ ['\n']) ++ lines tail := by
  induction head generalizing line with
  | nil => rfl
  | cons c cs ih =>
    rw [List.cons_append, List.cons_append, linesFrom, linesFrom]
    by_cases h : c = '\n'
    · rw [if_pos h, if_pos h, ih, List.cons_append]
    · rw [if_neg h, if_neg h, ih]

/-- A text that ends with a line feed has as many lines as line feeds. -/
theorem length_linesFrom_feed (line head : List Char) :
    (linesFrom line (head ++ ['\n'])).length = head.count '\n' + 1 := by
  induction head generalizing line with
  | nil => rfl
  | cons c cs ih =>
    rw [List.cons_append, linesFrom]
    by_cases h : c = '\n'
    · rw [if_pos h, List.length_cons, ih, h, List.count_cons_self]
    · rw [if_neg h, ih, List.count_cons_of_ne h]

end RuleLexer.Text
