import RuleLexer.Regex
import RuleLexer.Text.Offset

/-!
# Patterns

A pattern is one regular expression or several, tried in the order in which they are given; the
first one that matches wins. A match is looked for at one place of a text: every expression is put
into a group behind a mark for the start of the text, and it is run on what follows the place, so
that nothing before the place counts.

The expression is put into the group as text. An expression whose parentheses do not balance can
therefore end the group early; what stands behind it is not held to the place.
-/

namespace RuleLexer

/-- Why a pattern is refused. -/
inductive PatternError
  /-- There is no expression. -/
  | noAlternative
  /-- An expression does not compile. -/
  | badExpression (cause : RegexError)
  deriving DecidableEq, Repr

/-- What a refused pattern is told. -/
def PatternError.message : PatternError → String
  | .noAlternative => "a rule needs at least one pattern"
  | .badExpression (.malformed _) => "regex parse error"
  | .badExpression .tooLarge =>
    "Compiled regex exceeds size limit of " ++ toString Regex.maxWeight ++ " bytes."

/-- The text of an expression, held to the start of the text that it is run on. -/
def anchored (source : List Char) : List Char :=
  '\\' :: 'A' :: '(' :: '?' :: ':' :: (source ++ [')'])

/-- An expression of a pattern. -/
structure Alternative where
  /-- The expression as it was written. -/
  source : String
  /-- The compiled expression. -/
  regex : Regex
  /-- It was compiled from the text. -/
  compiled : Regex.compile (anchored source.toList) = .ok regex
  deriving DecidableEq

/-- Compiles an expression of a pattern. -/
def Alternative.ofSource (source : String) : Except RegexError Alternative :=
  match h : Regex.compile (anchored source.toList) with
  | .ok regex => .ok ⟨source, regex, h⟩
  | .error e => .error e

/-- A pattern. -/
structure Pattern where
  /-- The expressions, in the order in which they are tried. -/
  alternatives : List Alternative
  /-- There is one at least. -/
  nonempty : alternatives ≠ []
  deriving DecidableEq

/-- A match of a pattern at a place. -/
structure Match where
  /-- The characters between the place and the match. -/
  skipped : List Char
  /-- The characters of the match. -/
  text : List Char
  /-- What the groups captured, from the first group on. -/
  captures : List (Option (List Char))
  deriving DecidableEq, Repr

namespace Match

/-- What a group captured; the group 0 is the whole match. -/
def group? (m : Match) (index : Nat) : Option (List Char) :=
  match index with
  | 0 => some m.text
  | k + 1 => (m.captures[k]?).join

/-- The number of characters from the place to the end of the match. -/
def extent (m : Match) : Nat := m.skipped.length + m.text.length

end Match

/-- The match of an expression on the text that follows a place. -/
def Regex.matchOn? (r : Regex) (rest : List Char) : Option Match :=
  (r.find? rest).map fun found =>
    { skipped := rest.take found.whole.start
      text := found.whole.of rest
      captures := found.groups.map (·.map (·.of rest)) }

namespace Pattern

/-- Compiles a list of expressions, up to the first one that does not compile. -/
def compileAll : List String → Except RegexError (List Alternative)
  | [] => .ok []
  | source :: sources => do
    let first ← Alternative.ofSource source
    return first :: (← compileAll sources)

/-- **A pattern from its expressions.** -/
def ofSources (sources : List String) : Except PatternError Pattern :=
  match compileAll sources with
  | .error e => .error (.badExpression e)
  | .ok [] => .error .noAlternative
  | .ok (first :: rest) => .ok ⟨first :: rest, List.cons_ne_nil first rest⟩

/-- Whether an expression compiles in its group. -/
def Compiles (source : List Char) : Prop := (Regex.compile (anchored source)).isOk = true

instance (source : List Char) : Decidable (Compiles source) :=
  inferInstanceAs (Decidable ((Regex.compile (anchored source)).isOk = true))

theorem isOk_ofSource {source : String} (h : Compiles source.toList) :
    ∃ a, Alternative.ofSource source = .ok a := by
  unfold Alternative.ofSource
  split
  · exact ⟨_, rfl⟩
  · next e he => rw [Compiles, he] at h; cases h

theorem isOk_compileAll {sources : List String} (h : ∀ s ∈ sources, Compiles s.toList) :
    ∃ as, compileAll sources = .ok as ∧ as.length = sources.length := by
  induction sources with
  | nil => exact ⟨[], rfl, rfl⟩
  | cons s ss ih =>
    obtain ⟨a, ha⟩ := isOk_ofSource (h s List.mem_cons_self)
    obtain ⟨as, has, len⟩ := ih fun t ht => h t (List.mem_cons_of_mem s ht)
    exact ⟨a :: as, by rw [compileAll, ha, has]; rfl, by simp [len]⟩

/-- **Expressions that compile make a pattern**, if there is one at least. -/
theorem isOk_ofSources {sources : List String} (some : sources ≠ [])
    (h : ∀ s ∈ sources, Compiles s.toList) : (ofSources sources).isOk = true := by
  obtain ⟨as, has, len⟩ := isOk_compileAll h
  unfold ofSources
  rw [has]
  cases as with
  | nil => exact absurd (List.length_eq_zero_iff.1 len.symm) some
  | cons a as => rfl

/-- The pattern of expressions that are known to compile. -/
def ofValid (sources : List String) (valid : (ofSources sources).isOk = true) : Pattern :=
  match ofSources sources, valid with
  | .ok pattern, _ => pattern

/-- The expressions as they were written. -/
def sources (p : Pattern) : List String := p.alternatives.map (·.source)

/-- **The match at a place**, given what follows it in the text: that of the first expression that
has one. -/
def matchOn? (p : Pattern) (rest : List Char) : Option Match :=
  p.alternatives.findSome? (·.regex.matchOn? rest)

/-- The match at a byte offset of a text; none if the offset is no place in the text. -/
def matchAt? (p : Pattern) (text : List Char) (offset : Nat) : Option Match :=
  (Text.after? text offset).bind p.matchOn?

end Pattern

/-- The byte offset at which a match begins that was looked for at `offset`. -/
def Match.startFrom (m : Match) (offset : Nat) : Nat := offset + Text.byteLength m.skipped

/-- The byte offset at which a match ends that was looked for at `offset`. -/
def Match.stopFrom (m : Match) (offset : Nat) : Nat :=
  m.startFrom offset + Text.byteLength m.text

end RuleLexer
