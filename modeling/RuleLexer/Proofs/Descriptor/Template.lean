import RuleLexer.Descriptor
import RuleLexer.Proofs.Text.Digits

/-!
# Templates are filled in one pass

The marks of a message are replaced one kind after the other, each in all of what the replacements
before it have left. That could go wrong in two ways: what is put in for one mark could make up
another one, together with the characters around it or by itself, and it could tear one apart. Here
neither happens, and the message is what one pass over the template makes of it.

* `Template.Mark`, `Template.Piece` — what a template consists of: marks, and characters;
* `Template.pieces` — the pieces that one pass finds, from left to right: where a mark begins, the
  mark, and elsewhere a character;
* `Template.Read` — the same as a relation, in which a text has one reading (`read_iff`).

A replacement acts on the pieces that are read (`Read.replaceFrom_eq`): two marks never overlap, as
a mark begins with brackets that open, has none of them behind, and ends with brackets that close. If
moreover what is put in has a character, and none that occurs in a mark, then the result is read as
the same pieces with that mark filled in (`Read.fill`), and so no other mark was made or destroyed.
Numbers are such; the text is not, but it is put in last. The main statement is
`Descriptor.render_eq_filled`.
-/

namespace RuleLexer

namespace Template

/-! ### Marks and pieces -/

/-- The marks of a template. -/
inductive Mark
  /-- Stands for the line of a failure. -/
  | line
  /-- Stands for the column of a failure. -/
  | column
  /-- Stands for the text that a failure quotes. -/
  | text
  deriving DecidableEq, Repr

namespace Mark

/-- The word in a mark. -/
def word : Mark → List Char
  | .line => ['L', 'I', 'N', 'E']
  | .column => ['C', 'O', 'L', 'U', 'M', 'N']
  | .text => ['T', 'E', 'X', 'T']

/-- **How a mark is spelled**: its word in two pairs of brackets. -/
def chars (m : Mark) : List Char := '[' :: '[' :: (m.word ++ [']', ']'])

/-- All marks. -/
def all : List Mark := [.line, .column, .text]

/-- The mark that a text begins with, if there is one. -/
def at? (cs : List Char) : Option Mark := all.find? (·.chars.isPrefixOf cs)

end Mark

/-- A piece of a template. -/
inductive Piece
  /-- A mark. -/
  | mark (m : Mark)
  /-- A character that belongs to no mark. -/
  | char (c : Char)
  deriving DecidableEq, Repr

/-- **One pass over a template**, from left to right. The counter says how many characters of a mark
are still to be passed over. -/
def piecesFrom : (pending : Nat) → List Char → List Piece
  | _, [] => []
  | pending + 1, _ :: cs => piecesFrom pending cs
  | 0, c :: cs =>
    match Mark.at? (c :: cs) with
    | some m => .mark m :: piecesFrom (m.chars.length - 1) cs
    | none => .char c :: piecesFrom 0 cs

/-- The pieces of a template. -/
def pieces (template : List Char) : List Piece := piecesFrom 0 template

/-- The characters of a piece, an image standing in for each mark. -/
def Piece.written (image : Mark → List Char) : Piece → List Char
  | .mark m => image m
  | .char c => [c]

/-- **A template filled in**: an image in place of each mark, and every other character as it is. -/
def filled (image : Mark → List Char) (template : List Char) : List Char :=
  (pieces template).flatMap (Piece.written image)

/-- What stands for each mark, with an image for the mark `m`. -/
def instead (m : Mark) (image : List Char) (images : Mark → List Char) (m' : Mark) : List Char :=
  if m' = m then image else images m'

/-- The piece with the characters of an image in place of the mark `m`. -/
def Piece.fill (m : Mark) (image : List Char) (p : Piece) : List Piece :=
  if p = .mark m then image.map .char else [p]

/-! ### Marks do not overlap -/

namespace Mark

variable {m m' : Mark} {c d : Char} {cs : List Char}

/-- Two marks that begin a text are the same. -/
theorem eq_of_isPrefix (h : m.chars <+: m'.chars ++ cs) : m = m' := by
  -- the words of two marks differ in their first letter
  cases m with
  | line =>
    cases m' with
    | line => rfl
    | column | text => exact absurd h (by simp [chars, word])
  | column =>
    cases m' with
    | column => rfl
    | line | text => exact absurd h (by simp [chars, word])
  | text =>
    cases m' with
    | text => rfl
    | line | column => exact absurd h (by simp [chars, word])

/-- A mark begins with a bracket. -/
theorem not_isPrefix_cons (hc : c ≠ '[') : ¬ m.chars <+: c :: cs := by
  intro h
  exact hc (List.cons_prefix_cons.1 h).1.symm

/-- A mark begins with two brackets. -/
theorem not_isPrefix_cons_cons (hc : c ≠ '[') : ¬ m.chars <+: d :: c :: cs := by
  intro h
  obtain ⟨-, h⟩ := List.cons_prefix_cons.1 h
  exact hc (List.cons_prefix_cons.1 h).1.symm

/-- Behind its first two brackets, a mark has no bracket that opens. -/
theorem ne_bracket (hc : c ∈ m.word ++ [']', ']']) : c ≠ '[' := by
  rintro rfl
  cases m <;> exact absurd hc (by decide)

theorem chars_ne_nil (m : Mark) : m.chars ≠ [] := List.cons_ne_nil _ _

theorem isPrefix_of_at? (h : at? cs = some m) : m.chars <+: cs :=
  List.isPrefixOf_iff_prefix.1 (List.find?_some (p := fun m : Mark => m.chars.isPrefixOf cs) h)

theorem at?_eq_none_iff : at? cs = none ↔ ∀ m, ¬ Mark.chars m <+: cs := by
  rw [at?, List.find?_eq_none]
  constructor
  · intro h m hm
    refine h m ?_ (List.isPrefixOf_iff_prefix.2 hm)
    cases m <;> decide
  · intro h m _ hm
    exact h m (List.isPrefixOf_iff_prefix.1 hm)

/-- A text that begins with a mark begins with no other. -/
theorem at?_append (m : Mark) (cs : List Char) : at? (m.chars ++ cs) = some m := by
  cases hfound : at? (m.chars ++ cs) with
  | none => exact absurd (List.prefix_append m.chars cs) (at?_eq_none_iff.1 hfound m)
  | some m' => rw [eq_of_isPrefix (isPrefix_of_at? hfound)]

end Mark

/-! ### Replacing one mark -/

section Replacing

open Text (replaceFrom)

variable {mark image : List Char} {m m' : Mark} {c : Char} {cs : List Char}

/-- The characters that are still to be passed over leave nothing behind. -/
theorem replaceFrom_length_append (w cs : List Char) :
    replaceFrom mark image w.length (w ++ cs) = replaceFrom mark image 0 cs := by
  induction w with
  | nil => rfl
  | cons c w ih => exact ih

theorem replaceFrom_cons (h : ¬ mark <+: c :: cs) :
    replaceFrom mark image 0 (c :: cs) = c :: replaceFrom mark image 0 cs := by
  rw [replaceFrom, if_neg (mt List.isPrefixOf_iff_prefix.1 h)]

/-- The image stands in for the mark. -/
theorem replaceFrom_same (m : Mark) (image cs : List Char) :
    replaceFrom m.chars image 0 (m.chars ++ cs) = image ++ replaceFrom m.chars image 0 cs := by
  have hbegins : m.chars.isPrefixOf (m.chars ++ cs) = true :=
    List.isPrefixOf_iff_prefix.2 (List.prefix_append _ _)
  show (if m.chars.isPrefixOf (m.chars ++ cs) then _ else _) = _
  rw [if_pos hbegins]
  -- behind its first character, the rest of the mark is passed over
  exact congrArg (image ++ ·) (replaceFrom_length_append ('[' :: (m.word ++ [']', ']'])) cs)

/-- Characters that are no brackets are copied. -/
theorem replaceFrom_append {w : List Char} (hw : ∀ c ∈ w, c ≠ '[') (cs : List Char) :
    replaceFrom m.chars image 0 (w ++ cs) = w ++ replaceFrom m.chars image 0 cs := by
  induction w with
  | nil => rfl
  | cons c w ih =>
    obtain ⟨hc, hw⟩ := List.forall_mem_cons.1 hw
    rw [List.cons_append, replaceFrom_cons (Mark.not_isPrefix_cons hc), ih hw]
    rfl

/-- **Another mark is copied** as it is. -/
theorem replaceFrom_other (hne : m ≠ m') (image cs : List Char) :
    replaceFrom m.chars image 0 (m'.chars ++ cs) = m'.chars ++ replaceFrom m.chars image 0 cs := by
  obtain ⟨c, behind, hword, hc⟩ : ∃ c behind, m'.word ++ [']', ']'] = c :: behind ∧ c ≠ '[' := by
    cases m' <;> exact ⟨_, _, rfl, by decide⟩
  have hbehind : replaceFrom m.chars image 0 (m'.word ++ [']', ']'] ++ cs) = _ :=
    replaceFrom_append (fun c hc => Mark.ne_bracket hc) cs
  show replaceFrom m.chars image 0 ('[' :: '[' :: (m'.word ++ [']', ']'] ++ cs)) = _
  -- the first bracket begins the other mark, the second one is followed by a letter
  rw [replaceFrom_cons, replaceFrom_cons, hbehind]
  · rfl
  · rw [hword]
    exact Mark.not_isPrefix_cons_cons hc
  · intro h
    have hother : m.chars <+: m'.chars ++ cs := h
    exact hne (Mark.eq_of_isPrefix hother)

end Replacing

/-! ### Reading a template -/

/-- **What one pass reads of a text**: a mark where one begins, and a character where none does. -/
inductive Read : List Piece → List Char → Prop
  /-- Nothing is left. -/
  | nil : Read [] []
  /-- A mark begins here. -/
  | mark {m : Mark} {ps : List Piece} {cs : List Char} (hrest : Read ps cs) :
    Read (.mark m :: ps) (m.chars ++ cs)
  /-- No mark begins here. -/
  | char {c : Char} {ps : List Piece} {cs : List Char} (hnone : ∀ m, ¬ Mark.chars m <+: c :: cs)
    (hrest : Read ps cs) : Read (.char c :: ps) (c :: cs)

section Reading

variable {ps qs : List Piece} {cs template : List Char} {m : Mark}

theorem piecesFrom_length_append (w cs : List Char) :
    piecesFrom w.length (w ++ cs) = pieces cs := by
  induction w with
  | nil => rfl
  | cons c w ih => exact ih

/-- What is read of a text are the pieces that the pass finds. -/
theorem Read.pieces_eq (h : Read ps cs) : pieces cs = ps := by
  induction h with
  | nil => rfl
  | @mark m ps cs _ ih =>
    show (match Mark.at? (m.chars ++ cs) with | some m' => _ | none => _) = _
    rw [Mark.at?_append]
    show Piece.mark m :: piecesFrom _ (('[' :: (m.word ++ [']', ']'])) ++ cs) = _
    exact congrArg (Piece.mark m :: ·) ((piecesFrom_length_append _ cs).trans ih)
  | char hnone _ ih =>
    rw [pieces, piecesFrom, Mark.at?_eq_none_iff.2 hnone]
    exact congrArg (Piece.char _ :: ·) ih

/-- Every text can be read. -/
theorem exists_read (cs : List Char) : ∃ ps, Read ps cs := by
  -- on the length, as a mark takes several characters at once
  induction hlength : cs.length using Nat.strongRecOn generalizing cs with
  | ind n ih =>
    cases cs with
    | nil => exact ⟨[], .nil⟩
    | cons c cs =>
      cases hmark : Mark.at? (c :: cs) with
      | none =>
        obtain ⟨ps, hps⟩ := ih cs.length (by rw [← hlength]; exact Nat.lt_succ_self _) cs rfl
        exact ⟨.char c :: ps, .char (Mark.at?_eq_none_iff.1 hmark) hps⟩
      | some m =>
        obtain ⟨rest, hrest⟩ := Mark.isPrefix_of_at? hmark
        have hshorter : rest.length < n := by
          rw [← hlength, ← hrest, List.length_append]
          exact Nat.lt_add_of_pos_left (List.length_pos_iff.2 m.chars_ne_nil)
        obtain ⟨ps, hps⟩ := ih rest.length hshorter rest rfl
        exact ⟨.mark m :: ps, hrest ▸ .mark hps⟩

/-- **The pieces of a template are what is read of it.** -/
theorem read_pieces (template : List Char) : Read (pieces template) template := by
  obtain ⟨ps, hps⟩ := exists_read template
  rwa [hps.pieces_eq]

/-- A text has one reading. -/
theorem read_iff : Read ps template ↔ ps = pieces template := by
  constructor
  · intro h
    exact h.pieces_eq.symm
  · rintro rfl
    exact read_pieces template

/-! ### Filling in one mark -/

variable {image w : List Char}

/-- **Replacing a mark** puts the image in place of the pieces of that mark. -/
theorem Read.replaceFrom_eq (h : Read ps cs) (m : Mark) (image : List Char) :
    Text.replaceFrom m.chars image 0 cs = ps.flatMap (Piece.written (instead m image Mark.chars)) := by
  induction h with
  | nil => rfl
  | @mark m' ps cs _ ih =>
    rw [List.flatMap_cons, Piece.written, instead, ← ih]
    by_cases hsame : m' = m
    · rw [if_pos hsame, hsame, replaceFrom_same]
    · rw [if_neg hsame, replaceFrom_other fun heq => hsame heq.symm]
  | @char c ps cs hnone _ ih =>
    rw [List.flatMap_cons, replaceFrom_cons (hnone m), ih]
    rfl

/-- **An image that is foreign to marks**: there is one, and none of its characters is one of a
mark. -/
structure Foreign (image : List Char) : Prop where
  /-- There is a character. -/
  ne_nil : image ≠ []
  /-- No mark has one of the characters. -/
  not_mem : ∀ c ∈ image, ∀ m, c ∉ Mark.chars m

/-- What begins the filled-in text, and has no character of the image, began the text before. -/
theorem Read.isPrefix_of_instead (h : Read ps cs) (hne : image ≠ []) (hw : ∀ c ∈ image, c ∉ w)
    (hbegins : w <+: ps.flatMap (Piece.written (instead m image Mark.chars))) : w <+: cs := by
  induction h generalizing w with
  | nil => exact hbegins
  | @mark m' ps cs _ ih =>
    rw [List.flatMap_cons, Piece.written, instead] at hbegins
    by_cases hsame : m' = m
    · -- the image stands in front, so that nothing can have begun there
      rw [if_pos hsame] at hbegins
      cases w with
      | nil => exact List.nil_prefix
      | cons c w =>
        obtain ⟨d, image, rfl⟩ := List.exists_cons_of_ne_nil hne
        obtain ⟨rfl, -⟩ := List.cons_prefix_cons.1 hbegins
        exact absurd List.mem_cons_self (hw c List.mem_cons_self)
    · rw [if_neg hsame] at hbegins
      rcases List.prefix_or_prefix_of_prefix hbegins (List.prefix_append _ _) with hw' | hw'
      · exact hw'.trans (List.prefix_append _ _)
      · obtain ⟨w, rfl⟩ := hw'
        rw [List.prefix_append_right_inj] at hbegins ⊢
        exact ih (fun c hc hmem => hw c hc (List.mem_append_right _ hmem)) hbegins
  | @char c ps cs _ _ ih =>
    cases w with
    | nil => exact List.nil_prefix
    | cons d w =>
      obtain ⟨rfl, hbehind⟩ := List.cons_prefix_cons.1 hbegins
      refine List.cons_prefix_cons.2 ⟨rfl, ih (fun c hc hmem => ?_) hbehind⟩
      exact hw c hc (List.mem_cons_of_mem _ hmem)

theorem Foreign.ne_bracket (h : Foreign image) {c : Char} (hc : c ∈ image) : c ≠ '[' := by
  rintro rfl
  exact h.not_mem '[' hc .line List.mem_cons_self

/-- Filling in a mark first, and then what stands for the others, is filling in all of them. -/
theorem written_fill (m : Mark) (w : List Char) (images : Mark → List Char) (p : Piece) :
    (p.fill m w).flatMap (Piece.written images) = p.written (instead m w images) := by
  rw [Piece.fill]
  by_cases hsame : p = .mark m
  · subst hsame
    rw [if_pos rfl, Piece.written, instead, if_pos rfl, List.flatMap_map]
    exact List.flatMap_singleton' w
  · rw [if_neg hsame, List.flatMap_singleton]
    cases p with
    | char c => rfl
    | mark m' => rw [Piece.written, Piece.written, instead, if_neg fun heq => hsame (by rw [heq])]

/-- A foreign image is read character by character. -/
theorem Read.map_char_append (h : Read ps cs) (hw : ∀ c ∈ w, c ≠ '[') :
    Read (w.map .char ++ ps) (w ++ cs) := by
  induction w with
  | nil => exact h
  | cons c w ih =>
    obtain ⟨hc, hw⟩ := List.forall_mem_cons.1 hw
    exact .char (fun _ => Mark.not_isPrefix_cons hc) (ih hw)

/-- **A foreign image makes no mark and destroys none**: with it in place, the same pieces are
read. -/
theorem Read.fill (h : Read ps cs) (hforeign : Foreign image) (m : Mark) :
    Read (ps.flatMap (Piece.fill m image)) (ps.flatMap (Piece.written (instead m image Mark.chars))) := by
  induction h with
  | nil => exact .nil
  | @mark m' ps cs _ ih =>
    rw [List.flatMap_cons, List.flatMap_cons, Piece.written, Piece.fill, instead]
    by_cases hsame : m' = m
    · rw [if_pos hsame, if_pos (congrArg Piece.mark hsame)]
      exact ih.map_char_append fun c hc => hforeign.ne_bracket hc
    · rw [if_neg hsame, if_neg (mt Piece.mark.inj hsame)]
      exact .mark ih
  | @char c ps cs hnone hrest ih =>
    -- a mark that begins here now would have begun here before
    refine .char (fun m' hm' => hnone m' ?_) ih
    exact (Read.char hnone hrest).isPrefix_of_instead hforeign.ne_nil
      (fun d hd => hforeign.not_mem d hd m') hm'

end Reading

/-! ### Numbers -/

/-- The digits of a number are foreign to marks. -/
theorem foreign_toString (n : Nat) : Foreign (toString n).toList where
  ne_nil := by
    rw [Text.toList_toString]
    exact Nat.toDigits_ne_nil
  not_mem c hc m hmem := by
    have hletters : m.chars.all (!·.isDigit) = true := by
      cases m with
      | line | column | text => rfl
    have hletter : (!c.isDigit) = true := List.all_eq_true.1 hletters c hmem
    exact Text.not_mem_toString (Bool.not_eq_true' _ ▸ hletter) n hc

/-- What stands for each mark in the message of a failure. -/
def image (line column : Nat) (text : String) : Mark → List Char
  | .line => (toString line).toList
  | .column => (toString column).toList
  | .text => text.toList

end Template

namespace Text

open Template

/-- Replacing a mark in a text, told of the pieces of the text. -/
theorem replace_mark {spelling : String} {m : Mark} (hspelling : spelling.toList = m.chars)
    (image text : String) :
    (Text.replace spelling image text).toList =
      (pieces text.toList).flatMap (Piece.written (instead m image.toList Mark.chars)) := by
  rw [Text.replace, String.toList_ofList, hspelling]
  exact (read_pieces text.toList).replaceFrom_eq m image.toList

/-- **Replacing a mark by a number** leaves the other pieces of the text as they are. -/
theorem pieces_replace_number {spelling : String} {m : Mark}
    (hspelling : spelling.toList = m.chars) (n : Nat) (text : String) :
    pieces (Text.replace spelling (toString n) text).toList =
      (pieces text.toList).flatMap (Piece.fill m (toString n).toList) := by
  rw [replace_mark hspelling]
  exact ((read_pieces text.toList).fill (foreign_toString n) m).pieces_eq

end Text

namespace Descriptor

open Template

/-- **A message is its template filled in at one go.** The pass over the template goes from left to
right, and the template is the only text that marks are looked for in: neither the numbers nor the
text that is quoted are read again, whatever they contain. For the passes that replace marks by
numbers, this is because each leaves all other pieces of the text as they are: it makes no mark, and
it destroys none but the one that it replaces. -/
theorem render_eq_filled (d : Descriptor) (line column : Nat) (text : String) :
    d.render line column text =
      String.ofList (filled (image line column text) d.message.toList) ∧
    (∀ ps, Read ps d.message.toList ↔ ps = pieces d.message.toList) ∧
    (∀ template, pieces (Text.replace "[[LINE]]" (toString line) template).toList =
      (pieces template.toList).flatMap (Piece.fill .line (toString line).toList)) ∧
    ∀ template, pieces (Text.replace "[[COLUMN]]" (toString column) template).toList =
      (pieces template.toList).flatMap (Piece.fill .column (toString column).toList) := by
  have hline : "[[LINE]]".toList = Mark.line.chars := by decide +kernel
  have hcolumn : "[[COLUMN]]".toList = Mark.column.chars := by decide +kernel
  have htext : "[[TEXT]]".toList = Mark.text.chars := by decide +kernel
  refine ⟨?_, fun ps => read_iff, Text.pieces_replace_number hline line,
    Text.pieces_replace_number hcolumn column⟩
  rw [← String.toList_inj, String.toList_ofList, render, Text.replace_mark htext,
    Text.pieces_replace_number hcolumn, Text.pieces_replace_number hline, List.flatMap_assoc,
    List.flatMap_assoc, filled]
  -- what becomes of each piece of the template
  refine congrArg (fun f => (pieces d.message.toList).flatMap f) (funext fun p => ?_)
  simp only [written_fill]
  refine congrArg (fun images => p.written images) (funext fun m => ?_)
  cases m <;> rfl

/-- A mark in further brackets is filled in, and a mark in the quoted text is not. -/
example : (⟨"Odd", "[[[LINE]]]: '[[TEXT]]'"⟩ : Descriptor).render 3 7 "[[COLUMN]]" =
    "[3]: '[[COLUMN]]'" := by
  decide +kernel

end Descriptor

end RuleLexer
