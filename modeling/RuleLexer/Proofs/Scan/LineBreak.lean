import RuleLexer.Proofs.Scan.Run

/-!
# Spellings of line breaks

A line break is a line feed, or a carriage return and a line feed, and the last line of a text may
go without. Which of these a text uses makes no difference to a scan.

* `Respells` — the same text with some of its line breaks spelled otherwise, and possibly with one
  more at its end.

The lines are the same, or there is an empty one more at the end (`lines_of_respells`), on which a
scan finds nothing. The main statement is `Table.scan_of_respells`. A text that has carriage returns
of its own is left out: one that stands in front of a line feed would be taken for part of the line
break, unless another one is put between them.
-/

namespace RuleLexer

namespace Text

/-! ### Line breaks spelled otherwise -/

/-- **The second text respells the first one**: some of its line feeds have a carriage return in
front of them, and there may be a line break more at the end. -/
inductive Respells : List Char → List Char → Prop
  /-- Nothing is put behind the end. -/
  | stop : Respells [] []
  /-- A line feed is put behind the end. -/
  | feed : Respells [] ['\n']
  /-- A carriage return and a line feed are put behind the end. -/
  | returnFeed : Respells [] ['\r', '\n']
  /-- A character stays as it is. -/
  | keep (c : Char) {cs ds : List Char} : Respells cs ds → Respells (c :: cs) (c :: ds)
  /-- A carriage return is put in front of a line feed. -/
  | turn {cs ds : List Char} : Respells cs ds → Respells ('\n' :: cs) ('\r' :: '\n' :: ds)

theorem dropReturn_eq_self {line : List Char} (plain : '\r' ∉ line) : dropReturn line = line := by
  unfold dropReturn
  split
  · exact absurd List.mem_cons_self plain
  · rfl

/-- Behind the last character of a text, a line feed ends the line in progress, or begins an empty
one. -/
theorem linesFrom_feed {line : List Char} (plain : '\r' ∉ line) :
    linesFrom line ['\n'] = linesFrom line [] ∨
      linesFrom line ['\n'] = linesFrom line [] ++ [[]] := by
  have last : linesFrom line ['\n'] = [line.reverse] := by
    rw [linesFrom, if_pos rfl, dropReturn_eq_self plain]
    rfl
  cases line with
  | nil => exact Or.inr last
  | cons c cs => exact Or.inl last

/-- A line feed with a carriage return in front of it ends the line in progress as one without. -/
theorem linesFrom_returnFeed {line : List Char} (plain : '\r' ∉ line) (cs : List Char) :
    linesFrom line ('\r' :: '\n' :: cs) = linesFrom line ('\n' :: cs) :=
  calc linesFrom line ('\r' :: '\n' :: cs)
      = linesFrom ('\r' :: line) ('\n' :: cs) := by rw [linesFrom, if_neg (by decide)]
    _ = line.reverse :: linesFrom [] cs := by rw [linesFrom, if_pos rfl, dropReturn]
    _ = linesFrom line ('\n' :: cs) := by rw [linesFrom, if_pos rfl, dropReturn_eq_self plain]

/-- **The lines of a text are those of every spelling**, but for an empty one at the end. The
carriage returns of the spelling are not counted as characters of a line, since the line in progress
has none that stands last. -/
theorem linesFrom_of_respells {line text other : List Char} (plain : '\r' ∉ text)
    (started : '\r' ∉ line) (respells : Respells text other) :
    linesFrom line other = linesFrom line text ∨
      linesFrom line other = linesFrom line text ++ [[]] := by
  induction respells generalizing line with
  | stop => exact Or.inl rfl
  | feed => exact linesFrom_feed started
  | returnFeed =>
    rw [linesFrom_returnFeed started]
    exact linesFrom_feed started
  | keep c _ ih =>
    have hc : '\r' ≠ c := List.ne_of_not_mem_cons plain
    have hcs := List.not_mem_of_not_mem_cons plain
    rw [linesFrom, linesFrom]
    split
    · exact (ih hcs List.not_mem_nil).imp (congrArg _) (congrArg _)
    · exact ih hcs (List.not_mem_cons_of_ne_of_not_mem hc started)
  | turn _ ih =>
    have hcs := List.not_mem_of_not_mem_cons plain
    rw [linesFrom_returnFeed started, linesFrom, linesFrom, if_pos rfl, if_pos rfl]
    exact (ih hcs List.not_mem_nil).imp (congrArg _) (congrArg _)

theorem lines_of_respells {text other : List Char} (plain : '\r' ∉ text)
    (respells : Respells text other) :
    lines other = lines text ∨ lines other = lines text ++ [[]] :=
  linesFrom_of_respells plain List.not_mem_nil respells

end Text

open Text (Respells)

namespace Table

/-! ### Scans -/

/-- On an empty line at the end a scan finds nothing, neither a token nor a fault. -/
theorem scanLines_concat_nil (t : Table) (options : ScanOptions) (number : Nat)
    (lines : List (List Char)) :
    t.scanLines options number (lines ++ [[]]) = t.scanLines options number lines := by
  induction lines generalizing number with
  | nil =>
    have empty : t.scanLine options number (.ofLine []) = .ok [] := by
      rw [scanLine_eq]
      exact if_pos rfl
    change t.scanLine options number (.ofLine []) >>= _ = _
    rw [empty]
    rfl
  | cons line lines ih => rw [List.cons_append, scanLines, scanLines, ih]

/-- **Line breaks may be spelled either way.** A text without carriage returns, and the same text
with carriage returns in front of some of its line feeds and possibly with a line break more at the
end, are scanned alike: with the same tokens on the same lines, or with the same fault. -/
theorem scan_of_respells (t : Table) (options : ScanOptions) {text other : String}
    (plain : '\r' ∉ text.toList) (respells : Respells text.toList other.toList) :
    t.scan options other = t.scan options text := by
  rw [scan, scan]
  rcases Text.lines_of_respells plain respells with same | more
  · rw [same]
  · rw [more, scanLines_concat_nil]

/-- A rule for a few letters, with a descriptor that gives the place of what is not one. -/
def fewLetters : Table where
  rules := [{ name := "LETTER", pattern := .ofValid ["[a-d]"] (by decide +kernel) }]
  fallback := some ⟨"Letter", "[[LINE]]:[[COLUMN]] [[TEXT]]"⟩

/-- Three lines, of which the second is empty, are scanned alike with a carriage return at the first
and a line break more at the end; and so are two lines with a fault on the second. -/
theorem scan_of_respells_mixed :
    ('\r' ∉ "a\n\nb".toList ∧ Respells "a\n\nb".toList "a\r\n\nb\r\n".toList ∧
      fewLetters.scan {} "a\n\nb" = .ok [⟨"LETTER", "a", 0⟩, ⟨"LETTER", "b", 2⟩] ∧
      fewLetters.scan {} "a\r\n\nb\r\n" = .ok [⟨"LETTER", "a", 0⟩, ⟨"LETTER", "b", 2⟩]) ∧
    '\r' ∉ "a\nb7\n".toList ∧ Respells "a\nb7\n".toList "a\r\nb7\n\n".toList ∧
      fewLetters.scan {} "a\nb7\n" = .error (.described "Letter" "1:1 7" 1 1 "7") ∧
      fewLetters.scan {} "a\r\nb7\n\n" = .error (.described "Letter" "1:1 7" 1 1 "7") := by
  have plain : '\r' ∉ "a\n\nb".toList := by decide +kernel
  have respells : Respells "a\n\nb".toList "a\r\n\nb\r\n".toList :=
    .keep 'a' (.turn (.keep '\n' (.keep 'b' .returnFeed)))
  have scanned : fewLetters.scan {} "a\n\nb" = .ok [⟨"LETTER", "a", 0⟩, ⟨"LETTER", "b", 2⟩] := by
    decide +kernel
  have plain' : '\r' ∉ "a\nb7\n".toList := by decide +kernel
  have respells' : Respells "a\nb7\n".toList "a\r\nb7\n\n".toList :=
    .keep 'a' (.turn (.keep 'b' (.keep '7' (.keep '\n' .feed))))
  have fails : fewLetters.scan {} "a\nb7\n" =
      .error (.described "Letter" "1:1 7" 1 1 "7") := by
    decide +kernel
  have same := scan_of_respells fewLetters {} plain respells
  have same' := scan_of_respells fewLetters {} plain' respells'
  exact ⟨⟨plain, respells, scanned, same.trans scanned⟩,
    plain', respells', fails, same'.trans fails⟩

end Table

end RuleLexer
