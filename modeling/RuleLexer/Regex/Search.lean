import RuleLexer.Regex.Program
import RuleLexer.Unicode.Class

/-!
# Searching

A search runs a program over a text, one character at a time, on all ways of matching at once. A
thread is one way: the address at which it stands and the slots noted on its path. The threads are
kept in the order of preference.

Between two characters the threads are carried on, by jumps, splits, conditions and saves, until
each stands at an instruction that takes a character or ends a match. At every place an address is
entered at most once: a later thread there could only do what the earlier, preferred one does. This
bounds the number of threads by the size of the program, and the work by its product with the length
of the text.

A thread that ends a match makes all less preferred ones superfluous; the ones before it go on, and
if one of them ends a match later, that match is preferred.
-/

namespace RuleLexer.Regex

/-! ### Conditions on the place -/

/-- Whether a character next to a place is a word character. -/
def isWordAt (ascii : Bool) : Option Char → Bool
  | none => false
  | some c => if ascii then Unicode.isAsciiWord c else Unicode.isWord c

/-- Whether a condition holds between the character `before` and the character `after`, none
standing for an end of the text. -/
def Look.holds (before after : Option Char) : Look → Bool
  | .textStart => before.isNone
  | .textEnd => after.isNone
  | .lineStart => before.isNone || before = some '\n'
  | .lineEnd => after.isNone || after = some '\n'
  | .lineStartCrlf =>
    before.isNone || before = some '\n' || (before = some '\r' && after ≠ some '\n')
  | .lineEndCrlf =>
    after.isNone || after = some '\r' || (after = some '\n' && before ≠ some '\r')
  | .boundary ascii => isWordAt ascii before != isWordAt ascii after
  | .notBoundary ascii => isWordAt ascii before == isWordAt ascii after
  | .wordStart ascii => !isWordAt ascii before && isWordAt ascii after
  | .wordEnd ascii => isWordAt ascii before && !isWordAt ascii after
  | .wordStartHalf ascii => !isWordAt ascii before
  | .wordEndHalf ascii => !isWordAt ascii after

/-! ### Threads -/

/-- The places noted so far, by slot. -/
abbrev Slots := List (Option Nat)

/-- One way of matching. -/
structure Thread where
  /-- The address at which the thread stands. -/
  address : Nat
  /-- The places noted on the way. -/
  slots : Slots
  deriving DecidableEq, Repr

/-- The addresses that were entered at one place, as the bits of a number. -/
abbrev Seen := Nat

/-- A place in the text: how many characters stand before it, and the characters next to it. -/
structure Place where
  /-- The number of characters before the place. -/
  index : Nat
  /-- The character before the place. -/
  before : Option Char
  /-- The character after the place. -/
  after : Option Char
  deriving DecidableEq, Repr

namespace Program

/-- The threads that a thread turns into when it goes on without taking a character, the preferred
one first, or none if it stands at an instruction that takes a character or ends a match. -/
def advance? (p : Program) (place : Place) (t : Thread) : Option (List Thread) :=
  match p.instrs[t.address]? with
  | none => some []
  | some (.char ..) => none
  | some .accept => none
  | some (.jump next) => some [⟨next, t.slots⟩]
  | some (.split first second) => some [⟨first, t.slots⟩, ⟨second, t.slots⟩]
  | some (.save slot next) => some [⟨next, t.slots.set slot (some place.index)⟩]
  | some (.look l next) =>
    some (if l.holds place.before place.after then [⟨next, t.slots⟩] else [])

/-- Carries threads on as far as they go without taking a character, entering every address at most
once. The threads that wait are collected with the last one first. -/
def carryOn (p : Program) (place : Place) :
    (fuel : Nat) → List Thread → Seen → List Thread → List Thread
  | 0, _, _, waiting => waiting.reverse
  | _ + 1, [], _, waiting => waiting.reverse
  | fuel + 1, t :: work, seen, waiting =>
    if seen.testBit t.address then p.carryOn place fuel work seen waiting
    else
      let seen := seen ||| 1 <<< t.address
      match p.advance? place t with
      | some next => p.carryOn place fuel (next ++ work) seen waiting
      | none => p.carryOn place fuel work seen (t :: waiting)

/-- The threads that wait at a place. Every address adds at most two threads to the work, so that
the size of the program bounds the number of steps. -/
def waiting (p : Program) (place : Place) (work : List Thread) : List Thread :=
  p.carryOn place (2 * p.instrs.size + work.length + 1) work 0 []

/-- Whether a thread ends a match. -/
def accepts (p : Program) (t : Thread) : Bool := p.instrs[t.address]? == some .accept

/-- The thread after it has taken a character, if it can. -/
def take? (p : Program) (c : Char) (t : Thread) : Option Thread :=
  match p.instrs[t.address]? with
  | some (.char s next) => if s.contains c then some ⟨next, t.slots⟩ else none
  | _ => none

/-- The thread that starts a match. -/
def start (p : Program) : Thread := ⟨0, List.replicate p.slots none⟩

/-- Runs threads over a text from a place on, `found` being the slots of the best match so far. As
long as there is none, a match may also start here. -/
def run (p : Program) (index : Nat) (before : Option Char) :
    List Char → List Thread → Option Slots → Option Slots
  | [], work, found =>
    let work := if found.isNone && !(p.anchored && 0 < index) then work ++ [p.start] else work
    let waiting := p.waiting ⟨index, before, none⟩ work
    (waiting.find? p.accepts).map (·.slots) <|> found
  | c :: cs, work, found =>
    let work := if found.isNone && !(p.anchored && 0 < index) then work ++ [p.start] else work
    let waiting := p.waiting ⟨index, before, some c⟩ work
    let found := (waiting.find? p.accepts).map (·.slots) <|> found
    let next := (waiting.takeWhile (!p.accepts ·)).filterMap (p.take? c)
    if next.isEmpty && (found.isSome || p.anchored) then found
    else p.run (index + 1) (some c) cs next found

/-- **Searching.** The slots of the first match in a text, the most preferred one among those that
start first. -/
def search? (p : Program) (text : List Char) : Option Slots := p.run 0 none text [] none

end Program

end RuleLexer.Regex
