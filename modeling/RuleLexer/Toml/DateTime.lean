/-!
# Dates and times

A date, a time of day, or both, the latter possibly with an offset from universal time. They are
written in one form only: a `T` stands between date and time, and the fraction of a second is kept
to the billionth and has no zeros at its end.
-/

namespace RuleLexer.Toml

/-- A day of the calendar. -/
structure Date where
  /-- The year. -/
  year : Nat
  /-- The month, from one. -/
  month : Nat
  /-- The day, from one. -/
  day : Nat
  deriving DecidableEq, Repr

/-- A time of day. -/
structure Time where
  /-- The hour. -/
  hour : Nat
  /-- The minute. -/
  minute : Nat
  /-- The second, which may be a leap second. -/
  second : Nat
  /-- The digits of the fraction, as they are written. -/
  fraction : List Char
  deriving DecidableEq, Repr

/-- An offset from universal time. -/
inductive Offset
  /-- No offset, by its letter. -/
  | utc
  /-- Hours and minutes, behind or ahead. -/
  | shift (behind : Bool) (hours minutes : Nat)
  deriving DecidableEq, Repr

/-- A date, a time, or both. -/
inductive DateTime
  /-- A date alone. -/
  | date (d : Date)
  /-- A time alone. -/
  | time (t : Time)
  /-- A date and a time, with an offset or without. -/
  | moment (d : Date) (t : Time) (offset : Option Offset)
  deriving DecidableEq, Repr

/-! ### Writing -/

/-- A number with leading zeros. -/
def padded (width n : Nat) : List Char :=
  let digits := Nat.toDigits 10 n
  List.replicate (width - digits.length) '0' ++ digits

/-- The text of a date. -/
def Date.text (d : Date) : List Char :=
  padded 4 d.year ++ '-' :: padded 2 d.month ++ '-' :: padded 2 d.day

/-- A list without the zeros at its end. -/
def dropLastZeros (cs : List Char) : List Char := (cs.reverse.dropWhile (· = '0')).reverse

/-- The text of a time. -/
def Time.text (t : Time) : List Char :=
  let fraction := dropLastZeros (t.fraction.take 9)
  padded 2 t.hour ++ ':' :: padded 2 t.minute ++ ':' :: padded 2 t.second ++
    if fraction.isEmpty then [] else '.' :: fraction

/-- The text of an offset. An offset of nothing counts as ahead. -/
def Offset.text : Offset → List Char
  | .utc => ['Z']
  | .shift behind hours minutes =>
    (if behind && (hours != 0 || minutes != 0) then '-' else '+') ::
      (padded 2 hours ++ ':' :: padded 2 minutes)

/-- **The text of a date or a time.** -/
def DateTime.text : DateTime → String
  | .date d => String.ofList d.text
  | .time t => String.ofList t.text
  | .moment d t offset =>
    String.ofList (d.text ++ 'T' :: t.text ++ (offset.map Offset.text).getD [])

/-! ### Reading -/

/-- Reads a number of so many digits from the front of a text. -/
def fixedNumber? : (width : Nat) → List Char → Option (Nat × List Char) := go 0
where
  /-- Reads further digits behind a number. -/
  go (n : Nat) : (width : Nat) → List Char → Option (Nat × List Char)
    | 0, cs => some (n, cs)
    | width + 1, c :: cs =>
      if c.isDigit then go (n * 10 + (c.toNat - 0x30)) width cs else none
    | _ + 1, [] => none

/-- What follows a character at the front of a text. -/
def after? (c : Char) : List Char → Option (List Char)
  | d :: cs => if d = c then some cs else none
  | [] => none

/-- The number of days of a month. -/
def daysOf (year month : Nat) : Nat :=
  if month = 2 then
    if year % 4 = 0 ∧ (year % 100 ≠ 0 ∨ year % 400 = 0) then 29 else 28
  else if month = 4 ∨ month = 6 ∨ month = 9 ∨ month = 11 then 30
  else 31

/-- Whether a date is in the calendar. -/
def Date.isValid (d : Date) : Bool :=
  1 ≤ d.month && d.month ≤ 12 && 1 ≤ d.day && d.day ≤ daysOf d.year d.month

/-- Whether a time is on the clock. -/
def Time.isValid (t : Time) : Bool := t.hour ≤ 23 && t.minute ≤ 59 && t.second ≤ 60

/-- Reads a date from the front of a text. -/
def Date.read? (cs : List Char) : Option (Date × List Char) := do
  let (year, cs) ← fixedNumber? 4 cs
  let (month, cs) ← fixedNumber? 2 (← after? '-' cs)
  let (day, cs) ← fixedNumber? 2 (← after? '-' cs)
  let d : Date := ⟨year, month, day⟩
  if d.isValid then some (d, cs) else none

/-- Reads a time from the front of a text. -/
def Time.read? (cs : List Char) : Option (Time × List Char) := do
  let (hour, cs) ← fixedNumber? 2 cs
  let (minute, cs) ← fixedNumber? 2 (← after? ':' cs)
  let (second, cs) ← fixedNumber? 2 (← after? ':' cs)
  let (fraction, cs) ← match cs with
    | '.' :: rest =>
      let digits := rest.takeWhile Char.isDigit
      if digits.isEmpty then none else some (digits, rest.dropWhile Char.isDigit)
    | cs => some ([], cs)
  let t : Time := ⟨hour, minute, second, fraction⟩
  if t.isValid then some (t, cs) else none

/-- Reads the hours and minutes of an offset, which must be all of a text. -/
def Offset.ofShift? (behind : Bool) (cs : List Char) : Option Offset := do
  let (hours, cs) ← fixedNumber? 2 cs
  let (minutes, cs) ← fixedNumber? 2 (← after? ':' cs)
  if cs.isEmpty ∧ hours ≤ 23 ∧ minutes ≤ 59 then some (.shift behind hours minutes) else none

/-- The offset that is all of a text, none for the empty text. -/
def Offset.ofText? : List Char → Option (Option Offset)
  | [] => some none
  | ['Z'] | ['z'] => some (some .utc)
  | '+' :: cs => (Offset.ofShift? false cs).map some
  | '-' :: cs => (Offset.ofShift? true cs).map some
  | _ => none

/-- The time with its offset that is all of a text. -/
def clock? (cs : List Char) : Option (Time × Option Offset) := do
  let (t, cs) ← Time.read? cs
  return (t, ← Offset.ofText? cs)

/-- **The date or time that is all of a text.** -/
def DateTime.ofText? (cs : List Char) : Option DateTime :=
  match Date.read? cs with
  | some (d, []) => some (.date d)
  | some (d, c :: rest) =>
    if c = 'T' ∨ c = 't' ∨ c = ' ' then
      (clock? rest).map fun (t, offset) => .moment d t offset
    else none
  | none =>
    match Time.read? cs with
    | some (t, []) => some (.time t)
    | _ => none

end RuleLexer.Toml
