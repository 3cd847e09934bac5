import RuleLexer.Descriptor

/-!
# Faults

A fault is what ends the reading of a text before its end. Every fault but the refusal of a callback
has a place: a line, and a column in characters, both counted from zero.
-/

namespace RuleLexer

/-- What ends the reading of a text before its end. -/
inductive Fault
  /-- The group that a rule selects took no part in the match. -/
  | captureMissing (rule : String) (group line column : Nat)
  /-- A rule matched the empty text. -/
  | zeroWidth (rule : String) (line column : Nat)
  /-- No rule matches, and no descriptor says how to report it. -/
  | unexpected (line column : Nat) (text : String)
  /-- No rule matches, reported as a descriptor says. -/
  | described (kind message : String) (line column : Nat) (text : String)
  /-- A callback refused a token. -/
  | refused (message : String)
  deriving DecidableEq, Repr

namespace Fault

/-- The fault that a descriptor makes of a failure. -/
def ofDescriptor (d : Descriptor) (line column : Nat) (text : String) : Fault :=
  .described d.kind (d.render line column text) line column text

/-- The kind of a fault. A described fault has the kind that its descriptor names. -/
def kind : Fault → String
  | .captureMissing .. => "CaptureGroupIndex"
  | .zeroWidth .. => "ZeroWidthMatch"
  | .unexpected .. => "UnexpectedToken"
  | .described kind .. => kind
  | .refused _ => "Callback"

/-- The place of a fault as it is worded in messages. -/
def placeText (line column : Nat) : String :=
  "line " ++ toString line ++ ", column " ++ toString column

/-- **The message of a fault.** -/
def message : Fault → String
  | .captureMissing rule group line column =>
    "rule '" ++ rule ++ "' selects capture group " ++ toString group ++
      ", which is missing from the match at " ++ placeText line column
  | .zeroWidth rule line column =>
    "rule '" ++ rule ++ "' matched an empty string at " ++ placeText line column
  | .unexpected line column text =>
    "Illegal character at " ++ placeText line column ++ ": '" ++ text ++ "'"
  | .described _ message .. => message
  | .refused message => message

/-- The line of a fault, if it has a place. -/
def line? : Fault → Option Nat
  | .captureMissing _ _ line _ | .zeroWidth _ line _ | .unexpected line _ _
  | .described _ _ line _ _ => some line
  | .refused _ => none

/-- The column of a fault, if it has a place. -/
def column? : Fault → Option Nat
  | .captureMissing _ _ _ column | .zeroWidth _ _ column | .unexpected _ column _
  | .described _ _ _ column _ => some column
  | .refused _ => none

end Fault

end RuleLexer
