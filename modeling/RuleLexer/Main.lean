import RuleLexer.Command.Run

/-!
# The program

Reads what the command line may ask for, runs the command and passes on what it leaves behind.
-/

namespace RuleLexer.Program

/-- What stands at a path. -/
def stateOf (path : String) : IO FileState := do
  try
    return .file (← IO.FS.readBinFile path)
  catch
    | .inappropriateType none _ _ => return .directory
    | .inappropriateType (some _) _ _ => return .blocked
    | _ => return .missing

/-- All bytes of a stream, behind those that are read already. -/
partial def readAll (stream : IO.FS.Stream) (start : ByteArray) : IO ByteArray := do
  let bytes ← stream.read 65536
  if bytes.isEmpty then return start else readAll stream (start ++ bytes)

/-- Runs a command line. -/
def run (arguments : List String) : IO UInt32 := do
  let states ← (Command.paths arguments).mapM fun path => do return (path, ← stateOf path)
  let files : Files := fun path => (states.lookup path).getD .missing
  let input ← if Command.wantsInput arguments then readAll (← IO.getStdin) .empty else pure .empty
  let outcome := Command.run arguments files input
  (← IO.getStdout).putStr outcome.output
  (← IO.getStderr).putStr outcome.complaint
  return outcome.code.toUInt32

end RuleLexer.Program

/-- The program. -/
def main (arguments : List String) : IO UInt32 := RuleLexer.Program.run arguments
