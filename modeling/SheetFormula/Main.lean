import SheetFormula.CommandLine.Run
import Std.Time.DateTime

/-!
# The program

The command line of the calculator: reads what the command needs from the world, and shows its
outcome.
-/

set_option relaxedAutoImplicit false
set_option autoImplicit false

namespace SheetFormula.CommandLine

/-- The text of a file, if it can be read. -/
def readFile? (name : String) : IO (Option String) := do
  try
    return some (← IO.FS.readFile name)
  catch _ =>
    return none

/-- The current instant and a random number. -/
def readSurroundings : IO Surroundings := do
  let now := (← Std.Time.Timestamp.now).toNanosecondsSinceUnixEpoch.val
  let seconds := now / 1000000000
  let draw ← IO.rand 0 (Nat.pow 2 53 - 1)
  return {
    now := { seconds, nanos := (now - 1000000000 * seconds).toNat }
    chance := Number.ofInt draw / Number.ofInt (Nat.pow 2 53) }

/-- Carries out a command line. -/
def start (words : List String) : IO UInt8 := do
  let timezone ← IO.getEnv timezoneVariable
  let configuration ← IO.getEnv configurationVariable
  let environment : Environment := fun name =>
    if name = timezoneVariable then timezone
    else if name = configurationVariable then configuration
    else none
  let command := Command.read? environment words
  let contents ← ((command.map Command.files).getD []).mapM fun name =>
    return (name, ← readFile? name)
  let files : Files := fun name => (contents.lookup name).join
  let outcome := runWords environment files (← readSurroundings) words
  (← IO.getStderr).putStr (linesText outcome.complaints)
  (← IO.getStdout).putStr (linesText outcome.output)
  return outcome.code

end SheetFormula.CommandLine

/-- Runs the program. -/
def main (words : List String) : IO UInt32 := do
  return (← SheetFormula.CommandLine.start words).toUInt32
