import Vitals.CommandLine.Session

/-!
# The program

Reads the arguments, the environment and the file of settings, and writes what the session leaves
behind. A run goes on until its standard input ends.
-/

namespace Vitals.CommandLine

/-- What is found at a path. -/
def readFile (path : String) : IO Settings.File := do
  try
    return .found (← IO.FS.readBinFile path)
  catch
    | .noFileOrDirectory _ _ _ => return .missing
    | .inappropriateType _ _ _ => return .directory
    | e => return .unreadable (toString e)

/-- The variables that are set, of those that are read. -/
def readVariables : IO (List (String × String)) :=
  (filterVariable :: Settings.overrides.map Settings.Override.name).filterMapM fun name => do
    return (← IO.getEnv name).map fun value => (name, value)

/-- Waits until the standard input ends; `fuel` bounds the number of lines. -/
def waitForEnd (input : IO.FS.Stream) : Nat → IO Unit
  | 0 => return
  | fuel + 1 => do
    if (← input.getLine).isEmpty then return
    waitForEnd input fuel

/-- Runs an exporter until the standard input ends. -/
def run (s : Settings) : IO Ending := do
  match Streaming.Address.bind s.server.address with
  | .error fault => return .ofFault fault
  | .ok _ =>
    let begun ← IO.monoNanosNow
    waitForEnd (← IO.getStdin) Simulation.Machine.patience
    return (interrupted s ((← IO.monoNanosNow) - begun)).getD .brokenOff

/-- The whole session. -/
def session (arguments : List String) : IO Ending := do
  match runFile arguments with
  | .error ending => return ending
  | .ok path =>
    let file ← readFile path
    let environment ← readVariables
    match prepare file (fun name => List.lookup name environment) with
    | .error ending => return ending
    | .ok s => run s

end Vitals.CommandLine

def main (arguments : List String) : IO UInt32 := do
  let ending ← Vitals.CommandLine.session arguments
  IO.print ending.output
  IO.eprint ending.errorOutput
  return ending.exitCode.toUInt32
