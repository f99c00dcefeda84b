import Vitals.CommandLine.Arguments
import Vitals.Logging.Filter
import Vitals.Pipeline.Setup
import Vitals.Settings.Loading
import Vitals.Simulation.World
import Vitals.Streaming.Address

/-!
# Sessions

A session is one call of the program. It answers at once, or prepares the settings and runs an
exporter until it is interrupted. This file fixes

* `Ending`, what a session leaves behind, with the endings of answers, faults and reports;
* `prepare`, the settings of a run;
* `interrupted`, the ending of a run on which nothing is measured until it is interrupted.
-/

namespace Vitals.CommandLine

/-! ## 1. Endings -/

/-- What a session leaves behind. -/
structure Ending where
  exitCode : Nat
  output : String := ""
  errorOutput : String := ""
  deriving DecidableEq, Repr

namespace Ending

/-- The answer to a request that needs no run. -/
def answering (text : String) : Ending :=
  { exitCode := 0, output := text }

def ofUsageProblem (p : UsageProblem) : Ending :=
  { exitCode := 2, errorOutput := p.text }

def ofFault (f : Fault) : Ending :=
  { exitCode := 1, errorOutput := programName ++ ": " ++ f.message ++ "\n" }

/-- A run ends well if no stage was abandoned. -/
def ofReport (r : Report) : Ending :=
  { exitCode := if r.isClean then 0 else 2 }

/-- The program broke off. -/
def brokenOff : Ending :=
  { exitCode := 101 }

def ofResult : Except Fault Report → Ending
  | .ok report => ofReport report
  | .error fault => ofFault fault

end Ending

/-- The file that a run reads, or the ending of a session without a run. -/
def runFile (arguments : List String) : Except Ending String :=
  match Request.ofArguments arguments with
  | .ok (.run config) => .ok config
  | .ok .summary => .error (.answering summaryText)
  | .ok .help => .error (.answering helpText)
  | .ok .version => .error (.answering versionText)
  | .error problem => .error (.ofUsageProblem problem)

/-! ## 2. Runs -/

/-- The variable whose filter wins over the one in the settings. -/
def filterVariable : String :=
  "RUST_LOG"

/-- The settings of a run, or the ending of a session that cannot run. -/
def prepare (file : Settings.File) (lookup : String → Option String) : Except Ending Settings :=
  match Settings.load file lookup with
  | .error fault => .error (.ofFault fault)
  | .ok (s, _) =>
    match Logging.Filter.choose (lookup filterVariable) s.logger.level with
    | .ok _ => .ok s
    | .error .cut => .error .brokenOff
    | .error refusal => .error (.ofFault (Logging.Filter.problem s.logger.level refusal))

open Simulation

/-- A new exporter in a world where scrapes bring nothing. -/
def newWorld (s : Settings) : World where
  plan :=
    { scrapes := []
      binding := (Streaming.Address.bind s.server.address).map fun _ => () }
  exporter := s.newExporter
  log := s.log
  disk := {}

/-- The result of a run that begins at 0 and is interrupted at an instant. -/
def resultOf (s : Settings) (interrupt : Nat) : Option (Except Fault Report) :=
  let advance (target : Nat) (r : Run World Exporter.Outcome) (move : Exporter.Move) :
      Run World Exporter.Outcome :=
    let (w, out) := (r.state.step r.now (.own move)).getD (r.state, [])
    World.machine.advance target Machine.patience
      { r with state := w, events := out.reverse ++ r.events }
  let running := advance interrupt ⟨0, newWorld s, []⟩ (.run 0)
  let ended := advance (interrupt + s.exporter.gracefulShutdownTimeout.nanos) running .stop
  ended.events.findSome? fun o =>
    match o with
    | .returned _ result => some result
    | _ => none

/-- The ending of a run that is interrupted at an instant. -/
def interrupted (s : Settings) (interrupt : Nat) : Option Ending :=
  match Streaming.Address.bind s.server.address with
  | .error fault => some (.ofFault fault)
  | .ok _ =>
    if s.canStart 0 then (resultOf s interrupt).map .ofResult else some .brokenOff

end Vitals.CommandLine
