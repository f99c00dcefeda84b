import Vitals.Duration.Basic
import Vitals.Text.Quoted
import Vitals.Sample
import Vitals.Fault
import Vitals.Pipeline.Stage

/-!
# Events

What the exporter reports while it runs, beyond its results: warnings about data that was lost or
skipped, and errors of parts that it can do without. This file fixes the events and `Event.text`,
the line of an event: its level, its message, and its fields in the order of their names.
-/

namespace Vitals

/-- A task that broke off. -/
structure Crash where
  /-- The number of the task. -/
  task : Nat
  message : String
  deriving DecidableEq, Repr, Inhabited

/-- What a crash reads like. -/
def Crash.text (c : Crash) : String :=
  "task " ++ Numeral.text c.task ++ " panicked with message " ++ Text.quoted c.message

inductive Event where
  /-- A branch whose receiver is gone gets no more items. -/
  | branchRemoved (branch : String)
  /-- A subscriber misses a snapshot, because it made no room for it in time. -/
  | snapshotSkipped (subscriber : Nat) (timeout : Duration)
  /-- No one takes snapshots any more. -/
  | aggregatorCutOff
  /-- A stage gave up `dropped` snapshots when its time was over. -/
  | stageAbandoned (stage : Stage) (grace : Duration) (dropped : Nat) (upstreamOpen : Bool)
  | stageCrashed (stage : Stage) (crash : Crash)
  | groupMissing (failure : GroupFailure)
  | scrapeCrashed (crash : Crash)
  | transportEnded
  | transportFailed (fault : Fault)
  | transportCrashed (crash : Crash)
  | recordMissing (fault : Fault)
  | saveFailed (fault : Fault)
  | saveCrashed (crash : Crash)
  deriving DecidableEq, Repr

namespace Event

inductive Level where
  | warning
  | error
  deriving DecidableEq, Repr

def Level.text : Level → String
  | .warning => "WARN"
  | .error => "ERROR"

/-- The name of a subscriber. -/
def subscriberName (id : Nat) : String :=
  "subscriber-" ++ Numeral.text id

def level : Event → Level
  | .branchRemoved _ | .snapshotSkipped _ _ | .aggregatorCutOff | .stageAbandoned _ _ _ _
  | .groupMissing _ | .transportEnded => .warning
  | _ => .error

def message : Event → String
  | .branchRemoved _ => "fan-out branch receiver dropped, removing branch"
  | .snapshotSkipped _ _ => "subscriber did not accept snapshot in time, skipping it"
  | .aggregatorCutOff => "snapshot receiver dropped, stopping aggregator"
  | .stageAbandoned _ _ _ _ =>
    "graceful shutdown time is over, abandoning in-flight snapshots"
  | .stageCrashed _ _ => "stage task failed"
  | .groupMissing _ => "failed to collect metric group"
  | .scrapeCrashed _ => "export task panicked"
  | .transportEnded => "streaming transport stopped, snapshots are only stored"
  | .transportFailed _ => "streaming transport failed"
  | .transportCrashed _ => "streaming transport task failed"
  | .recordMissing _ => "failed to serialize snapshot"
  | .saveFailed _ => "failed to save snapshot"
  | .saveCrashed _ => "snapshot save task failed"

/-- The fields of an event, sorted by name. -/
def fields : Event → List (String × String)
  | .branchRemoved branch => [("branch", branch)]
  | .snapshotSkipped id timeout => [("id", subscriberName id), ("timeout", timeout.brief)]
  | .aggregatorCutOff => []
  | .stageAbandoned stage grace dropped upstreamOpen =>
    [("dropped", Numeral.text dropped), ("grace", grace.brief), ("stage", stage.name),
      ("upstream_open", if upstreamOpen then "true" else "false")]
  | .stageCrashed stage crash => [("error", crash.text), ("stage", stage.name)]
  | .groupMissing failure => [("group", failure.group.name), ("reason", failure.reason)]
  | .scrapeCrashed crash => [("error", crash.text)]
  | .transportEnded => []
  | .transportFailed fault => [("error", fault.message)]
  | .transportCrashed crash => [("error", crash.text)]
  | .recordMissing fault => [("error", fault.message)]
  | .saveFailed fault => [("error", fault.message)]
  | .saveCrashed crash => [("error", crash.text)]

/-- The line of an event. -/
def text (e : Event) : String :=
  e.level.text ++ " " ++ " | ".intercalate (e.message :: e.fields.map fun f => f.1 ++ "=" ++ f.2)

end Event

end Vitals
