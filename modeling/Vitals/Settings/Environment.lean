import Vitals.Numeral
import Vitals.Settings.Basic

/-!
# Settings in the environment

Single keys can be set by environment variables, which win over what is written. This file fixes

* `Override`, a variable and what its value does, and `overrides`, their list;
* `Settings.override`, which applies the variables that are set, in the order of that list.
-/

namespace Vitals.Settings

/-! ## 1. Values -/

/-- The beginning of the name of every variable. -/
def variableStem : String :=
  "EXPORTER_"

/-- Reads a duration. -/
def readDuration (name value : String) : Except Problem Duration :=
  match Duration.ofSetting value.toList with
  | .ok d => .ok d
  | .error why => .error (.invalidDuration name value why)

/-- Reads a number below `2 ^ 64`. -/
def readWord (name value : String) : Except Problem UInt64 :=
  match Unsigned.parse Unsigned.bound64 (Text.trim value.toList) with
  | .ok n => .ok (UInt64.ofNat n)
  | .error fault => .error (.invalidValue name value fault.message)

/-- Reads a truth value. -/
def readBool (name value : String) : Except Problem Bool :=
  let text := String.ofList (Text.trim value.toList)
  if text = "true" then .ok true
  else if text = "false" then .ok false
  else .error (.invalidValue name value "provided string was not \x60true\x60 or \x60false\x60")

/-! ## 2. Variables -/

/-- A variable, and what it changes when it is set. -/
structure Override where
  name : String
  apply : String → Settings → Except Problem Settings

/-- A variable whose value is read before it is put into the settings. -/
def Override.reading {α : Type} (stem : String) (read : String → String → Except Problem α)
    (put : α → Settings → Settings) : Override :=
  let name := variableStem ++ stem
  ⟨name, fun value s => (read name value).map fun a => put a s⟩

/-- A variable whose value is taken as it is. -/
def Override.text (stem : String) (put : String → Settings → Settings) : Override :=
  .reading stem (fun _ value => .ok value) put

/-- The variables, in the order in which they are applied. -/
def overrides : List Override :=
  [.text "LOG_LEVEL" fun v s => { s with logger.level := v },
    .reading "LOG_JSON" readBool fun v s => { s with logger.isJson := v },
    .reading "SCRAPE_INTERVAL" readDuration fun v s => { s with exporter.scrapeInterval := v },
    .reading "GRACEFULLY_SHUTDOWN_TIMEOUT" readDuration fun v s =>
      { s with exporter.gracefulShutdownTimeout := v },
    .reading "WARMUP_INTERVAL" readDuration fun v s => { s with snapshots.warmupInterval := v },
    .reading "SNAPSHOT_INTERVAL" readDuration fun v s => { s with snapshots.snapshotInterval := v },
    .reading "SUBSCRIBER_BUFFER" readWord fun v s => { s with snapshots.subscriberBuffer := v },
    .reading "BRANCH_BUFFER" readWord fun v s => { s with snapshots.branchBuffer := v },
    .reading "DELIVERY_TIMEOUT" readDuration fun v s =>
      { s with snapshots.deliveryTimeout := some v },
    .text "SNAPSHOTS_STORAGE_PATH" fun v s => { s with diskStorage.path := v },
    .reading "MAXIMUM_SIZE_OF_SNAPSHOT_FILE" readWord fun v s =>
      { s with diskStorage.maximumFileSize := v },
    .text "ADDRESS" fun v s => { s with server.address := v }]
  ++ [("DISABLE_LOAD_AVERAGE", MetricGroup.loadAverage), ("DISABLE_CPU_USAGE", .cpuUsage),
    ("DISABLE_DISK_USAGE", .diskUsage), ("DISABLE_NETWORK_TOP_TALKERS", .networkTopTalkers),
    ("DISABLE_FILE_SYSTEM_INFO", .fileSystemInfo)].map fun (stem, g) =>
      .reading stem readBool fun v s =>
        { s with collector.disable := s.collector.disable.set g v }

/-- Applies the variables that are set. The first that has no value for its key is the problem. -/
def override (lookup : String → Option String) (s : Settings) : Except Problem Settings :=
  overrides.foldlM (fun s o =>
    match lookup o.name with
    | none => .ok s
    | some value => o.apply value s) s

end Vitals.Settings
