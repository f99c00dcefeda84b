import Vitals.Json.Value
import Vitals.Settings.Basic

/-!
# Showing settings

The settings in force as one nested value, with the keys under which they are read: durations are
texts, and a key that says nothing is null.
-/

namespace Vitals

open Vitals.Json

/-- A duration as it is shown. -/
def Duration.toJson (d : Duration) : Value :=
  .text (String.ofList d.text)

/-- A duration that may be missing. -/
def Duration.optionToJson : Option Duration → Value
  | none => .null
  | some d => d.toJson

namespace Settings

/-- A number as it is shown. -/
def wordToJson (n : UInt64) : Value :=
  .number (.natural n.toNat)

def Logger.toJson (l : Logger) : Value :=
  .object [("level", .text l.level), ("json", .bool l.isJson)]

def Exporter.toJson (e : Exporter) : Value :=
  .object [("scrape_interval", e.scrapeInterval.toJson),
    ("graceful_shutdown_timeout", e.gracefulShutdownTimeout.toJson)]

def Snapshots.toJson (s : Snapshots) : Value :=
  .object [("warmup_interval", s.warmupInterval.toJson),
    ("snapshot_interval", s.snapshotInterval.toJson),
    ("subscriber_buffer", wordToJson s.subscriberBuffer),
    ("branch_buffer", wordToJson s.branchBuffer),
    ("delivery_timeout", Duration.optionToJson s.deliveryTimeout)]

def DiskStorage.toJson (d : DiskStorage) : Value :=
  .object [("snapshots_storage_path", .text d.path),
    ("maximum_size_of_snapshot_file", wordToJson d.maximumFileSize)]

def Server.toJson (s : Server) : Value :=
  .object [("address", .text s.address)]

def Disabled.toJson (d : Disabled) : Value :=
  .object (MetricGroup.all.map fun g => (g.key, .bool (d.has g)))

def Collector.toJson (c : Collector) : Value :=
  .object [("disable", c.disable.toJson)]

def toJson (s : Settings) : Value :=
  .object [("logger", s.logger.toJson), ("exporter", s.exporter.toJson),
    ("snapshots", s.snapshots.toJson), ("disk_storage", s.diskStorage.toJson),
    ("server", s.server.toJson), ("collector", s.collector.toJson)]

end Settings

end Vitals
