import Vitals.Sample
import Vitals.Fault
import Vitals.Json.Printer

/-!
# Writing records

A record is the JSON text of a snapshot on one line; a sample has a text of the same form without
the number of samples. This file fixes

* the JSON value of every group, sample and snapshot, absent groups left out;
* `Snapshot.record` and `Sample.text`. They fail exactly when the time stamp does not fit in 64
  bits of nanoseconds.
-/

namespace Vitals

open Vitals.Json

/-! ## 1. Values -/

def LoadAverage.toJson (l : LoadAverage Float) : Value :=
  .object [("one", .number (.real l.one)), ("five", .number (.real l.five)),
    ("fifteen", .number (.real l.fifteen))]

def CpuUsage.toJson (u : CpuUsage Float) : Value :=
  .object [("busy_percent", .number (.real u.busyPercent)),
    ("idle_percent", .number (.real u.idlePercent))]

def DiskUsage.toJson (d : DiskUsage Float) : Value :=
  .object [("kb_per_transfer", .number (.real d.kbPerTransfer)),
    ("mb_per_second", .number (.real d.mbPerSecond)),
    ("transfers_per_second", .number (.real d.transfersPerSecond))]

def Talker.toJson (t : Talker) : Value :=
  .object [("name", .text t.name), ("bytes_in", .number (.natural t.bytesIn.toNat)),
    ("bytes_out", .number (.natural t.bytesOut.toNat))]

def TopTalkers.toJson (t : TopTalkers) : Value :=
  .object [("by_bytes_in", .array (t.byBytesIn.map Talker.toJson)),
    ("by_bytes_out", .array (t.byBytesOut.map Talker.toJson))]

def FileSystemUsage.toJson (u : FileSystemUsage) : Value :=
  .object [("mount_point", .text u.mountPoint), ("file_system", .text u.fileSystem),
    ("total_bytes", .number (.natural u.totalBytes.toNat)),
    ("available_bytes", .number (.natural u.availableBytes.toNat))]

def fileSystemsToJson (us : List FileSystemUsage) : Value :=
  .object [("filesystems", .array (us.map FileSystemUsage.toJson))]

/-- The member of a group, if the group is present. -/
def memberOf {α : Type} (key : String) (toJson : α → Value) : Option α → List (String × Value)
  | none => []
  | some a => [(key, toJson a)]

/-- The members of the groups that are present. -/
def Metrics.members (m : Metrics Float) : List (String × Value) :=
  memberOf "load_average" LoadAverage.toJson m.loadAverage
    ++ memberOf "cpu_usage" CpuUsage.toJson m.cpuUsage
    ++ memberOf "disk_usage" DiskUsage.toJson m.diskUsage
    ++ memberOf "network_talkers" TopTalkers.toJson m.networkTalkers
    ++ memberOf "filesystems" fileSystemsToJson m.fileSystems

/-! ## 2. Records -/

/-- The fault of a time stamp beyond 64 bits. -/
def timestampTooLarge : Fault :=
  .serialization "number too large to fit in target type"

/-- The record of a snapshot. -/
def Snapshot.record (s : Snapshot Float) : Except Fault (List Char) :=
  if s.timestamp.unixNanos < UInt64.size then
    .ok (Value.object (("timestamp", .number (.natural s.timestamp.unixNanos))
      :: ("samples", .number (.natural s.samples)) :: s.metrics.members)).print
  else .error timestampTooLarge

/-- The text of a sample. -/
def Sample.text (s : Sample Float) : Except Fault (List Char) :=
  if s.timestamp.unixNanos < UInt64.size then
    .ok (Value.object (("timestamp", .number (.natural s.timestamp.unixNanos))
      :: s.metrics.members)).print
  else .error timestampTooLarge

end Vitals
