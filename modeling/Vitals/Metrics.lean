/-!
# Metric groups

What is measured on a host comes in five groups, each of which a sample may carry or lack. This
file fixes

* `MetricGroup`, the groups, with their display names and the keys they have in settings;
* one structure per group. The three numeric groups are generic in the type `ν` of their numbers,
  because averaging makes sense for every type that can be summed and divided by a count;
* `Metrics`, the groups of one sample or snapshot.
-/

namespace Vitals

/-! ## 1. The groups -/

inductive MetricGroup where
  | loadAverage
  | cpuUsage
  | diskUsage
  | networkTopTalkers
  | fileSystemInfo
  deriving DecidableEq, Repr, Inhabited

namespace MetricGroup

/-- Every group, in the order in which groups are listed. -/
def all : List MetricGroup :=
  [.loadAverage, .cpuUsage, .diskUsage, .networkTopTalkers, .fileSystemInfo]

/-- The name shown to people. -/
def name : MetricGroup → String
  | .loadAverage => "load average"
  | .cpuUsage => "cpu usage"
  | .diskUsage => "disk usage"
  | .networkTopTalkers => "network top talkers"
  | .fileSystemInfo => "file system info"

/-- The key in settings and messages between programs. -/
def key : MetricGroup → String
  | .loadAverage => "load_average"
  | .cpuUsage => "cpu_usage"
  | .diskUsage => "disk_usage"
  | .networkTopTalkers => "network_top_talkers"
  | .fileSystemInfo => "file_system_info"

/-- The group with a given key. -/
def ofKey? (k : String) : Option MetricGroup :=
  all.find? fun g => g.key == k

theorem mem_all (g : MetricGroup) : g ∈ all := by
  cases g <;> decide

end MetricGroup

/-! ## 2. What a group measures -/

/-- System load averages over 1, 5 and 15 minutes. -/
structure LoadAverage (ν : Type) where
  one : ν
  five : ν
  fifteen : ν
  deriving Repr, Inhabited, DecidableEq

/-- Share of processor time spent busy and idle, in percent. -/
structure CpuUsage (ν : Type) where
  busyPercent : ν
  idlePercent : ν
  deriving Repr, Inhabited, DecidableEq

/-- The usage with the given busy share, cut to 0 to 100; the rest is idle. A busy share that is
not a number stays one. -/
def CpuUsage.ofBusy (busy : Float) : CpuUsage Float :=
  let atLeast := if busy < 0.0 then 0.0 else busy
  let busy := if 100.0 < atLeast then 100.0 else atLeast
  ⟨busy, 100.0 - busy⟩

/-- Transfers of the block devices. -/
structure DiskUsage (ν : Type) where
  kbPerTransfer : ν
  mbPerSecond : ν
  transfersPerSecond : ν
  deriving Repr, Inhabited, DecidableEq

/-- A network interface or process and its traffic since the last scrape, in bytes. -/
structure Talker where
  name : String
  bytesIn : UInt64
  bytesOut : UInt64
  deriving DecidableEq, Repr, Inhabited

/-- The heaviest talkers in each direction. -/
structure TopTalkers where
  byBytesIn : List Talker
  byBytesOut : List Talker
  deriving DecidableEq, Repr, Inhabited

/-- The space of one mounted file system, in bytes. -/
structure FileSystemUsage where
  mountPoint : String
  fileSystem : String
  totalBytes : UInt64
  availableBytes : UInt64
  deriving DecidableEq, Repr, Inhabited

/-- Used space in percent of the total, zero for an empty file system. More available than total
space counts as nothing used. -/
def FileSystemUsage.usedPercent (u : FileSystemUsage) : Float :=
  if u.totalBytes = 0 then 0.0
  else
    let used := u.totalBytes.toNat - u.availableBytes.toNat
    Float.ofNat used / Float.ofNat u.totalBytes.toNat * 100.0

/-! ## 3. The groups of a sample -/

/-- The metric groups that a sample or a snapshot carries. -/
structure Metrics (ν : Type) where
  loadAverage : Option (LoadAverage ν) := none
  cpuUsage : Option (CpuUsage ν) := none
  diskUsage : Option (DiskUsage ν) := none
  networkTalkers : Option TopTalkers := none
  fileSystems : Option (List FileSystemUsage) := none
  deriving Repr, Inhabited, DecidableEq

namespace Metrics

variable {ν : Type}

/-- Whether a group is present. -/
def has (m : Metrics ν) : MetricGroup → Bool
  | .loadAverage => m.loadAverage.isSome
  | .cpuUsage => m.cpuUsage.isSome
  | .diskUsage => m.diskUsage.isSome
  | .networkTopTalkers => m.networkTalkers.isSome
  | .fileSystemInfo => m.fileSystems.isSome

/-- The groups present, in the order in which groups are listed. -/
def present (m : Metrics ν) : List MetricGroup :=
  MetricGroup.all.filter m.has

def isEmpty (m : Metrics ν) : Bool :=
  MetricGroup.all.all fun g => !m.has g

theorem mem_present (m : Metrics ν) (g : MetricGroup) : g ∈ m.present ↔ m.has g = true := by
  simp [present, MetricGroup.mem_all]

theorem isEmpty_iff (m : Metrics ν) : m.isEmpty = true ↔ m.present = [] := by
  simp [isEmpty, present, List.filter_eq_nil_iff]

end Metrics

end Vitals
