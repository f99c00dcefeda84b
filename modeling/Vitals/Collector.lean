import Vitals.Sample
import Vitals.Settings.Basic
import Vitals.Talkers

/-!
# Collecting a sample

A collector measures the groups that are enabled and that it can measure. This file fixes

* `Host`, what a host shows of itself;
* `Collector.ofSettings`, the groups that are measured;
* `Collector.scrape`, the outcome of a scrape: a group that cannot be measured is a failure, and
  the others are in the sample all the same.
-/

namespace Vitals

/-- What a host shows of itself at an instant. -/
structure Host where
  /-- The load averages, or why there are none. -/
  loadAverage : Except String (LoadAverage Float)
  /-- The share of processor time spent busy in percent, if the host has processors. -/
  busyPercent : Option Float
  /-- The network interfaces with the traffic since the last scrape. -/
  interfaces : List Talker
  fileSystems : List FileSystemUsage

/-- Puts the reading of a group into metrics, or says why there is none. -/
def Host.read (h : Host) (m : Metrics Float) : MetricGroup → Except String (Metrics Float)
  | .loadAverage =>
    h.loadAverage.map fun l => { m with loadAverage := some l }
  | .cpuUsage =>
    match h.busyPercent with
    | some busy => .ok { m with cpuUsage := some (CpuUsage.ofBusy busy) }
    | none => .error "no cpus reported"
  | .networkTopTalkers =>
    .ok { m with networkTalkers := some (TopTalkers.rank h.interfaces) }
  | .fileSystemInfo =>
    if h.fileSystems = [] then .error "no mounted filesystems found"
    else .ok { m with fileSystems := some h.fileSystems }
  | .diskUsage => .error "disk transfer statistics are not supported"

structure Collector where
  /-- The groups that are measured, in the order in which groups are listed. -/
  groups : List MetricGroup
  deriving DecidableEq, Repr

namespace Collector

/-- The groups that can be measured. -/
def supported : List MetricGroup :=
  [.loadAverage, .cpuUsage, .networkTopTalkers, .fileSystemInfo]

/-- The collector of the groups that are enabled and can be measured. -/
def ofSettings (s : Settings.Collector) : Collector :=
  ⟨s.enabledGroups.filter supported.contains⟩

theorem mem_groups_ofSettings (s : Settings.Collector) (g : MetricGroup) :
    g ∈ (ofSettings s).groups ↔ s.disable.has g = false ∧ g ∈ supported := by
  simp [ofSettings, Settings.Collector.mem_enabledGroups]

/-- Measures a group after others. -/
def addGroup (h : Host) (sc : Scrape) (g : MetricGroup) : Scrape :=
  match h.read sc.sample.metrics g with
  | .ok metrics => { sc with sample := { sc.sample with metrics } }
  | .error reason => { sc with failures := sc.failures ++ [⟨g, reason⟩] }

/-- A scrape of a host, begun at the given time. -/
def scrape (c : Collector) (h : Host) (now : Moment) : Scrape :=
  c.groups.foldl (addGroup h) ⟨⟨now, {}⟩, []⟩

end Collector

end Vitals
