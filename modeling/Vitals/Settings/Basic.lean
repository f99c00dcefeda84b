import Vitals.Metrics
import Vitals.Fault
import Vitals.Duration.Text
import Vitals.Subscribers.Policy
import Vitals.Text.Blank
import Vitals.Text.Quoted

/-!
# Settings

What the exporter can be told: six sections, every key of which has a default. This file fixes

* the sections and `Settings`, their whole;
* `Settings.Problem`, why settings are refused, with its wording;
* `Settings.validate`, which refuses what the exporter cannot run with.
-/

namespace Vitals

/-! ## 1. Sections -/

namespace Settings

/-- What is logged, and in which form. -/
structure Logger where
  level : String := "info"
  isJson : Bool := false
  deriving DecidableEq, Repr, Inhabited

/-- How often the host is measured, and how long snapshots may drain after a stop. -/
structure Exporter where
  scrapeInterval : Duration := .ofSeconds 1
  gracefulShutdownTimeout : Duration := .ofSeconds 3
  deriving DecidableEq, Repr, Inhabited

/-- The windows and the buffers that snapshots pass. -/
structure Snapshots where
  warmupInterval : Duration := .ofSeconds 5
  snapshotInterval : Duration := .ofSeconds 2
  subscriberBuffer : UInt64 := 16
  branchBuffer : UInt64 := 1
  deliveryTimeout : Option Duration := none
  deriving DecidableEq, Repr, Inhabited

/-- The snapshot log. -/
structure DiskStorage where
  path : String := "/tmp/sys-exporter"
  maximumFileSize : UInt64 := 1000000
  deriving DecidableEq, Repr, Inhabited

/-- Where subscribers connect. -/
structure Server where
  address : String := "127.0.0.1:8000"
  deriving DecidableEq, Repr, Inhabited

/-- The groups that are not measured. -/
structure Disabled where
  loadAverage : Bool := false
  cpuUsage : Bool := false
  diskUsage : Bool := false
  networkTopTalkers : Bool := false
  fileSystemInfo : Bool := false
  deriving DecidableEq, Repr, Inhabited

namespace Disabled

/-- Whether a group is disabled. -/
def has (d : Disabled) : MetricGroup → Bool
  | .loadAverage => d.loadAverage
  | .cpuUsage => d.cpuUsage
  | .diskUsage => d.diskUsage
  | .networkTopTalkers => d.networkTopTalkers
  | .fileSystemInfo => d.fileSystemInfo

/-- Disables a group, or enables it again. -/
def set (d : Disabled) (g : MetricGroup) (b : Bool) : Disabled :=
  match g with
  | .loadAverage => { d with loadAverage := b }
  | .cpuUsage => { d with cpuUsage := b }
  | .diskUsage => { d with diskUsage := b }
  | .networkTopTalkers => { d with networkTopTalkers := b }
  | .fileSystemInfo => { d with fileSystemInfo := b }

theorem has_set (d : Disabled) (g h : MetricGroup) (b : Bool) :
    (d.set g b).has h = if h = g then b else d.has h := by
  cases g <;> cases h <;> rfl

end Disabled

/-- Which groups are measured. -/
structure Collector where
  disable : Disabled := {}
  deriving DecidableEq, Repr, Inhabited

/-- The groups that are measured, in the order in which groups are listed. -/
def Collector.enabledGroups (c : Collector) : List MetricGroup :=
  MetricGroup.all.filter fun g => !c.disable.has g

theorem Collector.mem_enabledGroups (c : Collector) (g : MetricGroup) :
    g ∈ c.enabledGroups ↔ c.disable.has g = false := by
  simp [enabledGroups, MetricGroup.mem_all]

/-- What snapshots do with a subscriber that is full. -/
def Snapshots.policy (s : Snapshots) : DeliveryPolicy :=
  .ofTimeout s.deliveryTimeout

end Settings

structure Settings where
  logger : Settings.Logger := {}
  exporter : Settings.Exporter := {}
  snapshots : Settings.Snapshots := {}
  diskStorage : Settings.DiskStorage := {}
  server : Settings.Server := {}
  collector : Settings.Collector := {}
  deriving DecidableEq, Repr, Inhabited

namespace Settings

/-! ## 2. Problems -/

/-- Why settings are refused. -/
inductive Problem where
  /-- The text is no YAML document, or not one of settings. -/
  | invalidText
  /-- The value of an environment variable is no duration. -/
  | invalidDuration (name value : String) (why : Duration.Refusal)
  /-- The value of an environment variable is no value for its key. -/
  | invalidValue (name value reason : String)
  /-- The value of a key is zero. -/
  | isZero (key : String)
  | emptyAddress
  deriving DecidableEq, Repr

/-- The wording of a problem. -/
def Problem.message : Problem → String
  | .invalidText => "invalid YAML"
  | .invalidDuration name value why =>
    name ++ ": invalid duration " ++ Text.quoted value ++ ": " ++ why.message
  | .invalidValue name value reason =>
    name ++ ": invalid value " ++ Text.quoted value ++ ": " ++ reason
  | .isZero key => key ++ " must be greater than zero"
  | .emptyAddress => "server.address must not be empty"

/-- The fault that a problem is. -/
def Problem.fault (p : Problem) : Fault :=
  .configuration p.message

/-! ## 3. Validity -/

/-- The keys that must not be zero, with whether they are. -/
def zeros (s : Settings) : List (String × Bool) :=
  [("exporter.scrape_interval", s.exporter.scrapeInterval.isZero),
    ("snapshots.warmup_interval", s.snapshots.warmupInterval.isZero),
    ("snapshots.snapshot_interval", s.snapshots.snapshotInterval.isZero),
    ("snapshots.subscriber_buffer", s.snapshots.subscriberBuffer == 0),
    ("snapshots.branch_buffer", s.snapshots.branchBuffer == 0),
    ("disk_storage.maximum_size_of_snapshot_file", s.diskStorage.maximumFileSize == 0)]

/-- The first problem of settings, if there is one. -/
def problem? (s : Settings) : Option Problem :=
  match s.zeros.find? fun z => z.2 with
  | some (key, _) => some (.isZero key)
  | none => if Text.trim s.server.address.toList = [] then some .emptyAddress else none

/-- Settings have no problem if no key is zero that must not be, and the address says something. -/
theorem problem?_eq_none_iff (s : Settings) :
    s.problem? = none
      ↔ (∀ z ∈ s.zeros, z.2 = false) ∧ Text.trim s.server.address.toList ≠ [] := by
  unfold problem?
  split
  · rename_i key b h
    have hb := List.find?_some h
    have hm := List.mem_of_find?_eq_some h
    constructor
    · intro h'
      cases h'
    · rintro ⟨h', -⟩
      have := h' _ hm
      simp_all
  · rename_i h
    simp only [List.find?_eq_none, Bool.not_eq_true] at h
    by_cases ha : Text.trim s.server.address.toList = []
    · simp [ha]
    · simpa [ha] using h

/-- Refuses settings with a problem. -/
def validate (s : Settings) : Except Problem Settings :=
  match s.problem? with
  | some p => .error p
  | none => .ok s

theorem validate_eq_ok_iff (s t : Settings) :
    s.validate = .ok t ↔ s = t ∧ s.problem? = none := by
  unfold validate
  split <;> simp_all

end Settings

end Vitals
