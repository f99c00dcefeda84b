import Vitals.Numeral
import Vitals.Settings.Basic
import Vitals.Yaml.Node

/-!
# Reading settings

Settings are a YAML mapping of sections, and a section is a mapping of keys. Keys that are not
known say nothing, keys that are not written keep their default, and a known key must not be
written twice. This file fixes

* how a scalar is read as each type of value;
* `ofNode?` for every section, and `Settings.ofYaml`, the settings in a text.
-/

namespace Vitals

/-! ## 1. Scalars -/

namespace Yaml.Node

/-- The text of a scalar, however it is written. -/
def text? : Node → Option String
  | .scalar text _ => some text
  | _ => none

/-- The text of a scalar without quotes. -/
def plain? : Node → Option String
  | .scalar text true => some text
  | _ => none

/-- Whether nothing is written, or a word for it. -/
def isNull (n : Node) : Bool :=
  n.plain?.any fun text => ["", "~", "null", "Null", "NULL"].contains text

/-- A truth value is one of two words, lower case, upper case or capitalised. -/
def bool? (n : Node) : Option Bool := do
  let text ← n.plain?
  if ["true", "True", "TRUE"].contains text then some true
  else if ["false", "False", "FALSE"].contains text then some false
  else none

/-- The value of a digit below a base. -/
def digitValue? (base : Nat) (c : Char) : Option Nat :=
  match Json.hexValue? c with
  | some d => if d < base then some d else none
  | none => none

/-- The number below `2 ^ 64` with the given digits, of which there is one at least. -/
def number? (base : Nat) (cs : List Char) : Option UInt64 := do
  if cs = [] then none
  let n ← cs.foldlM (fun n c => (digitValue? base c).map (n * base + ·)) 0
  if n < UInt64.size then some (UInt64.ofNat n) else none

/-- A number is written in base 10 without leading zeros, or in base 16, 8 or 2 behind the mark
of that base; a plus sign may stand in front. -/
def word? (n : Node) : Option UInt64 := do
  let text ← n.plain?
  let cs := match text.toList with
    | '+' :: cs => cs
    | cs => cs
  match cs with
  | '0' :: 'x' :: ds => number? 16 ds
  | '0' :: 'o' :: ds => number? 8 ds
  | '0' :: 'b' :: ds => number? 2 ds
  | ['0'] => some 0
  | '0' :: _ => none
  | ds => number? 10 ds

/-- A duration. -/
def duration? (n : Node) : Option Duration := do
  (Duration.ofSetting (← n.text?).toList).toOption

/-- A duration, or nothing. -/
def optionalDuration? (n : Node) : Option (Option Duration) :=
  if n.isNull then some none else n.duration?.map some

/-! ## 2. Sections -/

/-- The members of a section. A section with nothing written behind its key has none. -/
def members? : Node → Option (List (String × Node))
  | .scalar "" true => some []
  | .mapping members => members.mapM fun (key, value) => key.text?.map fun key => (key, value)
  | _ => none

/-- Reads the value of a key among the members of a section. -/
def get? {α : Type} (members : List (String × Node)) (key : String) (absent : α)
    (read : Node → Option α) : Option α :=
  match members.filter fun m => m.1 == key with
  | [] => some absent
  | [(_, value)] => read value
  | _ => none

end Yaml.Node

namespace Settings

open Yaml Yaml.Node

def Logger.ofNode? (n : Node) : Option Logger := do
  let ms ← members? n
  let d : Logger := {}
  return { level := ← get? ms "level" d.level text?
           isJson := ← get? ms "json" d.isJson bool? }

def Exporter.ofNode? (n : Node) : Option Exporter := do
  let ms ← members? n
  let d : Exporter := {}
  return { scrapeInterval := ← get? ms "scrape_interval" d.scrapeInterval duration?
           gracefulShutdownTimeout :=
             ← get? ms "graceful_shutdown_timeout" d.gracefulShutdownTimeout duration? }

def Snapshots.ofNode? (n : Node) : Option Snapshots := do
  let ms ← members? n
  let d : Snapshots := {}
  return { warmupInterval := ← get? ms "warmup_interval" d.warmupInterval duration?
           snapshotInterval := ← get? ms "snapshot_interval" d.snapshotInterval duration?
           subscriberBuffer := ← get? ms "subscriber_buffer" d.subscriberBuffer word?
           branchBuffer := ← get? ms "branch_buffer" d.branchBuffer word?
           deliveryTimeout := ← get? ms "delivery_timeout" d.deliveryTimeout optionalDuration? }

def DiskStorage.ofNode? (n : Node) : Option DiskStorage := do
  let ms ← members? n
  let d : DiskStorage := {}
  return { path := ← get? ms "snapshots_storage_path" d.path text?
           maximumFileSize := ← get? ms "maximum_size_of_snapshot_file" d.maximumFileSize word? }

def Server.ofNode? (n : Node) : Option Server := do
  let ms ← members? n
  let d : Server := {}
  return { address := ← get? ms "address" d.address text? }

def Disabled.ofNode? (n : Node) : Option Disabled := do
  let ms ← members? n
  MetricGroup.all.foldlM (fun d g => (get? ms g.key (d.has g) bool?).map (d.set g)) {}

def Collector.ofNode? (n : Node) : Option Collector := do
  let ms ← members? n
  let d : Collector := {}
  return { disable := ← get? ms "disable" d.disable Disabled.ofNode? }

def ofNode? (n : Node) : Option Settings := do
  let ms ← members? n
  let d : Settings := {}
  return { logger := ← get? ms "logger" d.logger Logger.ofNode?
           exporter := ← get? ms "exporter" d.exporter Exporter.ofNode?
           snapshots := ← get? ms "snapshots" d.snapshots Snapshots.ofNode?
           diskStorage := ← get? ms "disk_storage" d.diskStorage DiskStorage.ofNode?
           server := ← get? ms "server" d.server Server.ofNode?
           collector := ← get? ms "collector" d.collector Collector.ofNode? }

/-! ## 3. Texts -/

/-- The settings in a text. A blank text keeps every default. -/
def ofYaml (text : String) : Except Problem Settings :=
  if Text.trim text.toList = [] then .ok {}
  else
    match (Node.ofText? text).bind ofNode? with
    | some s => .ok s
    | none => .error .invalidText

end Settings

end Vitals
