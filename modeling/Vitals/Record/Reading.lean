import Vitals.Sample
import Vitals.Json.Reading

/-!
# Reading records

How the text of a snapshot, a sample or a metric group is decoded. Members that are not known are
passed over, wherever they stand; a known member that occurs twice is wrong content, and so is a
missing one, groups apart: a group may be absent or null. Below the outermost object, a structure
may also be an array of its fields in their order. This file fixes

* `Refusal`, why a text is not decoded: a flaw of the text, or wrong content;
* the decoders of the groups, from values;
* `Opened.walk`, which takes the members of the outermost object one by one, so that of a wrong
  member and a later flaw the first is reported;
* `Snapshot.ofText`, `Sample.ofText` and `MetricGroup.ofText`.
-/

namespace Vitals.Record

open Vitals.Json

/-! ## 1. Refusals -/

/-- Why a text is not decoded. -/
inductive Refusal where
  /-- The text is no JSON text. -/
  | flaw (f : Flaw)
  /-- It is one, with the wrong content. -/
  | content
  deriving DecidableEq, Repr, Inhabited

/-! ## 2. Fields -/

/-- The members with a given key, in order. -/
def lookup (key : String) (members : List (String × Value)) : List Value :=
  (members.filter fun m => m.1 == key).map Prod.snd

/-- The values of the fields `keys`, each of which must occur exactly once; from an array, its
items, one per field. -/
def fieldsOf (keys : List String) : Value → Option (List Value)
  | .object members =>
    keys.mapM fun key =>
      match lookup key members with
      | [v] => some v
      | _ => none
  | .array items => if items.length = keys.length then some items else none
  | _ => none

/-- A measured value: any number. -/
def toFloat? : Value → Option Float
  | .number n => some n.toFloat
  | _ => none

/-- A counter: a whole number that fits in 64 bits. -/
def toNatural? : Value → Option Nat
  | .number (.natural n) => some n
  | _ => none

def toWord? (v : Value) : Option UInt64 :=
  (toNatural? v).map UInt64.ofNat

def toText? : Value → Option String
  | .text s => some s
  | _ => none

def toList? {α : Type} (item : Value → Option α) : Value → Option (List α)
  | .array vs => vs.mapM item
  | _ => none

/-! ## 3. Groups -/

def loadAverageOf (v : Value) : Option (LoadAverage Float) := do
  match ← fieldsOf ["one", "five", "fifteen"] v with
  | [a, b, c] => return ⟨← toFloat? a, ← toFloat? b, ← toFloat? c⟩
  | _ => none

def cpuUsageOf (v : Value) : Option (CpuUsage Float) := do
  match ← fieldsOf ["busy_percent", "idle_percent"] v with
  | [a, b] => return ⟨← toFloat? a, ← toFloat? b⟩
  | _ => none

def diskUsageOf (v : Value) : Option (DiskUsage Float) := do
  match ← fieldsOf ["kb_per_transfer", "mb_per_second", "transfers_per_second"] v with
  | [a, b, c] => return ⟨← toFloat? a, ← toFloat? b, ← toFloat? c⟩
  | _ => none

def talkerOf (v : Value) : Option Talker := do
  match ← fieldsOf ["name", "bytes_in", "bytes_out"] v with
  | [a, b, c] => return ⟨← toText? a, ← toWord? b, ← toWord? c⟩
  | _ => none

def topTalkersOf (v : Value) : Option TopTalkers := do
  match ← fieldsOf ["by_bytes_in", "by_bytes_out"] v with
  | [a, b] => return ⟨← toList? talkerOf a, ← toList? talkerOf b⟩
  | _ => none

def fileSystemOf (v : Value) : Option FileSystemUsage := do
  match ← fieldsOf ["mount_point", "file_system", "total_bytes", "available_bytes"] v with
  | [a, b, c, d] => return ⟨← toText? a, ← toText? b, ← toWord? c, ← toWord? d⟩
  | _ => none

def fileSystemsOf (v : Value) : Option (List FileSystemUsage) := do
  match ← fieldsOf ["filesystems"] v with
  | [a] => toList? fileSystemOf a
  | _ => none

/-- A group among the members: absent or null, or decoded; twice is wrong content. -/
def groupOf {α : Type} (key : String) (decode : Value → Option α)
    (members : List (String × Value)) : Option (Option α) :=
  match lookup key members with
  | [] => some none
  | [.null] => some none
  | [v] => (decode v).map some
  | _ => none

/-- The groups among the members of the outermost object. -/
def metricsOf (members : List (String × Value)) : Option (Metrics Float) := do
  return {
    loadAverage := ← groupOf "load_average" loadAverageOf members
    cpuUsage := ← groupOf "cpu_usage" cpuUsageOf members
    diskUsage := ← groupOf "disk_usage" diskUsageOf members
    networkTalkers := ← groupOf "network_talkers" topTalkersOf members
    fileSystems := ← groupOf "filesystems" fileSystemsOf members }

/-! ## 4. The outermost object -/

/-- What the outermost object holds: the counters among `known` seen so far, and the other
members. -/
structure Opened where
  counters : List (String × Nat)
  others : List (String × Value)
  deriving Repr

/-- Takes the members of an object one by one. The keys in `known` are counters, each at most
once; their values are looked at as soon as they begin. -/
def Opened.walk (known : List String) : Opened → Outline → Except Refusal (Opened × List Char)
  | o, .member key value next =>
    if key ∈ known then
      if (o.counters.map Prod.fst).contains key then .error .content
      else match toNatural? value with
        | some n => walk known ⟨o.counters ++ [(key, n)], o.others⟩ next
        | none => .error .content
    else walk known ⟨o.counters, o.others ++ [(key, value)]⟩ next
  | o, .torn key opened flaw =>
    if key ∈ known ∧ (opened ∨ (o.counters.map Prod.fst).contains key) then .error .content
    else .error (.flaw flaw)
  | _, .stopped flaw => .error (.flaw flaw)
  | o, .closed rest => .ok (o, rest)

/-- Only blanks may follow the value. -/
def checkEnd (rest : List Char) : Except Refusal Unit :=
  if skipBlanks rest = [] then .ok () else .error (.flaw .malformed)

/-- Opens the outermost object of a text. A text that is another value is wrong content once that
value, or the beginning of an array, has been read. -/
def openObject (known : List String) (cs : List Char) : Except Refusal (Opened × List Char) :=
  match skipBlanks cs with
  | '{' :: cs => Opened.walk known ⟨[], []⟩ (outline cs)
  | '[' :: _ => .error .content
  | cs =>
    match readValue (cs.length + 1) depthLimit cs with
    | .error flaw => .error (.flaw flaw)
    | .ok _ => .error .content

/-- The value of a counter that must be there. -/
def Opened.counter (o : Opened) (key : String) : Except Refusal Nat :=
  match o.counters.lookup key with
  | some n => .ok n
  | none => .error .content

/-- The groups that were opened. -/
def Opened.metrics (o : Opened) : Except Refusal (Metrics Float) :=
  match metricsOf o.others with
  | some m => .ok m
  | none => .error .content

end Vitals.Record

namespace Vitals

open Vitals.Json Vitals.Record

/-- The snapshot that a text holds. -/
def Snapshot.ofText (cs : List Char) : Except Refusal (Snapshot Float) := do
  let (o, rest) ← openObject ["timestamp", "samples"] cs
  let timestamp ← o.counter "timestamp"
  let samples ← o.counter "samples"
  let metrics ← o.metrics
  checkEnd rest
  return ⟨Moment.ofUnixNanos timestamp, samples, metrics⟩

/-- The sample that a text holds. -/
def Sample.ofText (cs : List Char) : Except Refusal (Sample Float) := do
  let (o, rest) ← openObject ["timestamp"] cs
  let timestamp ← o.counter "timestamp"
  let metrics ← o.metrics
  checkEnd rest
  return ⟨Moment.ofUnixNanos timestamp, metrics⟩

namespace MetricGroup

/-- The group named by a key, or wrong content. -/
def ofKey (key : String) : Except Refusal MetricGroup :=
  match ofKey? key with
  | some g => .ok g
  | none => .error .content

/-- Lifts a flaw of the text. -/
def lift {α : Type} : Except Flaw α → Except Refusal α
  | .ok a => .ok a
  | .error f => .error (.flaw f)

/-- A value of which only the kind matters: null is accepted, any other one is wrong content. -/
def expectNull (cs : List Char) : Except Refusal (List Char) :=
  match skipBlanks cs with
  | '[' :: _ => .error .content
  | '{' :: _ => .error .content
  | cs => do
    match ← lift (readValue (cs.length + 1) depthLimit cs) with
    | (.null, rest) => return rest
    | _ => throw .content

/-- The group named in an object: its one member is the key with a null. A key of another kind
than text is wrong content. -/
def ofObject (cs : List Char) : Except Refusal (MetricGroup × List Char) :=
  match skipBlanks cs with
  | '"' :: cs => do
    let (key, rest) ← lift (readString cs)
    let g ← ofKey key
    let rest ← expectNull (← lift (readColon rest))
    match skipBlanks rest with
    | '}' :: rest => return (g, rest)
    | [] => throw (.flaw .ended)
    | _ => throw (.flaw .malformed)
  | '[' :: _ => .error .content
  | '{' :: _ => .error .content
  | cs => do
    let _ ← lift (readValue (cs.length + 1) depthLimit cs)
    throw .content

/-- The metric group that a text names: a string, or an object with the key and null. -/
def ofText (cs : List Char) : Except Refusal MetricGroup :=
  match skipBlanks cs with
  | [] => .error (.flaw .ended)
  | '"' :: cs => do
    let (key, rest) ← lift (readString cs)
    let g ← ofKey key
    checkEnd rest
    return g
  | '{' :: cs => do
    let (g, rest) ← ofObject cs
    checkEnd rest
    return g
  | _ => .error (.flaw .malformed)

/-- The text of a metric group. -/
def text (g : MetricGroup) : List Char :=
  quote g.key

end MetricGroup

end Vitals
