import Vitals.Log.Rotating
import Vitals.Pipeline.Exporter
import Vitals.Settings.Basic

/-!
# Setting up an exporter

This file fixes what settings make of the parts of an exporter, and the limits of the machine that
it runs on: how much room a channel can have, and how late an instant can be. An exporter whose
settings go beyond a limit breaks off when it comes to it.
-/

namespace Vitals

/-! ## 1. Limits -/

/-- The most room that a channel can have, `2 ^ 61 - 1`. -/
def Channel.capacityLimit : Nat :=
  2305843009213693951

/-- The instants, in nanoseconds, end before `2 ^ 63` seconds. -/
def instantLimit : Nat :=
  9223372036854775808 * 1000000000

/-- The instant that is a duration after another one, if there is one. -/
def instantAfter? (now : Nat) (d : Duration) : Option Nat :=
  if now + d.nanos < instantLimit then some (now + d.nanos) else none

namespace Settings

/-! ## 2. Parts -/

/-- The settings of the flow of snapshots. -/
def flow (s : Settings) : Flow.Settings where
  scrapeInterval := s.exporter.scrapeInterval
  warmup := s.snapshots.warmupInterval
  steady := s.snapshots.snapshotInterval
  grace := s.exporter.gracefulShutdownTimeout
  branchBuffer := s.snapshots.branchBuffer.toNat

/-- The registry that subscribers are attached to. -/
def subscribers (s : Settings) : Flow.Subscribers :=
  Registry.new s.snapshots.subscriberBuffer.toNat s.snapshots.policy

/-- The log that snapshots are saved in. -/
def log (s : Settings) : Log.RotatingLog :=
  Log.RotatingLog.new (Log.Path.ofText s.diskStorage.path) s.diskStorage.maximumFileSize.toNat

/-- The exporter. -/
def newExporter (s : Settings) : Vitals.Exporter :=
  Exporter.new s.flow s.subscribers

/-! ## 3. Running -/

/-- Whether the exporter can start at an instant: the channels of its flow and its first scrape
are within the limits. -/
def canStart (s : Settings) (now : Nat) : Bool :=
  s.snapshots.branchBuffer.toNat ≤ Channel.capacityLimit
    && (instantAfter? now s.exporter.scrapeInterval).isSome

/-- Whether nothing that the exporter does from an instant on goes beyond the limits; `deadline`
is the end of a window. -/
def fits (s : Settings) (now deadline : Nat) : Bool :=
  s.canStart now
    && s.snapshots.subscriberBuffer.toNat ≤ Channel.capacityLimit
    && (instantAfter? deadline s.snapshots.warmupInterval).isSome
    && (instantAfter? deadline s.snapshots.snapshotInterval).isSome

end Settings

end Vitals
