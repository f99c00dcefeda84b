import Vitals.Numeral
import Vitals.Moment
import Vitals.Metrics

/-!
# Samples and snapshots

A *sample* is what one scrape of the host brought; a *snapshot* is the average of the samples of
one window. This file fixes both, and `Scrape`, the outcome of a scrape: a sample, together with
the groups that could not be collected. A scrape with failures still carries a sample.
-/

namespace Vitals

/-- The metrics of one scrape, stamped with the time it began. -/
structure Sample (ν : Type) where
  timestamp : Moment
  metrics : Metrics ν
  deriving Repr, Inhabited, DecidableEq

/-- The averaged metrics of one window. -/
structure Snapshot (ν : Type) where
  /-- When the window was closed. -/
  timestamp : Moment
  /-- The number of samples folded into it. -/
  samples : Nat
  metrics : Metrics ν
  deriving Repr, Inhabited, DecidableEq

/-- A metric group that a scrape could not collect. -/
structure GroupFailure where
  group : MetricGroup
  reason : String
  deriving DecidableEq, Repr, Inhabited

/-- What a failure reads like. -/
def GroupFailure.message (f : GroupFailure) : String :=
  f.group.name ++ " - " ++ f.reason

/-- The outcome of a scrape. -/
structure Scrape where
  sample : Sample Float
  failures : List GroupFailure
  deriving Repr, Inhabited

/-- Whether every requested group was collected. -/
def Scrape.complete (s : Scrape) : Bool :=
  s.failures.isEmpty

/-- What a scrape with failures reads like. -/
def Scrape.message (s : Scrape) : String :=
  "failed to get full information, " ++ Numeral.text s.failures.length ++ " group(s) failed: "
    ++ "; ".intercalate (s.failures.map GroupFailure.message)

end Vitals
