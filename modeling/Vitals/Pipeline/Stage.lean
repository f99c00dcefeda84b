/-!
# Stages

Every snapshot goes to two consumers, one that stores it and one that streams it to the
subscribers. This file fixes the two stages, whose names are also those of the branches that feed
them, and the report on how they ended when the exporter was stopped.
-/

namespace Vitals

inductive Stage where
  | storage
  | streaming
  deriving DecidableEq, Repr, Inhabited

namespace Stage

/-- The stages, in the order in which reports list them. -/
def all : List Stage :=
  [.storage, .streaming]

def name : Stage → String
  | .storage => "storage"
  | .streaming => "streaming"

end Stage

/-- What happened to snapshots under way when the exporter stopped. -/
structure Report where
  /-- The stages that did not come to their end in time. -/
  abandoned : List Stage := []
  deriving DecidableEq, Repr, Inhabited

/-- Whether every stage handled all of its snapshots. -/
def Report.isClean (r : Report) : Bool :=
  r.abandoned.isEmpty

end Vitals
