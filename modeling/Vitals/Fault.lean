/-!
# Faults

Everything that can go wrong with the exporter as a whole. A `Fault` is a cause; its wording is in
`Fault.message`, and only a fault of the streaming address is fatal.
-/

namespace Vitals

inductive Fault where
  /-- A file could not be read. -/
  | io (reason : String)
  /-- The snapshot log could not use a path. -/
  | storage (path reason : String)
  /-- A snapshot has no record. -/
  | serialization (reason : String)
  | configuration (problem : String)
  /-- The streaming address could not be served. -/
  | bind (address reason : String)
  | duplicateBranch (name : String)
  | alreadyStarted
  deriving DecidableEq, Repr, Inhabited

namespace Fault

/-- The wording of a fault. -/
def message : Fault → String
  | .io reason => "IO error: " ++ reason
  | .storage path reason => "Filesystem error on " ++ path ++ ": " ++ reason
  | .serialization reason => "Serialization error: " ++ reason
  | .configuration problem => "Configuration error: " ++ problem
  | .bind address reason =>
    "Failed to bind streaming listener on " ++ address ++ ": " ++ reason
  | .duplicateBranch name => "Fan-out branch already registered: " ++ name
  | .alreadyStarted => "Exporter was already started"

/-- Whether the exporter cannot go on after the fault. -/
def isFatal : Fault → Bool
  | .bind _ _ => true
  | _ => false

end Fault

end Vitals
