import Vitals.Duration.Basic

/-!
# Delivery policies

What a broadcast does with a subscriber whose buffer is full: it waits for as long as it takes, or
for a limited time, after which the subscriber misses the snapshot.
-/

namespace Vitals

inductive DeliveryPolicy where
  /-- Wait until the subscriber makes room. -/
  | block
  /-- Wait at most so long. -/
  | dropAfter (timeout : Duration)
  deriving DecidableEq, Repr, Inhabited

namespace DeliveryPolicy

/-- The policy with an optional time limit. -/
def ofTimeout : Option Duration → DeliveryPolicy
  | none => .block
  | some timeout => .dropAfter timeout

/-- The name of a policy. -/
def text : DeliveryPolicy → String
  | .block => "Block"
  | .dropAfter timeout => "DropAfter(" ++ timeout.brief ++ ")"

end DeliveryPolicy

end Vitals
