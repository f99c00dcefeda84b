/-!
# Runs on virtual time

A machine is a state with moves, of which any that is possible at an instant may happen next. A
run to rest makes moves, each time the first of a list that is possible, until none of them is.
Time moves only then, to the next instant at which something is due. This file fixes

* `Machine`, the moves of a machine and the instants at which something is due;
* `Machine.settle`, the run to rest, and `Machine.advance`, the run up to an instant.

Both take fuel, because nothing here says that a machine comes to rest.
-/

namespace Vitals.Simulation

structure Machine (σ μ ε : Type) where
  /-- The effect of a move at an instant, if it is possible, with the events it brings. -/
  step : Nat → σ → μ → Option (σ × List ε)
  /-- The moves that need no one else, in the order in which they are tried. -/
  moves : σ → List μ
  /-- The instants at which something is due. -/
  due : σ → List Nat

/-- A machine under way. -/
structure Run (σ ε : Type) where
  now : Nat
  state : σ
  /-- The events so far, the last one first. -/
  events : List ε
  deriving Repr

namespace Machine

variable {σ μ ε : Type} (m : Machine σ μ ε)

/-- The first move of a list that is possible. -/
def firstPossible (now : Nat) (s : σ) : List μ → Option (σ × List ε)
  | [] => none
  | move :: moves => (m.step now s move).or (firstPossible now s moves)

/-- Makes moves until none is possible. -/
def settle : Nat → Run σ ε → Run σ ε
  | 0, r => r
  | fuel + 1, r =>
    match m.firstPossible r.now r.state (m.moves r.state) with
    | none => r
    | some (s, events) => settle fuel { r with state := s, events := events.reverse ++ r.events }

/-- A number of moves that no machine here makes at one instant. -/
def patience : Nat := 10000000

/-- The next instant at which something is due, up to `target`. -/
def nextDue (r : Run σ ε) (target : Nat) : Option Nat :=
  ((m.due r.state).filter fun t => decide (r.now < t ∧ t ≤ target)).min?

/-- Runs up to an instant, and there to rest. -/
def advance (target : Nat) : Nat → Run σ ε → Run σ ε
  | 0, r => r
  | fuel + 1, r =>
    let r := m.settle patience r
    match m.nextDue r target with
    | some t => advance target fuel { r with now := t }
    | none => { r with now := target }

end Machine

end Vitals.Simulation
