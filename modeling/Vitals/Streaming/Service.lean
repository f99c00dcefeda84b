import Vitals.Record.Writing
import Vitals.Subscribers.Registry

/-!
# Streaming to peers

Peers connect and get every snapshot as one line. Each peer is a subscriber, served by a task of
its own: the task waits for the peer or for a snapshot, writes the line of each snapshot it takes,
and detaches the subscriber when the peer goes away, a write fails, or the subscription ends. What
peers send says nothing. This file fixes

* `line?`, the line of a snapshot;
* `Peer`, a peer and where its task stands;
* `Service`, the loop that accepts peers, the peers, and the registry they are attached to;
* `Service.Move` and `Service.step`, the effect of a move that is possible at an instant.

A task gives its subscription back before it asks for the lock of the registry. So no broadcast
waits for a peer whose task waits for that broadcast.
-/

namespace Vitals.Streaming

/-! ## 1. Peers -/

/-- The line of a snapshot, if it has a record. -/
def line? (s : Snapshot Float) : Option (List UInt8) :=
  match s.record with
  | .ok record => some (String.ofList (record ++ ['\n'])).toUTF8.toList
  | .error _ => none

/-- Where the task of a peer stands. -/
inductive Peer.Place where
  /-- It waits for the peer or for a snapshot. -/
  | waiting
  /-- It writes what is left of a line. -/
  | writing (rest : List UInt8)
  /-- It gave its subscription back and asked for the lock, to detach the subscriber. -/
  | detaching
  | ended
  deriving DecidableEq, Repr

structure Peer where
  id : SubscriberId
  place : Peer.Place := .waiting
  /-- The snapshots taken so far. -/
  taken : List (Snapshot Float) := []
  /-- The bytes written so far. -/
  written : List UInt8 := []
  deriving Repr

namespace Peer

/-- A peer that was just attached. -/
def attached (id : SubscriberId) : Peer :=
  { id }

/-- Takes a snapshot. One without a line is left out. -/
def take (p : Peer) (s : Snapshot Float) : Peer :=
  let p := { p with taken := p.taken ++ [s] }
  match line? s with
  | some line => { p with place := .writing line }
  | none => p

/-- Writes some bytes of a line, one at least. -/
def write (p : Peer) (count : Nat) : Option Peer :=
  match p.place with
  | .writing rest =>
    if count = 0 ∨ rest.length < count then none
    else
      let left := rest.drop count
      some { p with
        written := p.written ++ rest.take count
        place := if left = [] then .waiting else .writing left }
  | _ => none

end Peer

/-! ## 2. The service -/

/-- The tasks that ask the registry for its lock. -/
inductive Party (τ : Type) where
  /-- The loop that accepts peers. -/
  | acceptor
  /-- The task of a peer. -/
  | peer (n : Nat)
  /-- Anyone else. -/
  | other (task : τ)
  deriving DecidableEq, Repr

/-- Where the loop that accepts peers stands. -/
inductive Service.Acceptor where
  | listening
  /-- It accepted a peer and waits for the lock, to attach it as a subscriber. -/
  | attaching (id : SubscriberId)
  | ended
  deriving DecidableEq, Repr

structure Service (τ : Type) where
  registry : Registry (Party τ) (Snapshot Float)
  acceptor : Service.Acceptor := .listening
  /-- Whether the shutdown was signalled. -/
  shutdown : Bool := false
  /-- The peers in the order in which they were attached. -/
  peers : List Peer := []
  deriving Repr

namespace Service

variable {τ : Type}

def start (registry : Registry (Party τ) (Snapshot Float)) : Service τ :=
  { registry }

def modifyPeer (s : Service τ) (n : Nat) (f : Peer → Peer) : Service τ :=
  { s with peers := s.peers.modify n f }

/-- Accepts a peer, unless the shutdown was signalled. -/
def accept (s : Service τ) : Option (Service τ) :=
  match s.acceptor, s.shutdown with
  | .listening, false => do
    let id := s.registry.nextId
    let registry ← s.registry.draw.ask .acceptor (.subscribe id)
    return { s with registry, acceptor := .attaching id }
  | _, _ => none

/-- The loop sees the shutdown. -/
def endAccepting (s : Service τ) : Option (Service τ) :=
  match s.acceptor, s.shutdown with
  | .listening, true => some { s with acceptor := .ended }
  | _, _ => none

/-- The task of a peer gives its subscription back and asks to detach the subscriber. -/
def detach (s : Service τ) (n : Nat) (p : Peer) : Option (Service τ) := do
  let registry ← (s.registry.modifyChannel p.id Channel.dropReceiver).ask (.peer n) (.remove p.id)
  return { s with registry }.modifyPeer n fun p => { p with place := .detaching }

/-- The task of a peer takes the next snapshot, or sees the end of its subscription. -/
def take (s : Service τ) (n : Nat) : Option (Service τ) := do
  let p ← s.peers[n]?
  if p.place ≠ .waiting then none
  let c ← s.registry.channel? p.id
  match c.poll with
  | .item snapshot rest =>
    let s := { s with registry := s.registry.modifyChannel p.id fun _ => rest }
    return s.modifyPeer n fun p => p.take snapshot
  | .empty => none
  | .ended => s.detach n p

/-- A write fails. -/
def failWrite (s : Service τ) (n : Nat) : Option (Service τ) := do
  let p ← s.peers[n]?
  match p.place with
  | .writing _ => s.detach n p
  | _ => none

/-- The end of what a peer sends is seen. -/
def leave (s : Service τ) (n : Nat) : Option (Service τ) := do
  let p ← s.peers[n]?
  if p.place = .waiting then s.detach n p else none

/-- What the peers and the loop make of the outcomes of a move of the registry; the outcomes of
others go on. -/
def note (s : Service τ) : List (Registry.Outcome (Party τ)) → Service τ × List (Registry.Outcome τ)
  | [] => (s, [])
  | .event e :: os =>
    let (s, out) := s.note os
    (s, .event e :: out)
  | .done .acceptor (.subscribed id) :: os =>
    { s with acceptor := .listening, peers := s.peers ++ [Peer.attached id] }.note os
  | .done .acceptor _ :: os => s.note os
  | .done (.peer n) _ :: os => (s.modifyPeer n fun p => { p with place := .ended }).note os
  | .done (.other task) answer :: os =>
    let (s, out) := s.note os
    (s, .done task answer :: out)

/-! ## 3. Moves -/

inductive Move (τ : Type) where
  /-- A connection is accepted. -/
  | accept
  /-- Someone signals the shutdown. -/
  | shutdown
  | endAccepting
  /-- Something that a peer sends is read and forgotten. -/
  | hear (n : Nat)
  | take (n : Nat)
  | write (n count : Nat)
  | failWrite (n : Nat)
  | leave (n : Nat)
  | registry (move : Registry.Move (Party τ) (Snapshot Float))
  deriving Repr

/-- Whether a move of the registry is one of its own or another task's. The subscriptions of peers
belong to their tasks. -/
def isForeign (s : Service τ) : Registry.Move (Party τ) (Snapshot Float) → Bool
  | .ask (.other _) _ | .cancel (.other _) => true
  | .ask _ _ | .cancel _ => false
  | .receive id | .drop id =>
    s.acceptor != .attaching id && !s.peers.any fun p => p.id == id
  | _ => true

/-- The effect of a move at an instant, if it is possible. -/
def step [DecidableEq τ] (now : Nat) (s : Service τ) :
    Move τ → Option (Service τ × List (Registry.Outcome τ))
  | .accept => s.accept.map fun s => (s, [])
  | .shutdown => some ({ s with shutdown := true }, [])
  | .endAccepting => s.endAccepting.map fun s => (s, [])
  | .hear n => if s.peers[n]?.any fun p => p.place = .waiting then some (s, []) else none
  | .take n => (s.take n).map fun s => (s, [])
  | .write n count => do
    let p ← (← s.peers[n]?).write count
    return (s.modifyPeer n fun _ => p, [])
  | .failWrite n => (s.failWrite n).map fun s => (s, [])
  | .leave n => (s.leave n).map fun s => (s, [])
  | .registry move =>
    if s.isForeign move then
      (s.registry.step now move).map fun (registry, os) => { s with registry }.note os
    else none

end Service

end Vitals.Streaming
