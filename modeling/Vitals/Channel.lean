/-!
# Bounded channels

A channel passes items in order from one end to the other and holds at most `capacity` of them.
Either end can go away. This file fixes

* `Channel`, with what is buffered and which ends are left;
* `offer`, what a sender meets: room, no room for now, or no receiver any more;
* `poll`, what a receiver meets: an item, nothing for now, or the end;
* the end of either side. Buffered items outlive the sender, but not the receiver.

Each of these takes effect at one instant, whatever others do to the channel at the same time, and
so does a look at what is buffered or at which ends are left. Two looks are two instants.

Main statements: `offer` and `poll` keep the buffered items in order and within the capacity
(`length_items_le_of_offer`, `items_eq_of_poll`).
-/

namespace Vitals

structure Channel (α : Type) where
  capacity : Nat
  /-- What was sent and not yet received, oldest first. -/
  items : List α := []
  senderAlive : Bool := true
  receiverAlive : Bool := true
  deriving DecidableEq, Repr, Inhabited

namespace Channel

variable {α : Type}

/-- An open channel; a capacity of zero counts as one. -/
def new (capacity : Nat) : Channel α :=
  { capacity := max capacity 1 }

/-! ## 1. Sending -/

/-- What a sender meets. -/
inductive Offer (α : Type) where
  | accepted (rest : Channel α)
  | full
  | refused
  deriving Repr

/-- Sends an item if there is room. -/
def offer (c : Channel α) (a : α) : Offer α :=
  if c.receiverAlive then
    if c.items.length < c.capacity then .accepted { c with items := c.items ++ [a] } else .full
  else .refused

/-- The last sender goes away. -/
def closeSender (c : Channel α) : Channel α :=
  { c with senderAlive := false }

/-! ## 2. Receiving -/

/-- What a receiver meets. -/
inductive Poll (α : Type) where
  | item (a : α) (rest : Channel α)
  | empty
  | ended
  deriving Repr

/-- Receives the oldest item. A channel ends when it is empty and no sender is left. -/
def poll (c : Channel α) : Poll α :=
  match c.items with
  | a :: as => .item a { c with items := as }
  | [] => if c.senderAlive then .empty else .ended

/-- The receiver goes away, and what is buffered with it. -/
def dropReceiver (c : Channel α) : Channel α :=
  { c with items := [], receiverAlive := false }

/-! ## 3. Order and capacity -/

theorem offer_eq_refused_iff (c : Channel α) (a : α) :
    c.offer a = .refused ↔ c.receiverAlive = false := by
  unfold offer
  split <;> simp_all
  split <;> simp

/-- An item that is accepted comes last, and nothing else changes. -/
theorem eq_of_offer {c d : Channel α} {a : α} (h : c.offer a = .accepted d) :
    c.receiverAlive = true ∧ d = { c with items := c.items ++ [a] } := by
  unfold offer at h
  split at h
  · rename_i hr
    split at h
    · cases h
      exact ⟨hr, rfl⟩
    · cases h
  · cases h

theorem items_of_offer {c d : Channel α} {a : α} (h : c.offer a = .accepted d) :
    d.items = c.items ++ [a] := by
  unfold offer at h
  split at h
  · split at h
    · cases h
      rfl
    · cases h
  · cases h

theorem length_items_le_of_offer {c d : Channel α} {a : α} (h : c.offer a = .accepted d) :
    d.items.length ≤ d.capacity := by
  unfold offer at h
  split at h
  · split at h
    · cases h
      simp only [List.length_append, List.length_cons, List.length_nil]
      omega
    · cases h
  · cases h

theorem items_eq_of_poll {c d : Channel α} {a : α} (h : c.poll = .item a d) :
    c.items = a :: d.items := by
  unfold poll at h
  split at h
  · cases h
    assumption
  · split at h <;> cases h

/-- An item that is received came first, and nothing else changes. -/
theorem eq_of_poll {c d : Channel α} {a : α} (h : c.poll = .item a d) :
    d = { c with items := d.items } := by
  unfold poll at h
  split at h
  · cases h
    rfl
  · split at h <;> cases h

theorem poll_eq_ended_iff (c : Channel α) :
    c.poll = .ended ↔ c.items = [] ∧ c.senderAlive = false := by
  unfold poll
  split
  · rename_i h
    simp [h]
  · rename_i h
    cases hs : c.senderAlive <;> simp [h]

end Channel

end Vitals
