import Mathlib.Data.List.Count
import Mathlib.Data.List.Nodup
import Vitals.Proofs.Subscribers.Step

/-!
# The ids of a registry

An id is drawn once, waits in the queue for the lock, is registered, and is taken out of the
registry for good. A broadcast that holds the lock keeps the registered ids as they are. This file
fixes

* `Registry.places`, the number of places at which an id waits to be registered or is registered;
* `Registry.Sound`, the invariant of the ids: each has one place at most, and a broadcast goes
  through a final part of those registered.

Main statement: every step keeps the ids sound (`sound_of_effect`).
-/

namespace Vitals.Registry

variable {τ α : Type}

/-! ## 1. Where an id can be -/

/-- The id that a request asks to register. -/
def Request.subscribes? : Request α → Option SubscriberId
  | .subscribe id => some id
  | _ => none

/-- The number of places at which an id waits to be registered or is registered. -/
def places (r : Registry τ α) (id : SubscriberId) : Nat :=
  r.drawn.count id + (r.waiters.filterMap fun w => w.2.subscribes?).count id +
    r.registered.count id

/-- The number of places at which an id waits to be registered. -/
def waiting (r : Registry τ α) (id : SubscriberId) : Nat :=
  r.drawn.count id + (r.waiters.filterMap fun w => w.2.subscribes?).count id

theorem places_eq (r : Registry τ α) (id : SubscriberId) :
    r.places id = r.waiting id + r.registered.count id := rfl

/-- **The ids of a registry.** -/
structure Sound (r : Registry τ α) : Prop where
  /-- An id has one place at most, -/
  once : ∀ id, r.places id ≤ 1
  /-- and none before it is drawn. -/
  fresh : ∀ id, r.nextId ≤ id → r.places id = 0
  /-- A broadcast that holds the lock goes on through the last of those registered. -/
  held : ∀ d, r.holder = some d → d.remaining <:+ r.registered

theorem sound_new (buffer : Nat) (policy : DeliveryPolicy) :
    Sound (Registry.new buffer policy : Registry τ α) where
  once _ := Nat.zero_le 1
  fresh _ _ := rfl
  held _ h := by cases h

section

variable {r : Registry τ α} {d : Delivery τ α}

theorem Sound.registered_nodup (h : Sound r) : r.registered.Nodup := by
  rw [List.nodup_iff_count_le_one]
  intro id
  have := h.once id
  unfold places at this
  omega

/-- The subscribers that a broadcast has still to serve differ. -/
theorem Sound.remaining_nodup (h : Sound r) (hd : r.holder = some d) : d.remaining.Nodup :=
  (h.held d hd).sublist.nodup h.registered_nodup

/-! ## 2. Moves and ids -/

theorem channels_modifyChannel_length (r : Registry τ α) (i : SubscriberId)
    (f : Channel α → Channel α) :
    (r.modifyChannel i f).channels.length = r.channels.length := by
  unfold modifyChannel
  split
  · rfl
  · exact List.length_modify ..

theorem insert_perm (id : SubscriberId) (ids : List SubscriberId) :
    (insert id ids).Perm (id :: ids) := by
  induction ids with
  | nil => exact .refl _
  | cons i ids ih =>
    unfold insert
    split
    · exact .refl _
    · exact (ih.cons i).trans (.swap id i ids)

/-- No id was drawn between `r` and `r'`, none has come to a further place or to wait again, and the
policy is the same. -/
structure Keeps (r r' : Registry τ α) : Prop where
  places : ∀ id, r'.places id ≤ r.places id
  waiting : ∀ id, r'.waiting id ≤ r.waiting id
  nextId : r'.nextId = r.nextId
  policy : r'.policy = r.policy

theorem Keeps.refl (r : Registry τ α) : Keeps r r :=
  ⟨fun _ => Nat.le_refl _, fun _ => Nat.le_refl _, rfl, rfl⟩

theorem Keeps.trans {r₁ r₂ : Registry τ α} (h : Keeps r r₁) (h' : Keeps r₁ r₂) : Keeps r r₂ :=
  ⟨fun id => Nat.le_trans (h'.places id) (h.places id),
    fun id => Nat.le_trans (h'.waiting id) (h.waiting id), h'.nextId.trans h.nextId,
    h'.policy.trans h.policy⟩

theorem keeps_modifyChannel (i : SubscriberId) (f : Channel α → Channel α) :
    Keeps r (r.modifyChannel i f) := by
  refine ⟨fun id => Nat.le_of_eq ?_, fun id => Nat.le_of_eq ?_,
    congrArg (· + 1) (channels_modifyChannel_length r i f), ?_⟩ <;> unfold modifyChannel <;>
    split <;> rfl

theorem keeps_unregister (ids : List SubscriberId) : Keeps r (r.unregister ids) := by
  induction ids generalizing r with
  | nil => exact .refl r
  | cons i ids ih =>
    have herase : Keeps r { r with registered := r.registered.erase i } :=
      ⟨fun id => Nat.add_le_add_left (List.erase_sublist.count_le id) _, fun _ => Nat.le_refl _,
        rfl, rfl⟩
    exact (herase.trans (keeps_modifyChannel i Channel.closeSender)).trans ih

theorem keeps_forget (request : Request α) :
    Keeps r (request.forget r) ∧ (request.forget r).registered = r.registered := by
  cases request with
  | subscribe i => exact ⟨keeps_modifyChannel i _, registered_modifyChannel r i _⟩
  | remove | broadcast | stopAll | count => exact ⟨.refl r, rfl⟩

theorem keeps_forgetAll (out : List (τ × Request α)) :
    Keeps r (out.foldl (fun r w => w.2.forget r) r) ∧
      (out.foldl (fun r w => w.2.forget r) r).registered = r.registered := by
  induction out generalizing r with
  | nil => exact ⟨.refl r, rfl⟩
  | cons w out ih =>
    obtain ⟨hk, hr⟩ := keeps_forget (r := r) w.2
    obtain ⟨hks, hrs⟩ := ih (r := w.2.forget r)
    exact ⟨hk.trans hks, hrs.trans hr⟩

theorem keeps_cancel [DecidableEq τ] (task : τ) :
    Keeps r (r.cancel task) ∧ (r.cancel task).registered = r.registered := by
  have hstay : (r.waiters.partition fun w => decide (w.1 = task)).2.Sublist r.waiters := by
    rw [List.partition_eq_filter_filter]
    exact List.filter_sublist
  have hleft : Keeps r { r with
      waiters := (r.waiters.partition fun w => decide (w.1 = task)).2 } :=
    ⟨fun id => Nat.add_le_add_right (Nat.add_le_add_left ((hstay.filterMap _).count_le id) _) _,
      fun id => Nat.add_le_add_left ((hstay.filterMap _).count_le id) _, rfl, rfl⟩
  obtain ⟨hk, hr⟩ := keeps_forgetAll (r := { r with
    waiters := (r.waiters.partition fun w => decide (w.1 = task)).2 })
    (r.waiters.partition fun w => decide (w.1 = task)).1
  have hall := hleft.trans hk
  unfold cancel
  simp only
  split <;> exact ⟨⟨hall.places, hall.waiting, hall.nextId, hall.policy⟩, hr⟩

theorem keeps_ask {task : τ} {request : Request α} {r' : Registry τ α}
    (h : r.ask task request = some r') :
    Keeps r r' ∧ r'.registered = r.registered ∧ r'.holder = r.holder := by
  unfold ask at h
  split at h
  · rename_i i
    split at h
    · rename_i hmem
      cases h
      have hwait : ∀ id, waiting { { r with drawn := r.drawn.erase i } with
          waiters := r.waiters ++ [(task, .subscribe i)] } id ≤ r.waiting id := by
        intro id
        have hperm := (List.perm_cons_erase (List.contains_iff_mem.mp hmem)).count_eq id
        simp only [Registry.waiting, List.filterMap_append, List.count_append, hperm]
        simp only [List.filterMap_cons, List.filterMap_nil, Request.subscribes?, List.count_cons,
          List.count_nil]
        omega
      exact ⟨⟨fun id => Nat.add_le_add_right (hwait id) _, hwait, rfl, rfl⟩, rfl, rfl⟩
    · cases h
  · rename_i hne
    cases h
    have hnone : request.subscribes? = none := by
      cases request with
      | subscribe i => exact absurd rfl (hne i)
      | remove | broadcast | stopAll | count => rfl
    exact ⟨⟨fun id => by simp [Registry.places, hnone], fun id => by simp [Registry.waiting, hnone],
      rfl, rfl⟩, rfl, rfl⟩

/-- A task that gets the lock moves an id from the queue to the registered ones, at most. -/
theorem keeps_grant {now : Nat} {task : τ} {request : Request α} {waiters : List (τ × Request α)}
    {r' : Registry τ α} {os : List (Outcome τ)} (hw : r.waiters = (task, request) :: waiters)
    (h : { r with waiters }.perform now task request = (r', os)) : Keeps r r' := by
  have hqueue : Keeps r { r with waiters } := by
    have hwait : ∀ id, waiting { r with waiters } id ≤ r.waiting id := by
      intro id
      have hle := (List.Sublist.filterMap (fun w : τ × Request α => w.2.subscribes?)
        (List.sublist_cons_self (task, request) waiters)).count_le id
      rw [← hw] at hle
      exact Nat.add_le_add_left hle _
    exact ⟨fun id => Nat.add_le_add_right (hwait id) _, hwait, rfl, rfl⟩
  cases request with
  | subscribe i =>
    cases h
    split
    · exact hqueue.trans (keeps_modifyChannel i _)
    · refine ⟨fun id => ?_, hqueue.waiting, rfl, rfl⟩
      have hperm := (insert_perm i r.registered).count_eq id
      simp only [Registry.places, hperm, hw, List.filterMap_cons, Request.subscribes?,
        List.count_cons]
      omega
  | remove i =>
    unfold perform at h
    simp only at h
    split at h <;> cases h
    · exact hqueue.trans (keeps_unregister [i])
    · exact hqueue
  | broadcast item =>
    cases h
    exact ⟨hqueue.places, hqueue.waiting, hqueue.nextId, hqueue.policy⟩
  | stopAll =>
    cases h
    have hall := hqueue.trans (keeps_unregister r.registered)
    exact ⟨hall.places, hall.waiting, hall.nextId, hall.policy⟩
  | count =>
    cases h
    exact hqueue

/-- Only a broadcast keeps the lock, and it starts with all that are registered. -/
theorem holder_perform {now : Nat} {task : τ} {request : Request α} {r' : Registry τ α}
    {os : List (Outcome τ)} (hh : r.holder = none)
    (h : r.perform now task request = (r', os)) (hd : r'.holder = some d) :
    (∃ item, request = .broadcast item) ∧ r'.registered = r.registered ∧
      d.remaining = r.registered ∧ d.since = now := by
  have hno : ∀ {ids}, (r.unregister ids).holder ≠ some d := fun e => by
    rw [(unregister_frame r _).2, hh] at e
    cases e
  cases request with
  | subscribe i =>
    cases h
    split at hd
    · rw [holder_modifyChannel, hh] at hd
      cases hd
    · rw [show Registry.holder _ = r.holder from rfl, hh] at hd
      cases hd
  | remove i =>
    unfold perform at h
    simp only at h
    split at h <;> cases h
    · exact absurd hd hno
    · rw [hh] at hd
      cases hd
  | broadcast item =>
    cases h
    cases hd
    exact ⟨⟨item, rfl⟩, rfl, rfl, rfl⟩
  | stopAll =>
    cases h
    exact absurd hd hno
  | count =>
    cases h
    rw [hh] at hd
    cases hd

section

variable [DecidableEq τ] {now : Nat} {move : Move τ α} {r' : Registry τ α} {os : List (Outcome τ)}

/-- Only drawing makes a place for an id. -/
theorem keeps_of_effect (he : r.Effect now move r' os) : move = .draw ∨ Keeps r r' := by
  cases he with
  | draw => exact .inl rfl
  | ask task request _ ha => exact .inr (keeps_ask ha).1
  | grant task request waiters _ _ hh hw hp => exact .inr (keeps_grant hw hp)
  | deliver d id c c' hd hr hc ho =>
    have hk := keeps_modifyChannel (r := r) id fun _ => c'
    exact .inr ⟨hk.places, hk.waiting, hk.nextId, hk.policy⟩
  | lose | skip => exact .inr ⟨fun _ => Nat.le_refl _, fun _ => Nat.le_refl _, rfl, rfl⟩
  | finish d hd hr =>
    have hk := keeps_unregister (r := r) d.lost
    exact .inr ⟨hk.places, hk.waiting, hk.nextId, hk.policy⟩
  | cancel task => exact .inr (keeps_cancel task).1
  | receive id | drop id => exact .inr (keeps_modifyChannel id _)

theorem nextId_of_effect (he : r.Effect now move r' os) : r.nextId ≤ r'.nextId := by
  rcases keeps_of_effect he with rfl | hk
  · cases he
    simp [nextId, draw]
  · exact Nat.le_of_eq hk.nextId.symm

theorem policy_of_effect (he : r.Effect now move r' os) : r'.policy = r.policy := by
  rcases keeps_of_effect he with rfl | hk
  · cases he
    rfl
  · exact hk.policy

/-- A broadcast that holds the lock keeps the registered ids as they are, and goes through them. -/
theorem held_of_effect (h : ∀ d, r.holder = some d → d.remaining <:+ r.registered)
    (he : r.Effect now move r' os) (hd' : r'.holder = some d) :
    d.remaining <:+ r'.registered := by
  cases he with
  | draw => exact h d hd'
  | ask task request _ ha =>
    obtain ⟨-, hreg, hh⟩ := keeps_ask ha
    rw [hreg]
    exact h d (hh ▸ hd')
  | grant task request waiters _ _ hh hw hp =>
    obtain ⟨-, hreg, hrem, -⟩ := holder_perform (r := { r with waiters }) hh hp hd'
    have hall : d.remaining = r'.registered := hrem.trans hreg.symm
    exact hall ▸ List.suffix_refl _
  | deliver d id c c' hd hr hc ho =>
    cases hd'
    rw [show Registry.registered _ = r.registered from registered_modifyChannel r id _]
    exact (List.tail_suffix _).trans (h d hd)
  | lose d id c hd hr hc ho =>
    cases hd'
    exact (List.tail_suffix _).trans (h d hd)
  | skip timeout d id c hp hd hr hc ho ht =>
    cases hd'
    exact (List.tail_suffix _).trans (h d hd)
  | finish d hd hr => cases hd'
  | cancel task =>
    rw [(cancel_frame r task).2, Option.filter_eq_some_iff] at hd'
    rw [(keeps_cancel task).2]
    exact h d hd'.1
  | receive id | drop id =>
    rw [holder_modifyChannel] at hd'
    rw [registered_modifyChannel]
    exact h d hd'

/-- **A step keeps the ids sound.** -/
theorem sound_of_effect (h : Sound r) (he : r.Effect now move r' os) : Sound r' := by
  have hheld : ∀ d, r'.holder = some d → d.remaining <:+ r'.registered :=
    fun d => held_of_effect h.held he
  rcases keeps_of_effect he with rfl | hk
  · cases he
    have hplaces : ∀ id, r.draw.places id = r.places id + if r.nextId = id then 1 else 0 := by
      intro id
      simp only [places, draw, List.count_append, List.count_cons, List.count_nil, beq_iff_eq]
      omega
    have hnext : r.draw.nextId = r.nextId + 1 := by simp [nextId, draw]
    refine ⟨fun id => ?_, fun id hid => ?_, hheld⟩
    · rw [hplaces]
      split
      · rename_i hid
        exact Nat.add_le_add_right (Nat.le_of_eq (h.fresh id (Nat.le_of_eq hid))) 1
      · exact h.once id
    · rw [hnext] at hid
      have hlt : r.nextId < id := hid
      rw [hplaces, h.fresh id (Nat.le_of_lt hlt), if_neg (Nat.ne_of_lt hlt)]
  · refine ⟨fun id => Nat.le_trans (hk.places id) (h.once id), fun id hid => ?_, hheld⟩
    exact Nat.le_zero.mp (h.fresh id (hk.nextId ▸ hid) ▸ hk.places id)

end

end

end Vitals.Registry
