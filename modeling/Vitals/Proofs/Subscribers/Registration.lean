import Vitals.Proofs.Subscribers.Ids

/-!
# Which ids are registered

An id is registered by the request that subscribes it, and taken out by one that removes it, by the
end of all subscriptions, or by the end of a broadcast that found its receiver gone. This file fixes

* `Registry.granted?`, the request that gets the lock with a move;
* `Registry.Detaches`, the moves that take an id out.

Main statement: which ids are registered after a step (`mem_registered_of_effect`). Beside it stands
what taking ids out and giving subscriptions up does to channels.
-/

namespace Vitals.Registry

variable {τ α : Type}

/-! ## 1. Frames -/

section

variable (r : Registry τ α)

theorem modifyChannel_only (i : SubscriberId) (f : Channel α → Channel α) :
    r.modifyChannel i f = { r with channels := (r.modifyChannel i f).channels } := by
  unfold modifyChannel
  split <;> rfl

theorem unregister_only (ids : List SubscriberId) :
    r.unregister ids = { r with
      channels := (r.unregister ids).channels
      registered := (r.unregister ids).registered } := by
  induction ids generalizing r with
  | nil => rfl
  | cons i ids ih =>
    rw [unregister, List.foldl_cons, ← unregister, modifyChannel_only]
    exact ih _

theorem forgetAll_only (out : List (τ × Request α)) :
    out.foldl (fun r w => w.2.forget r) r =
      { r with channels := (out.foldl (fun r w => w.2.forget r) r).channels } := by
  induction out generalizing r with
  | nil => rfl
  | cons w out ih =>
    have hfirst : w.2.forget r = { r with channels := (w.2.forget r).channels } := by
      cases w.2 with
      | subscribe i => exact modifyChannel_only r i _
      | remove | broadcast | stopAll | count => rfl
    rw [List.foldl_cons, hfirst]
    exact ih _

theorem cancel_only [DecidableEq τ] (task : τ) :
    r.cancel task = { r with
      channels := (r.cancel task).channels
      waiters := (r.cancel task).waiters
      holder := (r.cancel task).holder } := by
  unfold cancel
  simp only
  rw [forgetAll_only]
  split <;> rfl

theorem waiting_modifyChannel (i id : SubscriberId) (f : Channel α → Channel α) :
    (r.modifyChannel i f).waiting id = r.waiting id := by
  rw [modifyChannel_only]
  rfl

theorem waiting_unregister (ids : List SubscriberId) (id : SubscriberId) :
    (r.unregister ids).waiting id = r.waiting id := by
  rw [unregister_only]
  rfl

theorem stopped_unregister (ids : List SubscriberId) :
    (r.unregister ids).stopped = r.stopped := by
  rw [unregister_only]

end

/-! ## 2. What gets the lock, and what takes an id out -/

/-- The request that gets the lock with a move. -/
def granted? (r : Registry τ α) : Move τ α → Option (Request α)
  | .grant => r.waiters.head?.map Prod.snd
  | _ => none

/-- **A move takes an id out of the registry**, if it is registered. -/
inductive Detaches (r : Registry τ α) (id : SubscriberId) : Move τ α → Prop where
  | removed {move : Move τ α} (h : r.granted? move = some (.remove id)) : Detaches r id move
  | stopped {move : Move τ α} (h : r.granted? move = some .stopAll) : Detaches r id move
  /-- A broadcast ends that has found the receiver gone. -/
  | lost (d : Delivery τ α) (hd : r.holder = some d) (h : id ∈ d.lost) : Detaches r id .finish

theorem granted?_grant {r : Registry τ α} {task : τ} {request : Request α}
    {waiters : List (τ × Request α)} (hw : r.waiters = (task, request) :: waiters) :
    r.granted? .grant = some request := by
  rw [granted?, hw]
  rfl

theorem detaches_grant_iff {r : Registry τ α} {task : τ} {request : Request α}
    {waiters : List (τ × Request α)} {id : SubscriberId}
    (hw : r.waiters = (task, request) :: waiters) :
    r.Detaches id .grant ↔ request = .remove id ∨ request = .stopAll := by
  have hg := granted?_grant hw
  constructor
  · intro h
    cases h with
    | removed h => exact .inl (Option.some.inj (hg.symm.trans h))
    | stopped h => exact .inr (Option.some.inj (hg.symm.trans h))
  · rintro (rfl | rfl)
    · exact .removed hg
    · exact .stopped hg

theorem mem_insert_iff {i id : SubscriberId} {ids : List SubscriberId} :
    id ∈ insert i ids ↔ id = i ∨ id ∈ ids := by
  rw [(insert_perm i ids).mem_iff, List.mem_cons]

section

variable {r : Registry τ α}

/-- Ids that are taken out are gone, and the others stay. -/
theorem mem_registered_unregister (hnodup : r.registered.Nodup) (ids : List SubscriberId)
    (id : SubscriberId) :
    id ∈ (r.unregister ids).registered ↔ id ∈ r.registered ∧ id ∉ ids := by
  induction ids generalizing r with
  | nil => simp [unregister]
  | cons i ids ih =>
    have hreg : ({ r with registered := r.registered.erase i }.modifyChannel i
        Channel.closeSender).registered = r.registered.erase i :=
      registered_modifyChannel _ i _
    have hrest := ih (hreg ▸ hnodup.erase i)
    rw [hreg, hnodup.mem_erase_iff] at hrest
    rw [unregister, List.foldl_cons, ← unregister, hrest, List.mem_cons, not_or]
    constructor
    · rintro ⟨⟨hne, hm⟩, hids⟩
      exact ⟨hm, hne, hids⟩
    · rintro ⟨hm, hne, hids⟩
      exact ⟨⟨hne, hm⟩, hids⟩

/-- A channel is closed with the removal of its id. -/
theorem channel?_unregister (ids : List SubscriberId) (id : SubscriberId) :
    (r.unregister ids).channel? id =
      if id ∈ ids then (r.channel? id).map Channel.closeSender else r.channel? id := by
  induction ids generalizing r with
  | nil => rfl
  | cons i ids ih =>
    have hfirst : ({ r with registered := r.registered.erase i }.modifyChannel i
        Channel.closeSender).channel? id =
        if i = id then (r.channel? id).map Channel.closeSender else r.channel? id :=
      channel?_modifyChannel _ i id _
    rw [unregister, List.foldl_cons, ← unregister, ih, hfirst]
    by_cases hi : i = id
    · subst hi
      cases r.channel? i <;> simp [Channel.closeSender]
    · simp [hi, Ne.symm hi]

/-- The subscriptions that are given up lose both ends, and the others stay. -/
theorem channel?_forgetAll (out : List (τ × Request α)) (id : SubscriberId) :
    (out.foldl (fun r w => w.2.forget r) r).channel? id =
      if id ∈ out.filterMap (fun w => w.2.subscribes?) then
        (r.channel? id).map fun c => c.closeSender.dropReceiver
      else r.channel? id := by
  induction out generalizing r with
  | nil => rfl
  | cons w out ih =>
    obtain ⟨task, request⟩ := w
    rw [List.foldl_cons, ih]
    cases request with
    | subscribe i =>
      have hcons : id ∈ ((task, Request.subscribe i) :: out).filterMap (fun w => w.2.subscribes?) ↔
          id = i ∨ id ∈ out.filterMap fun w => w.2.subscribes? := List.mem_cons
      simp only [Request.forget, channel?_modifyChannel, hcons]
      by_cases hi : i = id
      · subst hi
        cases r.channel? i <;> simp [Channel.closeSender, Channel.dropReceiver]
      · have hne : ¬id = i := Ne.symm hi
        simp only [if_neg hi, hne, false_or]
    | remove | broadcast | stopAll | count => rfl

/-- A task that is cancelled gives up the subscriptions that it waits for. -/
theorem channel?_cancel [DecidableEq τ] (task : τ) (id : SubscriberId) :
    (r.cancel task).channel? id =
      if id ∈ (r.waiters.filter fun w => decide (w.1 = task)).filterMap
          (fun w => w.2.subscribes?) then
        (r.channel? id).map fun c => c.closeSender.dropReceiver
      else r.channel? id := by
  have hout := channel?_forgetAll (r := { r with
    waiters := (r.waiters.partition fun w => decide (w.1 = task)).2 })
    (r.waiters.partition fun w => decide (w.1 = task)).1 id
  rw [List.partition_eq_filter_filter] at hout
  unfold cancel
  simp only [List.partition_eq_filter_filter]
  split <;> exact hout

end

/-! ## 3. Which ids are registered -/

section

variable [DecidableEq τ] {now : Nat} {r r' : Registry τ α} {move : Move τ α}
  {os : List (Outcome τ)} {id : SubscriberId}

/-- Subscriptions end for good when it is asked for, and not otherwise. -/
theorem stopped_of_effect (he : r.Effect now move r' os) :
    r'.stopped = true ↔ r.stopped = true ∨ r.granted? move = some .stopAll := by
  cases he with
  | draw | lose | skip => simp [granted?, draw]
  | ask task request _ ha =>
    have hsame : r'.stopped = r.stopped := by
      unfold ask at ha
      split at ha
      · split at ha <;> cases ha
        rfl
      · cases ha
        rfl
    simp [granted?, hsame]
  | grant task request waiters _ _ hh hw hp =>
    rw [granted?_grant hw]
    cases request with
    | subscribe i =>
      cases hp
      split
      · rename_i hstopped
        rw [modifyChannel_only]
        simp
      · simp
    | remove i =>
      unfold perform at hp
      simp only at hp
      split at hp <;> cases hp
      · rw [stopped_unregister]
        simp
      · simp
    | broadcast item | count =>
      cases hp
      simp
    | stopAll =>
      cases hp
      simp
  | deliver d i c c' hd hr hc ho =>
    rw [modifyChannel_only]
    simp [granted?]
  | finish d hd hr =>
    rw [show Registry.stopped _ = r.stopped from stopped_unregister r d.lost]
    simp [granted?]
  | cancel task =>
    rw [cancel_only]
    simp [granted?]
  | receive i | drop i =>
    rw [modifyChannel_only]
    simp [granted?]

/-- A task is told that subscriptions have ended only when they have. -/
theorem stopped_of_answer {task : τ} (he : r.Effect now move r' os)
    (h : .done task .stopped ∈ os) : r'.stopped = true := by
  cases he with
  | draw | ask | deliver | lose | cancel | receive | drop => cases h
  | skip | finish => cases List.mem_singleton.mp h
  | grant other request waiters _ _ hh hw hp =>
    cases request with
    | subscribe i =>
      cases hp
      cases List.mem_singleton.mp h
    | remove i =>
      unfold perform at hp
      simp only at hp
      split at hp <;> cases hp <;> cases List.mem_singleton.mp h
    | broadcast item =>
      cases hp
      cases h
    | stopAll =>
      cases hp
      rfl
    | count =>
      cases hp
      cases List.mem_singleton.mp h

/-- **Which ids are registered after a step**: the one that is subscribed, unless all subscriptions
have ended, and those that were and are not taken out. -/
theorem mem_registered_of_effect (h : Sound r) (he : r.Effect now move r' os) :
    id ∈ r'.registered ↔
      r.granted? move = some (.subscribe id) ∧ r.stopped = false ∨
        id ∈ r.registered ∧ ¬r.Detaches id move := by
  -- most moves neither grant a request nor end a broadcast
  have hsame : r'.registered = r.registered → r.granted? move = none → move ≠ .finish →
      (id ∈ r'.registered ↔ r.granted? move = some (.subscribe id) ∧ r.stopped = false ∨
        id ∈ r.registered ∧ ¬r.Detaches id move) := by
    intro hreg hg hne
    have hno : ¬r.Detaches id move := by
      intro hdet
      cases hdet with
      | removed hr | stopped hr =>
        rw [hg] at hr
        cases hr
      | lost => exact hne rfl
    simp [hreg, hg, hno]
  cases he with
  | draw | lose | skip => exact hsame rfl rfl nofun
  | ask task request _ ha => exact hsame (keeps_ask ha).2.1 rfl nofun
  | grant task request waiters _ _ hh hw hp =>
    rw [detaches_grant_iff hw, granted?_grant hw]
    cases request with
    | subscribe i =>
      cases hp
      split
      · rename_i hstopped
        have hstopped : r.stopped = true := hstopped
        rw [registered_modifyChannel]
        simp [hstopped]
      · rename_i hstopped
        have hstopped : ¬r.stopped = true := hstopped
        rw [show Registry.registered _ = insert i r.registered from rfl, mem_insert_iff,
          @eq_comm _ id i]
        simp [hstopped]
    | remove i =>
      unfold perform at hp
      simp only at hp
      split at hp <;> cases hp
      · rw [mem_registered_unregister (r := { r with waiters }) h.registered_nodup,
          List.mem_singleton, @eq_comm _ id i]
        simp
      · rename_i hno
        have hno : i ∉ r.registered := by simpa using hno
        have hne : id ∈ r.registered → i ≠ id := fun hm e => hno (e ▸ hm)
        simpa using hne
    | broadcast item | count =>
      cases hp
      simp
    | stopAll =>
      cases hp
      rw [show Registry.registered _ = (Registry.unregister { r with waiters } r.registered).registered
        from rfl, mem_registered_unregister (r := { r with waiters }) h.registered_nodup]
      simp
  | deliver d i c c' hd hr hc ho => exact hsame (registered_modifyChannel r i _) rfl nofun
  | finish d hd hr =>
    have hlost : r.Detaches id .finish ↔ id ∈ d.lost := by
      constructor
      · intro hdet
        cases hdet with
        | removed hr | stopped hr => cases hr
        | lost e he hm =>
          rw [hd] at he
          cases he
          exact hm
      · exact .lost d hd
    rw [hlost, show Registry.registered _ = (r.unregister d.lost).registered from rfl,
      mem_registered_unregister h.registered_nodup]
    simp [granted?]
  | cancel task => exact hsame (keeps_cancel task).2 rfl nofun
  | receive i | drop i => exact hsame (registered_modifyChannel r i _) rfl nofun

end

end Vitals.Registry
