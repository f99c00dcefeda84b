import Vitals.Subscribers.Registry

/-!
# What a step of the registry can do

This file says once everything that a step of a registry can do (`Registry.Effect`,
`effect_of_step`); all that is proved about registries goes through it. Beside it stand the frame
lemmas: closing and dropping subscriptions touches neither the queue for the lock nor the lock.
-/

namespace Vitals.Registry

variable {τ α : Type}

/-! ## 1. Frames -/

section

variable (r : Registry τ α)

theorem waiters_modifyChannel (id : SubscriberId) (f : Channel α → Channel α) :
    (r.modifyChannel id f).waiters = r.waiters := by
  unfold modifyChannel
  split <;> rfl

theorem holder_modifyChannel (id : SubscriberId) (f : Channel α → Channel α) :
    (r.modifyChannel id f).holder = r.holder := by
  unfold modifyChannel
  split <;> rfl

theorem unregister_frame (ids : List SubscriberId) :
    (r.unregister ids).waiters = r.waiters ∧ (r.unregister ids).holder = r.holder := by
  induction ids generalizing r with
  | nil => exact ⟨rfl, rfl⟩
  | cons id ids ih =>
    obtain ⟨hw, hh⟩ := ih ({ r with registered := r.registered.erase id }.modifyChannel id
      Channel.closeSender)
    rw [waiters_modifyChannel] at hw
    rw [holder_modifyChannel] at hh
    exact ⟨hw, hh⟩

theorem forget_frame (request : Request α) :
    (request.forget r).waiters = r.waiters ∧ (request.forget r).holder = r.holder := by
  cases request with
  | subscribe id => exact ⟨waiters_modifyChannel r id _, holder_modifyChannel r id _⟩
  | remove | broadcast | stopAll | count => exact ⟨rfl, rfl⟩

theorem forgetAll_frame (out : List (τ × Request α)) :
    (out.foldl (fun r w => w.2.forget r) r).waiters = r.waiters ∧
      (out.foldl (fun r w => w.2.forget r) r).holder = r.holder := by
  induction out generalizing r with
  | nil => exact ⟨rfl, rfl⟩
  | cons w out ih =>
    obtain ⟨hw, hh⟩ := ih (w.2.forget r)
    obtain ⟨hw', hh'⟩ := forget_frame r w.2
    exact ⟨hw.trans hw', hh.trans hh'⟩

/-- A task that is cancelled leaves the queue and gives the lock back. -/
theorem cancel_frame [DecidableEq τ] (task : τ) :
    (r.cancel task).waiters = r.waiters.filter (fun w => !decide (w.1 = task)) ∧
      (r.cancel task).holder = r.holder.filter (fun d => !decide (d.task = task)) := by
  have hstay : (r.waiters.partition fun w => decide (w.1 = task)).2 =
      r.waiters.filter fun w => !decide (w.1 = task) := by
    rw [List.partition_eq_filter_filter]
    rfl
  obtain ⟨hw, hh⟩ := forgetAll_frame { r with
    waiters := (r.waiters.partition fun w => decide (w.1 = task)).2 }
    (r.waiters.partition fun w => decide (w.1 = task)).1
  unfold cancel
  simp only
  split
  · rename_i hany
    refine ⟨hw.trans hstay, ?_⟩
    rw [hh] at hany
    obtain ⟨d, hd, hdt⟩ := (Option.any_eq_true _ _).mp hany
    have hd : r.holder = some d := hd
    rw [hd, Option.filter_some, hdt]
    rfl
  · rename_i hany
    refine ⟨hw.trans hstay, hh.trans ?_⟩
    rw [hh] at hany
    show r.holder = _
    have hany : ¬(r.holder.any fun d => decide (d.task = task)) = true := hany
    cases hd : r.holder with
    | none => rfl
    | some d =>
      rw [hd, Option.any_some] at hany
      rw [Option.filter_some, Bool.eq_false_iff.mpr hany]
      rfl

end

/-! ## 2. Steps -/

/-- **Everything that a step can do.** -/
inductive Effect [DecidableEq τ] (now : Nat) (r : Registry τ α) :
    Move τ α → Registry τ α → List (Outcome τ) → Prop where
  | draw : Effect now r .draw r.draw []
  | ask (task : τ) (request : Request α) (r' : Registry τ α) (h : r.ask task request = some r') :
      Effect now r (.ask task request) r' []
  | grant (task : τ) (request : Request α) (waiters : List (τ × Request α)) (r' : Registry τ α)
      (os : List (Outcome τ)) (hh : r.holder = none) (hw : r.waiters = (task, request) :: waiters)
      (hp : { r with waiters }.perform now task request = (r', os)) :
      Effect now r .grant r' os
  | deliver (d : Delivery τ α) (id : SubscriberId) (c c' : Channel α) (hd : r.holder = some d)
      (hr : d.remaining.head? = some id) (hc : r.channel? id = some c)
      (ho : c.offer d.item = .accepted c') :
      Effect now r .deliver { r.modifyChannel id (fun _ => c') with holder := some (d.next now) } []
  /-- The receiver turns out to be gone. -/
  | lose (d : Delivery τ α) (id : SubscriberId) (c : Channel α) (hd : r.holder = some d)
      (hr : d.remaining.head? = some id) (hc : r.channel? id = some c)
      (ho : c.offer d.item = .refused) :
      Effect now r .deliver { r with holder := some { d.next now with lost := d.lost ++ [id] } } []
  | skip (timeout : Duration) (d : Delivery τ α) (id : SubscriberId) (c : Channel α)
      (hp : r.policy = .dropAfter timeout) (hd : r.holder = some d)
      (hr : d.remaining.head? = some id) (hc : r.channel? id = some c)
      (ho : c.offer d.item = .full) (ht : d.since + timeout.nanos ≤ now) :
      Effect now r .skip { r with holder := some (d.next now) }
        [.event (.snapshotSkipped id timeout)]
  | finish (d : Delivery τ α) (hd : r.holder = some d) (hr : d.remaining = []) :
      Effect now r .finish { r.unregister d.lost with holder := none } [.done d.task .delivered]
  | cancel (task : τ) : Effect now r (.cancel task) (r.cancel task) []
  | receive (id : SubscriberId) (c rest : Channel α) (item : α) (hc : r.channel? id = some c)
      (hi : c.poll = .item item rest) :
      Effect now r (.receive id) (r.modifyChannel id fun _ => rest) []
  | drop (id : SubscriberId) : Effect now r (.drop id) (r.modifyChannel id Channel.dropReceiver) []

section

variable [DecidableEq τ] {now : Nat} {r r' : Registry τ α} {move : Move τ α} {os : List (Outcome τ)}

/-- **A step does nothing else.** -/
theorem effect_of_step (h : r.step now move = some (r', os)) : r.Effect now move r' os := by
  cases move with
  | draw =>
    cases h
    exact .draw
  | ask task request =>
    obtain ⟨r₁, ha, e⟩ := Option.map_eq_some_iff.mp h
    cases e
    exact .ask task request _ ha
  | grant =>
    have h : r.grant now = some (r', os) := h
    unfold grant at h
    split at h
    · rename_i task request waiters hh hw
      exact .grant task request waiters r' os hh hw (Option.some.inj h)
    · cases h
  | deliver =>
    obtain ⟨r₁, hd, e⟩ := Option.map_eq_some_iff.mp h
    cases e
    simp only [deliver, Option.bind_eq_bind, Option.bind_eq_some_iff] at hd
    obtain ⟨d, hd, id, hr, c, hc, ho⟩ := hd
    split at ho
    · rename_i c' ha
      cases ho
      exact .deliver d id c c' hd hr hc ha
    · rename_i hrefused
      cases ho
      exact .lose d id c hd hr hc hrefused
    · cases ho
  | skip =>
    obtain ⟨⟨r₁, e₁⟩, hs, e⟩ := Option.map_eq_some_iff.mp h
    cases e
    unfold skip at hs
    split at hs
    · cases hs
    · rename_i timeout hp
      simp only [Option.bind_eq_bind, Option.bind_eq_some_iff] at hs
      obtain ⟨d, hd, id, hr, c, hc, hs⟩ := hs
      split at hs
      · rename_i ho
        split at hs
        · rename_i ht
          cases hs
          exact .skip timeout d id c hp hd hr hc ho ht
        · cases hs
      · cases hs
  | finish =>
    have h : r.finish = some (r', os) := h
    simp only [finish, Option.bind_eq_bind, Option.bind_eq_some_iff] at h
    obtain ⟨d, hd, h⟩ := h
    split at h
    · rename_i hr
      cases h
      exact .finish d hd (List.isEmpty_iff.mp hr)
    · cases h
  | cancel task =>
    cases h
    exact .cancel task
  | receive id =>
    simp only [step, Option.bind_eq_bind, Option.bind_eq_some_iff] at h
    obtain ⟨c, hc, h⟩ := h
    split at h
    · rename_i item rest hi
      cases h
      exact .receive id c rest item hc hi
    · cases h
  | drop id =>
    cases h
    exact .drop id

/-- What a registry reports is that a subscriber misses something. -/
theorem event_of_step {e : Event} (h : r.step now move = some (r', os)) (he : .event e ∈ os) :
    ∃ id timeout, e = .snapshotSkipped id timeout := by
  cases effect_of_step h with
  | draw | ask | deliver | lose | cancel | receive | drop => cases he
  | finish => simp at he
  | grant task request waiters r' os hh hw hp =>
    cases request with
    | subscribe | broadcast | stopAll | count =>
      cases hp
      simp at he
    | remove id =>
      simp only [perform] at hp
      split at hp
      all_goals
        cases hp
        simp at he
  | skip timeout d id => exact ⟨id, timeout, by simpa using he⟩

end

end Vitals.Registry
