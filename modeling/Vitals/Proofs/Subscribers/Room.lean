import Vitals.Proofs.Course
import Vitals.Proofs.Subscribers.Channels

/-!
# The room of subscribers

A registry is made with the room that each of its subscribers gets. This file fixes that no step
changes it (`buffer_of_effect`).

Main statement: on every course each channel has that room, whatever became of its ends
(`capacity_of_course`).
-/

namespace Vitals.Registry

variable {τ α : Type}

/-! ## 1. No step changes it -/

section

variable (r : Registry τ α)

theorem buffer_modifyChannel (id : SubscriberId) (f : Channel α → Channel α) :
    (r.modifyChannel id f).buffer = r.buffer := by
  unfold modifyChannel
  split <;> rfl

theorem buffer_unregister (ids : List SubscriberId) : (r.unregister ids).buffer = r.buffer := by
  induction ids generalizing r with
  | nil => rfl
  | cons id ids ih => exact (ih _).trans (buffer_modifyChannel _ id _)

theorem buffer_forget (request : Request α) : (request.forget r).buffer = r.buffer := by
  cases request with
  | subscribe id => exact buffer_modifyChannel r id _
  | remove | broadcast | stopAll | count => rfl

theorem buffer_forgetAll (out : List (τ × Request α)) :
    (out.foldl (fun r w => w.2.forget r) r).buffer = r.buffer := by
  induction out generalizing r with
  | nil => rfl
  | cons w out ih => exact (ih _).trans (buffer_forget r w.2)

theorem buffer_cancel [DecidableEq τ] (task : τ) : (r.cancel task).buffer = r.buffer := by
  unfold cancel
  simp only
  split <;> exact buffer_forgetAll _ _

end

section

variable {r r' : Registry τ α}

theorem buffer_ask {task : τ} {request : Request α} (h : r.ask task request = some r') :
    r'.buffer = r.buffer := by
  unfold ask at h
  split at h
  · split at h
    · cases h
      rfl
    · cases h
  · cases h
    rfl

theorem buffer_perform {now : Nat} {task : τ} {request : Request α} {os : List (Outcome τ)}
    (h : r.perform now task request = (r', os)) : r'.buffer = r.buffer := by
  cases request with
  | subscribe id =>
    cases h
    split
    · exact buffer_modifyChannel r id _
    · rfl
  | remove id =>
    simp only [perform] at h
    split at h <;> cases h
    · exact buffer_unregister r [id]
    · rfl
  | broadcast | count =>
    cases h
    rfl
  | stopAll =>
    cases h
    exact buffer_unregister r r.registered

variable [DecidableEq τ] {now : Nat} {move : Move τ α} {os : List (Outcome τ)}

theorem buffer_of_effect (he : r.Effect now move r' os) : r'.buffer = r.buffer := by
  cases he with
  | draw | lose | skip => rfl
  | ask _ _ _ h => exact buffer_ask h
  | grant _ _ waiters _ _ _ _ hp => exact buffer_perform (r := { r with waiters }) hp
  | deliver _ id _ c' => exact buffer_modifyChannel r id fun _ => c'
  | finish d => exact buffer_unregister r d.lost
  | cancel task => exact buffer_cancel r task
  | receive id _ rest => exact buffer_modifyChannel r id fun _ => rest
  | drop id => exact buffer_modifyChannel r id Channel.dropReceiver

/-! ## 2. Each channel has it -/

omit [DecidableEq τ] in
theorem Passes.capacity {room : Nat} {id : SubscriberId} {c' : Channel α} {s : Option (α × Fate)}
    {t : Option α} (h : Passes r id c' s t) (hb : max r.buffer 1 = room)
    (hr : ∀ c, r.channel? id = some c → c.capacity = room) : c'.capacity = room := by
  cases h with
  | drawn => exact hb
  | fade c _ hc hf => exact hf.1.trans (hr c hc)
  | accept c _ a hc ho =>
    rw [(Channel.eq_of_offer ho).2]
    exact hr c hc
  | refuse _ a hc | skip _ a timeout hc => exact hr _ hc
  | take c _ a hc hi =>
    rw [Channel.eq_of_poll hi]
    exact hr c hc

variable {buffer start : Nat} {policy : DeliveryPolicy}
  {ts : List (Transition (Registry τ α) (Move τ α) (Outcome τ))}

theorem buffer_of_course
    (h : Course Registry.step start (Registry.new buffer policy) ts now r) : r.buffer = buffer := by
  induction h with
  | start => rfl
  | wait _ _ ih => exact ih
  | step _ hs ih => exact (buffer_of_effect (effect_of_step hs)).trans ih

/-- **On every course each channel has the room that the registry was made with.** -/
theorem capacity_of_course
    (h : Course Registry.step start (Registry.new buffer policy) ts now r) {id : SubscriberId}
    {c : Channel α} (hc : r.channel? id = some c) : c.capacity = max buffer 1 := by
  induction h generalizing c with
  | start => simp [channel?, Registry.new] at hc
  | wait _ _ ih => exact ih hc
  | step h hs ih =>
    refine (passes_of_effect (effect_of_step hs) hc).capacity ?_ fun _ => ih
    rw [buffer_of_course h]

end

end Vitals.Registry
