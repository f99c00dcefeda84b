import Vitals.Proofs.Subscribers.Lifetime

/-!
# Tasks that are cancelled

A task can be cancelled while it waits for the lock, and a broadcast also while it holds the lock
and waits for a subscriber to take the item. This file tells what is left. It fixes

* `Carried`, how a broadcast comes to hold the lock with a step, or goes on holding it, and
  `Halfway`, how far it has come since it got the lock;
* `LeavesBe`, what no cancelled task changes, and `BrokenOff`, what a broadcast leaves that is
  cancelled at a subscriber: `Treated` tells of those before it, `Missed` of it and those after.

Main statement: a task that is cancelled takes nothing with it but its requests and its lock, and a
broadcast has served a first part of the registered ids, in ascending order
(`cancellation_is_safe`).
-/

namespace Vitals.Registry

variable {τ α : Type}

/-! ## 1. The order of the ids -/

theorem insert_ascending {id : SubscriberId} {ids : List SubscriberId} (hnew : id ∉ ids)
    (h : ids.Pairwise (· < ·)) : (insert id ids).Pairwise (· < ·) := by
  induction ids with
  | nil => exact List.pairwise_singleton ..
  | cons i ids ih =>
    rw [List.mem_cons, not_or] at hnew
    obtain ⟨hi, hrest⟩ := List.pairwise_cons.mp h
    unfold insert
    split
    · rename_i hle
      have hlt : id < i := Nat.lt_of_le_of_ne hle hnew.1
      refine List.pairwise_cons.mpr ⟨fun j hj => ?_, h⟩
      rcases List.mem_cons.mp hj with rfl | hj
      · exact hlt
      · exact Nat.lt_trans hlt (hi j hj)
    · rename_i hle
      refine List.pairwise_cons.mpr ⟨fun j hj => ?_, ih hnew.2 hrest⟩
      rcases mem_insert_iff.mp hj with rfl | hj
      · exact Nat.lt_of_not_le hle
      · exact hi j hj

theorem registered_unregister_sublist (r : Registry τ α) (ids : List SubscriberId) :
    (r.unregister ids).registered.Sublist r.registered := by
  induction ids generalizing r with
  | nil => exact .refl _
  | cons i ids ih =>
    have hrest := ih ({ r with registered := r.registered.erase i }.modifyChannel i
      Channel.closeSender)
    rw [registered_modifyChannel] at hrest
    exact hrest.trans List.erase_sublist

section Step

variable [DecidableEq τ] {now : Nat} {r r' : Registry τ α} {move : Move τ α}
  {os : List (Outcome τ)} {id : SubscriberId} {d' : Delivery τ α}

/-- **A step keeps the registered ids in ascending order.** -/
theorem ascending_of_effect (h : r.registered.Pairwise (· < ·)) (hs : Sound r)
    (he : r.Effect now move r' os) : r'.registered.Pairwise (· < ·) := by
  cases he with
  | draw | lose | skip => exact h
  | ask task request _ ha => exact (keeps_ask ha).2.1 ▸ h
  | grant task request waiters _ _ hh hw hp =>
    cases request with
    | subscribe i =>
      have hwait := waiting_grant hw i
      rw [show (Request.subscribe i : Request α).subscribes?.toList = [i] from rfl,
        List.count_singleton_self] at hwait
      have hnew : i ∉ r.registered := hs.not_mem_of_waiting (by omega)
      cases hp
      split
      · rw [registered_modifyChannel]
        exact h
      · exact insert_ascending hnew h
    | remove i =>
      unfold perform at hp
      simp only at hp
      split at hp <;> cases hp
      · exact h.sublist (registered_unregister_sublist { r with waiters } [i])
      · exact h
    | broadcast item | count =>
      cases hp
      exact h
    | stopAll =>
      cases hp
      exact h.sublist (registered_unregister_sublist { r with waiters } r.registered)
  | deliver d i c c' hd hr hc ho => exact (registered_modifyChannel r i _).symm ▸ h
  | finish d hd hr => exact h.sublist (registered_unregister_sublist r d.lost)
  | cancel task => exact (keeps_cancel task).2.symm ▸ h
  | receive i | drop i => exact (registered_modifyChannel r i _).symm ▸ h

/-! ## 2. Broadcasts that hold the lock -/

/-- **How a broadcast holds the lock after a step**: it gets the lock, or had it, and is through
with the subscriber that it waited for, or with none. -/
inductive Carried (r : Registry τ α) (move : Move τ α) (d' : Delivery τ α) : Prop where
  | begins (hm : move = .grant) (hh : r.holder = none) (rest : List (τ × Request α))
      (hw : r.waiters = (d'.task, .broadcast d'.item) :: rest) (hall : d'.remaining = r.registered)
  | stays (hd : r.holder = some d') (hs : ∀ id, r.served? id move = none)
  | through (d : Delivery τ α) (i : SubscriberId) (fate : Fate) (hd : r.holder = some d)
      (ht : d'.task = d.task) (hi : d'.item = d.item) (hr : d.remaining = i :: d'.remaining)
      (hs : ∀ id, r.served? id move = if i = id then some (d.item, fate) else none)

theorem carried_of_effect (he : r.Effect now move r' os) (hd' : r'.holder = some d') :
    Carried r move d' := by
  have hnone : (∀ o, move.fate? o = none) → ∀ id, r.served? id move = none :=
    fun hf _ => served?_of_fate hf
  cases he with
  | draw => exact .stays hd' (hnone fun _ => rfl)
  | ask task request _ ha => exact .stays ((keeps_ask ha).2.2 ▸ hd') (hnone fun _ => rfl)
  | grant task request waiters _ _ hh hw hp =>
    obtain ⟨⟨item, rfl⟩, -, hrem, -⟩ := holder_perform (r := { r with waiters }) hh hp hd'
    cases hp
    cases hd'
    exact .begins rfl hh waiters hw rfl
  | deliver d i c c' hd hr hc ho =>
    cases hd'
    obtain ⟨rest, hrem⟩ := List.head?_eq_some_iff.mp hr
    refine .through d i .accepted hd rfl rfl ?_ fun id =>
      served?_of_through hd hr hc (by rw [ho]; rfl)
    rw [Delivery.next, hrem, List.tail_cons]
  | lose d i c hd hr hc ho =>
    cases hd'
    obtain ⟨rest, hrem⟩ := List.head?_eq_some_iff.mp hr
    refine .through d i .refused hd rfl rfl ?_ fun id =>
      served?_of_through hd hr hc (by rw [ho]; rfl)
    rw [Delivery.next, hrem, List.tail_cons]
  | skip timeout d i c hp hd hr hc ho ht =>
    cases hd'
    obtain ⟨rest, hrem⟩ := List.head?_eq_some_iff.mp hr
    refine .through d i .skipped hd rfl rfl ?_ fun id =>
      served?_of_through hd hr hc (by rw [ho]; rfl)
    rw [Delivery.next, hrem, List.tail_cons]
  | finish => cases hd'
  | cancel task =>
    rw [(cancel_frame r task).2, Option.filter_eq_some_iff] at hd'
    exact .stays hd'.1 (hnone fun _ => rfl)
  | receive i | drop i =>
    rw [holder_modifyChannel] at hd'
    exact .stays hd' (hnone fun _ => rfl)

end Step

/-- A broadcast gets the lock with a step. -/
structure BeginsWith (d : Delivery τ α) (t : Step τ α) : Prop where
  move : t.move = .grant
  free : t.before.holder = none
  asked : ∃ rest, t.before.waiters = (d.task, .broadcast d.item) :: rest

/-- **How far a broadcast has come** since it got the lock: it is through with some of the
registered subscribers, once with each, and the others are ahead. -/
structure Halfway (d : Delivery τ α) (since : List (Step τ α)) (treated : List SubscriberId)
    (r : Registry τ α) : Prop where
  order : treated ++ d.remaining = r.registered
  behind : ∀ id ∈ treated, ∃ fate, served id since = [(d.item, fate)]
  ahead : ∀ id, id ∉ treated → served id since = []
  warned : ∀ id, warnings id since = (served id since).countP isSkipped

section Step

variable [DecidableEq τ] {now : Nat} {r r' : Registry τ α} {move : Move τ α}
  {os : List (Outcome τ)} {d d' : Delivery τ α} {since : List (Step τ α)}
  {treated : List SubscriberId}

theorem Halfway.warned_snoc (h : Halfway d since treated r) (he : r.Effect now move r' os)
    (id : SubscriberId) : warnings id (since ++ [⟨now, r, move, r', os⟩]) =
      (served id (since ++ [⟨now, r, move, r', os⟩])).countP isSkipped := by
  rw [warnings_snoc, served_snoc, List.countP_append, h.warned, warns_of_effect he]

theorem Halfway.stays (h : Halfway d since treated r) (he : r.Effect now move r' os)
    (hd' : r'.holder = some d) (hs : ∀ id, r.served? id move = none) :
    Halfway d (since ++ [⟨now, r, move, r', os⟩]) treated r' := by
  have hserved : ∀ id, served id (since ++ [⟨now, r, move, r', os⟩]) = served id since := by
    intro id
    rw [served_snoc]
    show served id since ++ (r.served? id move).toList = served id since
    rw [hs, Option.toList_none, List.append_nil]
  refine ⟨?_, fun id hid => ?_, fun id hid => ?_, h.warned_snoc he⟩
  · rw [registered_of_held he hd', h.order]
  · rw [hserved]
    exact h.behind id hid
  · rw [hserved]
    exact h.ahead id hid

theorem Halfway.through (h : Halfway d since treated r) (hsound : Sound r)
    (he : r.Effect now move r' os) (hd' : r'.holder = some d') (hi : d'.item = d.item)
    {i : SubscriberId} {fate : Fate} (hr : d.remaining = i :: d'.remaining)
    (hs : ∀ id, r.served? id move = if i = id then some (d.item, fate) else none) :
    Halfway d' (since ++ [⟨now, r, move, r', os⟩]) (treated ++ [i]) r' := by
  -- ids are registered once: the broadcast was not through with this one
  have hnew : i ∉ treated := by
    have hnodup := hsound.registered_nodup
    rw [← h.order, hr, List.nodup_append] at hnodup
    exact fun hi => hnodup.2.2 i hi i List.mem_cons_self rfl
  have hserved : ∀ id, served id (since ++ [⟨now, r, move, r', os⟩]) =
      served id since ++ (if i = id then some (d.item, fate) else none).toList := by
    intro id
    rw [served_snoc, ← hs]
  refine ⟨?_, fun id hid => ?_, fun id hid => ?_, h.warned_snoc he⟩
  · rw [registered_of_held he hd', ← h.order, hr, List.append_assoc, List.singleton_append]
  · rw [hserved, hi]
    by_cases hid' : i = id
    · subst hid'
      rw [h.ahead i hnew, if_pos rfl]
      exact ⟨fate, rfl⟩
    · have hmem : id ∈ treated := by simpa [Ne.symm hid'] using hid
      rw [if_neg hid', Option.toList_none, List.append_nil]
      exact h.behind id hmem
  · rw [List.mem_append, not_or, List.mem_singleton] at hid
    rw [hserved, if_neg (Ne.symm hid.2), Option.toList_none, List.append_nil]
    exact h.ahead id hid.1

end Step

/-! ## 3. Courses -/

section Runs

variable [DecidableEq τ] {buffer start now : Nat} {policy : DeliveryPolicy}
  {ts : List (Step τ α)} {r r' : Registry τ α} {d : Delivery τ α}

theorem ascending_of_course
    (h : Course Registry.step start (Registry.new buffer policy) ts now r) :
    r.registered.Pairwise (· < ·) := by
  induction h with
  | start => exact .nil
  | wait _ _ ih => exact ih
  | step h hs ih => exact ascending_of_effect ih (living_of_course h).sound (effect_of_step hs)

/-- **A broadcast that holds the lock is halfway**, since the step with which it got it. -/
theorem halfway_of_course
    (h : Course Registry.step start (Registry.new buffer policy) ts now r)
    (hd : r.holder = some d) :
    ∃ front t since treated, ts = front ++ t :: since ∧ BeginsWith d t ∧
      Halfway d since treated r := by
  induction h generalizing d with
  | start => cases hd
  | wait _ _ ih => exact ih hd
  | @step ts now r r' move os h hs ih =>
    have he := effect_of_step hs
    cases carried_of_effect he hd with
    | begins hm hh rest hw hall =>
      refine ⟨ts, ⟨now, r, move, r', os⟩, [], [], rfl, ⟨hm, hh, rest, hw⟩, ?_, ?_, ?_, ?_⟩
      · rw [registered_of_held he hd, List.nil_append, hall]
      · exact fun id hid => absurd hid List.not_mem_nil
      · exact fun id _ => rfl
      · exact fun id => rfl
    | stays hd₀ hserved =>
      obtain ⟨front, t, since, treated, rfl, hbegins, hhalf⟩ := ih hd₀
      exact ⟨front, t, since ++ [⟨now, r, move, r', os⟩], treated, by simp, hbegins,
        hhalf.stays he hd hserved⟩
    | through d₀ i fate hd₀ htask hitem hr hserved =>
      obtain ⟨front, t, since, treated, rfl, hbegins, hhalf⟩ := ih hd₀
      refine ⟨front, t, since ++ [⟨now, r, move, r', os⟩], treated ++ [i], by simp, ?_,
        hhalf.through (living_of_course h).sound he hd hitem hr hserved⟩
      refine ⟨hbegins.move, hbegins.free, ?_⟩
      rw [htask, hitem]
      exact hbegins.asked

/-! ## 4. What is left of a cancelled task -/

/-- **What a task leaves as it is that is cancelled.** -/
structure LeavesBe (task : τ) (ts : List (Step τ α)) (r r' : Registry τ α) : Prop where
  registered : r'.registered = r.registered
  stopped : r'.stopped = r.stopped
  /-- The other tasks wait on, in their order. -/
  queue : r'.waiters = r.waiters.filter fun w => !decide (w.1 = task)
  /-- Another task keeps the lock. -/
  lock : (∀ d, r.holder = some d → d.task ≠ task) → r'.holder = r.holder
  channels : ∀ id, (task, .subscribe id) ∉ r.waiters → r'.channel? id = r.channel? id
  /-- Only a subscription goes that the task waited for itself; no one has it. -/
  unborn : ∀ id, (task, .subscribe id) ∈ r.waiters → id ∉ r.registered ∧ id ∉ handedOut ts

/-- **What became of the item at a subscriber that the broadcast was through with.** -/
inductive Treated (id : SubscriberId) (item : α) (since : List (Step τ α)) (r : Registry τ α) :
    Prop where
  | accepted (h : served id since = [(item, .accepted)]) (hw : warnings id since = 0)
  | skipped (h : served id since = [(item, .skipped)]) (hw : warnings id since = 1)
  /-- The receiver was gone. -/
  | gone (c : Channel α) (h : served id since = [(item, .refused)]) (hw : warnings id since = 0)
      (hc : r.channel? id = some c) (hdead : c.receiverAlive = false)

/-- **A subscriber did not get the item**, and is there for the broadcasts to come. -/
structure Missed (id : SubscriberId) (since : List (Step τ α)) (r r' : Registry τ α) : Prop where
  unserved : served id since = []
  unwarned : warnings id since = 0
  registered : id ∈ r'.registered
  opened : ∃ c, r.channel? id = some c ∧ r'.channel? id = some c ∧ c.senderAlive = true

/-- **What a broadcast leaves that is cancelled**: the lock, which the next task can get, and the
registered subscribers, of which it has treated a first part. -/
structure BrokenOff (d : Delivery τ α) (ts : List (Step τ α)) (r r' : Registry τ α) : Prop where
  lock : r'.holder = none
  next : ∀ task request rest, r'.waiters = (task, request) :: rest → ∀ at_,
    r'.step at_ .grant = some ({ r' with waiters := rest }.perform at_ task request)
  parts : ∃ front t since treated, ts = front ++ t :: since ∧ BeginsWith d t ∧
    treated ++ d.remaining = r.registered ∧
    (∀ id ∈ treated, Treated id d.item since r) ∧
    ∀ id ∈ d.remaining, Missed id since r r'

omit [DecidableEq τ] in
/-- What a broadcast is through with is as its fate says. -/
theorem Halfway.treated {front since : List (Step τ α)} {t : Step τ α} {treated : List SubscriberId}
    (h : Halfway d since treated r) (hb : Booked policy (front ++ t :: since) r)
    {id : SubscriberId} (hc : r.channel? id ≠ none) (hid : id ∈ treated) :
    Treated id d.item since r := by
  obtain ⟨fate, hserved⟩ := h.behind id hid
  have hwarned := h.warned id
  rw [hserved] at hwarned
  cases fate with
  | accepted => exact .accepted hserved hwarned
  | skipped => exact .skipped hserved hwarned
  | refused =>
    obtain ⟨c, hc⟩ := Option.ne_none_iff_exists'.mp hc
    refine .gone c hserved hwarned hc (Bool.eq_false_iff.mpr fun halive => ?_)
    refine (hb.account id c hc).kept halive d.item ?_
    have hall : served id (front ++ t :: since) =
        served id (front ++ [t]) ++ served id since := by
      rw [List.append_cons]
      exact List.filterMap_append
    rw [hall, hserved]
    exact List.mem_append_right _ List.mem_cons_self

/-- The subscriptions that a task waits for are those among its requests. -/
theorem subscribe_mem_waiters_iff (r : Registry τ α) (task : τ) (id : SubscriberId) :
    (task, Request.subscribe id) ∈ r.waiters ↔
      id ∈ (r.waiters.filter fun w => decide (w.1 = task)).filterMap fun w => w.2.subscribes? := by
  rw [List.mem_filterMap]
  constructor
  · intro hmem
    exact ⟨(task, .subscribe id), List.mem_filter.mpr ⟨hmem, decide_eq_true rfl⟩, rfl⟩
  · rintro ⟨⟨other, request⟩, hgone, hsub⟩
    obtain ⟨hmem, ho⟩ := List.mem_filter.mp hgone
    cases of_decide_eq_true ho
    cases request with
    | subscribe i =>
      cases hsub
      exact hmem
    | remove | broadcast | stopAll | count => cases hsub

/-- **A task that is cancelled leaves everything else be**, wherever it waits. -/
theorem leavesBe_cancel (h : Living ts r) (task : τ) : LeavesBe task ts r (r.cancel task) := by
  have hstopped : (r.cancel task).stopped = r.stopped := by rw [cancel_only]
  refine ⟨(keeps_cancel task).2, hstopped, (cancel_frame r task).1, fun hno => ?_,
    fun id hid => ?_, fun id hid => ?_⟩
  · rw [(cancel_frame r task).2]
    cases hd : r.holder with
    | none => rfl
    | some d => rw [Option.filter_some, if_pos (by simpa using hno d hd)]
  · rw [channel?_cancel, if_neg (mt (subscribe_mem_waiters_iff r task id).mpr hid)]
  · have hpos : 0 < r.waiting id := by
      have hcount := List.count_pos_iff.mpr ((subscribe_mem_waiters_iff r task id).mp hid)
      rw [waiting_cancel r task id]
      omega
    refine ⟨h.sound.not_mem_of_waiting hpos, fun hout => ?_⟩
    rw [(h.out id hout).1] at hpos
    cases hpos

/-- **A cancelled task takes nothing with it but its requests and its lock.** In every state that a
registry reaches, whichever task is cancelled: the registered subscribers, all channels that anyone
has, the other waiting tasks and the end of subscriptions stay as they are. A broadcast that waited
at a subscriber has served those before it, in the ascending order of their ids, and gives back the
lock. -/
theorem cancellation_is_safe
    (h : Course Registry.step start (Registry.new buffer policy) ts now r) {task : τ}
    {os : List (Outcome τ)} (hs : r.step now (.cancel task) = some (r', os)) :
    os = [] ∧ LeavesBe task ts r r' ∧ r.registered.Pairwise (· < ·) ∧
      ∀ d id rest, r.holder = some d → d.task = task → d.remaining = id :: rest →
        BrokenOff d ts r r' := by
  cases hs
  have hliving := living_of_course h
  have hleaves := leavesBe_cancel hliving task
  refine ⟨rfl, hleaves, ascending_of_course h, fun d id rest hd htask hr => ?_⟩
  obtain ⟨front, t, since, treated, rfl, hbegins, hhalf⟩ := halfway_of_course h hd
  have hreg : ∀ i ∈ r.registered, 0 < r.places i := fun i hi =>
    Nat.add_pos_right _ (List.count_pos_iff.mpr hi)
  have hlock : (r.cancel task).holder = none := by
    rw [(cancel_frame r task).2, hd, Option.filter_some, htask]
    simp
  refine ⟨hlock, fun other request rest hw at_ => ?_, front, t, since, treated, rfl, hbegins,
    hhalf.order, fun i hi => ?_, fun i hi => ?_⟩
  · show (r.cancel task).grant at_ = _
    rw [grant, hlock, hw]
  · have hmem : i ∈ r.registered := hhalf.order ▸ List.mem_append_left _ hi
    exact hhalf.treated (booked_of_course h) (hliving.tied.drawn hliving.sound (hreg i hmem)) hi
  · have hmem : i ∈ r.registered := hhalf.order ▸ List.mem_append_right _ hi
    have hahead : i ∉ treated := by
      have hnodup := hliving.sound.registered_nodup
      rw [← hhalf.order, List.nodup_append] at hnodup
      exact fun ht => hnodup.2.2 i ht i hi rfl
    have hserved := hhalf.ahead i hahead
    have hwarned := hhalf.warned i
    rw [hserved] at hwarned
    obtain ⟨c, hc⟩ := Option.ne_none_iff_exists'.mp
      (hliving.tied.drawn hliving.sound (hreg i hmem))
    refine ⟨hserved, hwarned, hleaves.registered ▸ hmem, c, hc, ?_,
      (hliving.tied.senders i c hc).mpr (.inr hmem)⟩
    rw [hleaves.channels i fun hw => (hleaves.unborn i hw).1 hmem, hc]

end Runs

/-- A broadcast to three subscribers is cancelled at the last: the first has taken the item, the
second has no receiver any more, and a task that subscribes is next to get the lock. -/
theorem cancellation_is_safe_halfway :
    ∃ (ts : List (Step String Nat)) (r r' : Registry String Nat) (d : Delivery String Nat),
      Course Registry.step 0 (Registry.new 1 .block) ts 4 r ∧
      r.step 4 (.cancel "sender") = some (r', []) ∧ r.holder = some d ∧ d.remaining = [3] ∧
      LeavesBe "sender" ts r r' ∧ BrokenOff d ts r r' ∧ r'.registered = [1, 2, 3] ∧
      r'.waiters = [("d", .subscribe 4)] := by
  have h : Course Registry.step 0 (Registry.new 1 .block : Registry String Nat) _ _ _ :=
    course_of_drive [(0, .draw), (0, .ask "a" (.subscribe 1)), (0, .grant), (0, .draw),
      (0, .ask "b" (.subscribe 2)), (0, .grant), (0, .draw), (0, .ask "c" (.subscribe 3)),
      (0, .grant), (1, .ask "other" (.broadcast 7)), (1, .grant), (1, .deliver), (1, .deliver),
      (1, .deliver), (1, .finish), (2, .receive 1), (2, .drop 2),
      (3, .ask "sender" (.broadcast 8)), (3, .grant), (3, .deliver), (3, .deliver),
      (4, .draw), (4, .ask "d" (.subscribe 4))] rfl
  obtain ⟨-, hleaves, -, hbroken⟩ :=
    @cancellation_is_safe String Nat _ 1 0 _ .block _ _ _ h "sender" [] rfl
  exact ⟨_, _, _, _, h, rfl, rfl, rfl, hleaves, hbroken _ 3 [] rfl rfl rfl, rfl, rfl⟩

end Vitals.Registry
