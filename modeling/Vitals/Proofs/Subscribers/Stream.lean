import Mathlib.Data.List.Infix
import Vitals.Proofs.Subscribers.Lifetime

/-!
# What subscribers get of one task's broadcasts

A registry serves any number of tasks. When only one of them broadcasts, and goes on until it is
cancelled, its items get the lock in the order in which it asks, and a subscriber is served those
that get it while the subscriber is registered, the one under way excepted when the task is
cancelled. This file fixes

* the histories of a course: the items that tasks asked to broadcast, and those that got the lock;
* `OnlyOf`, the registries in which one task broadcasts, and `Streams`, the invariant of a course on
  which it does;
* `Channel.Yields`, what a receiver still gets from a channel before its end.

Main statement: a subscriber that keeps its receiver, and is never skipped, gets a run of these items
without a gap (`accepted_infix_asked`).
-/

namespace Vitals

/-! ## 1. To the end of a channel -/

/-- A receiver gets these items from a channel, and then its end. -/
inductive Channel.Yields {α : Type} : Channel α → List α → Prop where
  | ended {c : Channel α} (h : c.poll = .ended) : Yields c []
  | item {c rest : Channel α} {a : α} {as : List α} (h : c.poll = .item a rest)
      (hrest : Yields rest as) : Yields c (a :: as)

/-- A channel without a sender yields what is buffered in it. -/
theorem Channel.yields_of_closed {α : Type} {c : Channel α} (h : c.senderAlive = false) :
    c.Yields c.items := by
  obtain ⟨capacity, items, sender, receiver⟩ := c
  cases h
  induction items with
  | nil => exact .ended rfl
  | cons a items ih => exact .item rfl ih

namespace Registry

variable {τ α : Type}

/-! ## 2. Histories -/

def Request.item? : Request α → Option α
  | .broadcast item => some item
  | _ => none

/-- The task and the request that a move puts into the queue. -/
def Move.waiter? : Move τ α → Option (τ × Request α)
  | .ask task request => some (task, request)
  | _ => none

/-- The task that gets the lock with a move, and its request. -/
def grantedWaiter? (r : Registry τ α) : Move τ α → Option (τ × Request α)
  | .grant => r.waiters.head?
  | _ => none

/-- The items that wait to be broadcast. -/
def queued (r : Registry τ α) : List α :=
  r.waiters.filterMap fun w => w.2.item?

/-- The items that tasks asked to broadcast. -/
def asked (ts : List (Step τ α)) : List α :=
  ts.filterMap fun t => t.move.waiter?.bind fun w => w.2.item?

/-- The items of the broadcasts that got the lock. -/
def broadcast (ts : List (Step τ α)) : List α :=
  ts.filterMap fun t => (t.before.granted? t.move).bind Request.item?

/-- One task broadcasts, and no other. -/
structure OnlyOf (p : τ) (r : Registry τ α) : Prop where
  waiting : ∀ task item, (task, .broadcast item) ∈ r.waiters → task = p
  holding : ∀ d, r.holder = some d → d.task = p

section

variable {r : Registry τ α} {id : SubscriberId} {move : Move τ α}

theorem granted?_eq : r.granted? move = (r.grantedWaiter? move).map Prod.snd := by
  cases move <;> rfl

/-- A broadcast begins for those that are registered. -/
theorem begun?_eq : r.begun? id move =
    if id ∈ r.registered then (r.granted? move).bind Request.item? else none := by
  cases move with
  | grant =>
    unfold begun? granted?
    cases r.waiters with
    | nil => exact (ite_self none).symm
    | cons w waiters =>
      obtain ⟨task, request⟩ := w
      cases request with
      | broadcast item => rfl
      | subscribe | remove | stopAll | count => exact (ite_self none).symm
  | draw | ask | deliver | skip | finish | cancel | receive | drop => exact (ite_self none).symm

end

/-! ## 3. Steps -/

section Step

variable [DecidableEq τ] {now : Nat} {r r' : Registry τ α} {move : Move τ α}
  {os : List (Outcome τ)} {id : SubscriberId} {p : τ}

/-- The queue is first in, first out, unless a task is cancelled. -/
theorem waiters_of_effect (he : r.Effect now move r' os) (hm : ∀ task, move ≠ .cancel task) :
    (r.grantedWaiter? move).toList ++ r'.waiters = r.waiters ++ move.waiter?.toList := by
  cases he with
  | draw | lose | skip => exact (List.append_nil _).symm
  | ask task request _ ha =>
    unfold ask at ha
    split at ha
    · split at ha <;> cases ha
      rfl
    · cases ha
      rfl
  | grant task request waiters _ _ hh hw hp =>
    have hw' : r'.waiters = waiters := by
      rcases requestsOf_perform (r := { r with waiters }) hh hp with
        ⟨-, -, -, hw', -⟩ | ⟨-, -, -, hw', -⟩ <;> exact hw'
    rw [hw', grantedWaiter?, hw]
    exact (List.append_nil _).symm
  | deliver d i c c' hd hr hc ho =>
    exact (waiters_modifyChannel r i _).trans (List.append_nil _).symm
  | finish d hd hr => exact (unregister_frame r d.lost).1.trans (List.append_nil _).symm
  | cancel task => exact absurd rfl (hm task)
  | receive i | drop i => exact (waiters_modifyChannel r i _).trans (List.append_nil _).symm

theorem queued_of_effect (he : r.Effect now move r' os) (hm : ∀ task, move ≠ .cancel task) :
    ((r.granted? move).bind Request.item?).toList ++ r'.queued =
      r.queued ++ (move.waiter?.bind fun w => w.2.item?).toList := by
  have hitems := congrArg (List.filterMap fun w : τ × Request α => w.2.item?)
    (waiters_of_effect he hm)
  have hone : ∀ o : Option (τ × Request α), o.toList.filterMap (fun w => w.2.item?) =
      (o.bind fun w => w.2.item?).toList := by
    intro o
    cases o with
    | none => rfl
    | some w =>
      obtain ⟨task, request⟩ := w
      cases request <;> rfl
  rw [List.filterMap_append, List.filterMap_append, hone, hone] at hitems
  rw [granted?_eq, Option.bind_map]
  exact hitems

/-- A broadcast that holds the lock held it before, or has waited for it. -/
theorem holder_task_of_effect {d' : Delivery τ α} (he : r.Effect now move r' os)
    (hd' : r'.holder = some d') : (∃ d, r.holder = some d ∧ d.task = d'.task) ∨
      r.grantedWaiter? move = some (d'.task, .broadcast d'.item) := by
  cases he with
  | draw => exact .inl ⟨d', hd', rfl⟩
  | ask task request _ ha => exact .inl ⟨d', (keeps_ask ha).2.2 ▸ hd', rfl⟩
  | grant task request waiters _ _ hh hw hp =>
    obtain ⟨⟨item, rfl⟩, -⟩ := holder_perform (r := { r with waiters }) hh hp hd'
    cases hp
    cases hd'
    refine .inr ?_
    rw [grantedWaiter?, hw]
    rfl
  | deliver d i c c' hd hr hc ho =>
    cases hd'
    exact .inl ⟨d, hd, rfl⟩
  | lose d i c hd hr hc ho =>
    cases hd'
    exact .inl ⟨d, hd, rfl⟩
  | skip timeout d i c hp hd hr hc ho ht =>
    cases hd'
    exact .inl ⟨d, hd, rfl⟩
  | finish => cases hd'
  | cancel task =>
    rw [(cancel_frame r task).2, Option.filter_eq_some_iff] at hd'
    exact .inl ⟨d', hd'.1, rfl⟩
  | receive i | drop i =>
    rw [holder_modifyChannel] at hd'
    exact .inl ⟨d', hd', rfl⟩

omit [DecidableEq τ] in
theorem mem_waiters_of_granted {w : τ × Request α} (h : r.grantedWaiter? move = some w) :
    w ∈ r.waiters := by
  cases move with
  | grant => exact List.mem_of_head? h
  | draw | ask | deliver | skip | finish | cancel | receive | drop => cases h

/-- No other task broadcasts when no other asks to. -/
theorem OnlyOf.step (h : OnlyOf p r) (he : r.Effect now move r' os)
    (hask : ∀ task item, move = .ask task (.broadcast item) → task = p) : OnlyOf p r' where
  waiting task item hmem := by
    by_cases hcancel : ∃ other, move = .cancel other
    · obtain ⟨other, rfl⟩ := hcancel
      cases he
      rw [(cancel_frame r other).1] at hmem
      exact h.waiting task item (List.mem_of_mem_filter hmem)
    · have hqueue := waiters_of_effect he fun other e => hcancel ⟨other, e⟩
      have hmem' : (task, .broadcast item) ∈ r.waiters ++ move.waiter?.toList :=
        hqueue ▸ List.mem_append_right _ hmem
      rcases List.mem_append.mp hmem' with hold | hnew
      · exact h.waiting task item hold
      · refine hask task item ?_
        rw [Option.mem_toList] at hnew
        cases move with
        | ask other request =>
          cases hnew
          rfl
        | draw | grant | deliver | skip | finish | cancel | receive | drop => cases hnew
  holding d' hd' := by
    rcases holder_task_of_effect he hd' with ⟨d, hd, hsame⟩ | hw
    · rw [← hsame]
      exact h.holding d hd
    · exact h.waiting _ _ (mem_waiters_of_granted hw)

/-- When the task that broadcasts is cancelled, no broadcast is left. -/
theorem OnlyOf.cancel (h : OnlyOf p r) :
    (r.cancel p).queued = [] ∧ (r.cancel p).holder = none := by
  obtain ⟨hw, hh⟩ := cancel_frame r p
  constructor
  · rw [queued, hw, List.filterMap_eq_nil_iff]
    intro w hmem
    obtain ⟨hmem, hne⟩ := List.mem_filter.mp hmem
    obtain ⟨task, request⟩ := w
    cases request with
    | broadcast item =>
      have htask := h.waiting task item hmem
      simp [htask] at hne
    | subscribe | remove | stopAll | count => rfl
  · rw [hh]
    cases hd : r.holder with
    | none => rfl
    | some d =>
      rw [Option.filter_some, decide_eq_true (h.holding d hd)]
      rfl

/-- Another task that is cancelled broadcasts nothing. -/
theorem OnlyOf.cancelsBroadcast (h : OnlyOf p r) (hm : move ≠ .cancel p) :
    r.cancelsBroadcast move = false := by
  cases move with
  | cancel other =>
    have hne : other ≠ p := fun e => hm (e ▸ rfl)
    rw [Registry.cancelsBroadcast]
    cases hd : r.holder with
    | none => rfl
    | some d =>
      rw [Option.any_some, h.holding d hd]
      exact decide_eq_false hne.symm
  | draw | ask | grant | deliver | skip | finish | receive | drop => rfl

theorem OnlyOf.queued_of_cancel {other : τ} (h : OnlyOf p r) (hne : other ≠ p) :
    (r.cancel other).queued = r.queued := by
  have hsame : ∀ waiters : List (τ × Request α),
      (∀ task item, (task, .broadcast item) ∈ waiters → task = p) →
      (waiters.filter fun w => !decide (w.1 = other)).filterMap (fun w => w.2.item?) =
        waiters.filterMap fun w => w.2.item? := by
    intro waiters hall
    rw [List.filterMap_filter]
    refine List.filterMap_congr fun w hmem => ?_
    obtain ⟨task, request⟩ := w
    cases request with
    | broadcast item =>
      have htask := hall task item hmem
      simp [htask, hne.symm]
    | subscribe | remove | stopAll | count => simp [Request.item?]
  rw [queued, (cancel_frame r other).1]
  exact hsame r.waiters h.waiting

end Step

/-! ## 4. Runs -/

/-- **What a subscriber is served of the broadcasts that get the lock.** -/
structure Spans (ts : List (Step τ α)) (r : Registry τ α) : Prop where
  /-- While it is registered, all since it came, -/
  registered : ∀ id ∈ r.registered, begun id ts <:+ broadcast ts
  /-- before that, none, -/
  before : ∀ id, 0 < r.waiting id ∨ r.channel? id = none → begun id ts = []
  /-- and in any case a run of them without a gap. -/
  always : ∀ id, begun id ts <:+: broadcast ts

/-- **What becomes of the items of a task that is the only one to broadcast.** -/
structure Streams (p : τ) (ts : List (Step τ α)) (r : Registry τ α) : Prop where
  only : OnlyOf p r
  /-- Until it is cancelled, all of them get the lock and are served. -/
  going : (∀ t ∈ ts, t.move ≠ .cancel p) → broadcast ts ++ r.queued = asked ts ∧
    ∀ id, (served id ts).map Prod.fst ++ r.owed id = begun id ts
  /-- Then those that have not come to their end are given up. -/
  cancelled : (∃ t ∈ ts, t.move = .cancel p) → r.queued = [] ∧ r.holder = none ∧
    broadcast ts <+: asked ts ∧ ∀ id, (served id ts).map Prod.fst <+: begun id ts

section Runs

variable [DecidableEq τ] {buffer start now : Nat} {policy : DeliveryPolicy} {p : τ}
  {ts : List (Step τ α)} {r r' : Registry τ α} {move : Move τ α} {os : List (Outcome τ)}

omit [DecidableEq τ] in
theorem broadcast_snoc (t : Step τ α) : broadcast (ts ++ [t]) =
    broadcast ts ++ ((t.before.granted? t.move).bind Request.item?).toList :=
  filterMap_snoc _ ts t

omit [DecidableEq τ] in
theorem asked_snoc (t : Step τ α) :
    asked (ts ++ [t]) = asked ts ++ (t.move.waiter?.bind fun w => w.2.item?).toList :=
  filterMap_snoc _ ts t

omit [DecidableEq τ] in
theorem spans_new : Spans ([] : List (Step τ α)) (Registry.new buffer policy) where
  registered _ _ := List.suffix_refl _
  before _ _ := rfl
  always _ := List.infix_refl _

theorem spans_step (h : Spans ts r) (hs : Sound r) (ht : Tied r) (he : r.Effect now move r' os) :
    Spans (ts ++ [⟨now, r, move, r', os⟩]) r' := by
  have hbegun : ∀ id, begun id (ts ++ [⟨now, r, move, r', os⟩]) = begun id ts ++
      (if id ∈ r.registered then (r.granted? move).bind Request.item? else none).toList :=
    fun id => (begun_snoc id ts _).trans (by rw [begun?_eq])
  have hnone : ∀ id, 0 < r.waiting id ∨ r.channel? id = none → id ∉ r.registered := by
    rintro id (hw | hc) hmem
    · exact hs.not_mem_of_waiting hw hmem
    · exact ht.drawn hs (Nat.add_pos_right _ (List.count_pos_iff.mpr hmem)) hc
  refine ⟨fun id hid => ?_, fun id hid => ?_, fun id => ?_⟩
  · rw [hbegun, broadcast_snoc]
    rcases (mem_registered_of_effect hs he).mp hid with ⟨hg, -⟩ | ⟨hmem, -⟩
    · -- it comes now, and the request that gets the lock is its own
      have hw : 0 < r.waiting id := waiting_of_subscribe he hg ▸ Nat.succ_pos _
      rw [h.before id (.inl hw), if_neg (hs.not_mem_of_waiting hw)]
      exact List.nil_suffix
    · obtain ⟨early, hearly⟩ := h.registered id hmem
      rw [if_pos hmem, ← hearly]
      exact ⟨early, (List.append_assoc ..).symm⟩
  · have hid' : 0 < r.waiting id ∨ r.channel? id = none := by
      by_cases hc : r.channel? id = none
      · exact .inr hc
      · rcases hid with hw | hc'
        · exact .inl (Nat.lt_of_lt_of_le hw (waiting_of_effect he hc))
        · exact absurd (undrawn_of_effect he hc') hc
    rw [hbegun, h.before id hid', if_neg (hnone id hid')]
    rfl
  · rw [hbegun, broadcast_snoc]
    by_cases hmem : id ∈ r.registered
    · obtain ⟨early, hearly⟩ := h.registered id hmem
      rw [if_pos hmem, ← hearly]
      exact ⟨early, [], by simp⟩
    · rw [if_neg hmem, Option.toList_none, List.append_nil]
      exact (h.always id).trans (List.prefix_append _ _).isInfix

omit [DecidableEq τ] in
theorem streams_new (p : τ) : Streams p ([] : List (Step τ α)) (Registry.new buffer policy) where
  only := ⟨fun _ _ h => (nomatch h), fun _ h => (nomatch h)⟩
  going _ := ⟨rfl, fun _ => rfl⟩
  cancelled h := by
    obtain ⟨t, ht, -⟩ := h
    cases ht

/-- A registry without a broadcast stays so until one is asked for. -/
theorem OnlyOf.idle (h : OnlyOf p r) (he : r.Effect now move r' os) (hq : r.queued = [])
    (hh : r.holder = none) (hmove : move ≠ .cancel p)
    (hask : ∀ task item, move ≠ .ask task (.broadcast item)) :
    (move.waiter?.bind fun w => w.2.item?) = none ∧ (r.granted? move).bind Request.item? = none ∧
      r'.queued = [] ∧ r'.holder = none := by
  have hnone : (move.waiter?.bind fun w => w.2.item?) = none := by
    cases move with
    | ask task request =>
      cases request with
      | broadcast item => exact absurd rfl (hask task item)
      | subscribe | remove | stopAll | count => rfl
    | draw | grant | deliver | skip | finish | cancel | receive | drop => rfl
  obtain ⟨hgranted, hqueued⟩ : (r.granted? move).bind Request.item? = none ∧ r'.queued = [] := by
    by_cases hcancel : ∃ other, move = .cancel other
    · obtain ⟨other, rfl⟩ := hcancel
      cases he
      exact ⟨rfl, (h.queued_of_cancel fun e => hmove (e ▸ rfl)).trans hq⟩
    · have hqueue := queued_of_effect he fun other e => hcancel ⟨other, e⟩
      rw [hq, hnone] at hqueue
      simpa using hqueue
  refine ⟨hnone, hgranted, hqueued, ?_⟩
  cases hd : r'.holder with
  | none => rfl
  | some d' =>
    rcases holder_task_of_effect he hd with ⟨d, hd', -⟩ | hw
    · rw [hh] at hd'
      cases hd'
    · rw [granted?_eq, hw] at hgranted
      cases hgranted

/-- All items get the lock, in the order in which they were asked for. -/
theorem OnlyOf.order (h : OnlyOf p r) (he : r.Effect now move r' os) (hmove : move ≠ .cancel p)
    (hasked : broadcast ts ++ r.queued = asked ts) :
    broadcast (ts ++ [⟨now, r, move, r', os⟩]) ++ r'.queued =
      asked (ts ++ [⟨now, r, move, r', os⟩]) := by
  rw [broadcast_snoc, asked_snoc, ← hasked]
  by_cases hcancel : ∃ other, move = .cancel other
  · obtain ⟨other, rfl⟩ := hcancel
    cases he
    rw [h.queued_of_cancel fun e => hmove (e ▸ rfl)]
    simp [granted?, Move.waiter?]
  · have hqueue := queued_of_effect he fun other e => hcancel ⟨other, e⟩
    rw [List.append_assoc, hqueue, List.append_assoc]

/-- Whether it goes on or was cancelled, the histories are in order. -/
theorem Streams.prefixes (h : Streams p ts r) :
    broadcast ts <+: asked ts ∧ ∀ id, (served id ts).map Prod.fst <+: begun id ts := by
  by_cases hgone : ∃ t ∈ ts, t.move = .cancel p
  · exact (h.cancelled hgone).2.2
  · obtain ⟨hasked, hline⟩ := h.going fun t ht e => hgone ⟨t, ht, e⟩
    exact ⟨hasked ▸ List.prefix_append _ _, fun id => hline id ▸ List.prefix_append _ _⟩

/-- **A step keeps it**, if no other task asks to broadcast, and this one does not once it was
cancelled. -/
theorem streams_step (h : Streams p ts r) (hb : Booked policy ts r) (he : r.Effect now move r' os)
    (hask : ∀ task item, move = .ask task (.broadcast item) → task = p)
    (hlast : (∃ t ∈ ts, t.move = .cancel p) → ∀ task item, move ≠ .ask task (.broadcast item)) :
    Streams p (ts ++ [⟨now, r, move, r', os⟩]) r' := by
  refine ⟨h.only.step he hask, fun hgoing => ?_, fun hgone => ?_⟩
  · have hmove : move ≠ .cancel p := hgoing ⟨now, r, move, r', os⟩ (List.mem_concat_self ..)
    obtain ⟨hasked, hline⟩ := h.going fun t ht => hgoing t (List.mem_append_left _ ht)
    exact ⟨h.only.order he hmove hasked,
      fun id => line_step hb (hline id) he (h.only.cancelsBroadcast hmove)⟩
  · obtain ⟨hpre, hline⟩ := h.prefixes
    by_cases hmove : move = .cancel p
    · subst hmove
      cases he
      obtain ⟨hqueued, hholder⟩ := h.only.cancel
      refine ⟨hqueued, hholder, ?_, fun id => ?_⟩
      · rw [broadcast_snoc, asked_snoc]
        simpa [granted?, Move.waiter?] using hpre
      · rw [served_snoc, begun_snoc, show r.served? id (.cancel p) = none from
          served?_of_fate fun _ => rfl]
        simpa [begun?] using hline id
    · have hbefore : ∃ t ∈ ts, t.move = .cancel p := by
        obtain ⟨t, ht, hm⟩ := hgone
        rcases List.mem_append.mp ht with ht | ht
        · exact ⟨t, ht, hm⟩
        · cases List.mem_singleton.mp ht
          exact absurd hm hmove
      obtain ⟨hqueued, hholder, -, -⟩ := h.cancelled hbefore
      obtain ⟨hnone, hgranted, hqueued', hholder'⟩ :=
        h.only.idle he hqueued hholder hmove (hlast hbefore)
      refine ⟨hqueued', hholder', ?_, fun id => ?_⟩
      · rw [broadcast_snoc, asked_snoc, hgranted, hnone]
        simpa using hpre
      · have hserved : r.served? id move = none := served?_of_ne fun d hd => by
          rw [hholder] at hd
          cases hd
        rw [served_snoc, begun_snoc, hserved, begun?_eq, hgranted, ite_self]
        simpa using hline id

/-- **One task broadcasts**: no other does, and it does not once it was cancelled. -/
structure BroadcastBy (p : τ) (ts : List (Step τ α)) : Prop where
  only : ∀ t ∈ ts, ∀ task item, t.move = .ask task (.broadcast item) → task = p
  last : ts.Pairwise fun t u => t.move = .cancel p →
    ∀ task item, u.move ≠ .ask task (.broadcast item)

theorem streams_of_course (h : Course Registry.step start (Registry.new buffer policy) ts now r)
    (hp : BroadcastBy p ts) : Spans ts r ∧ Streams p ts r := by
  induction h with
  | start => exact ⟨spans_new, streams_new p⟩
  | wait _ _ ih => exact ih hp
  | step h hs ih =>
    obtain ⟨hearly, -, hlast⟩ := List.pairwise_append.mp hp.last
    obtain ⟨hspans, hstreams⟩ := ih ⟨fun t ht => hp.only t (List.mem_append_left _ ht), hearly⟩
    have hliving := living_of_course h
    have he := effect_of_step hs
    refine ⟨spans_step hspans hliving.sound hliving.tied he,
      streams_step hstreams (booked_of_course h) he (hp.only _ (List.mem_concat_self ..)) ?_⟩
    rintro ⟨t, ht, hm⟩
    exact hlast t ht _ List.mem_cons_self hm

/-- **A subscriber gets the items of the one task that broadcasts without a gap**, if it keeps its
receiver and broadcasts wait for as long as it takes: what it has received and what is buffered for
it is a run of what the task asked to broadcast. -/
theorem accepted_infix_asked
    (h : Course Registry.step start (Registry.new buffer .block) ts now r) (hp : BroadcastBy p ts)
    {id : SubscriberId} {c : Channel α} (hc : r.channel? id = some c)
    (halive : c.receiverAlive = true) : taken id ts ++ c.items <:+: asked ts := by
  obtain ⟨hspans, hstreams⟩ := streams_of_course h hp
  have hbooked := booked_of_course h
  obtain ⟨⟨gone, hline, hgone⟩, -, hkept⟩ := hbooked.account id c hc
  rw [hgone halive, List.append_nil,
    acceptedOf_eq_of_patient (hkept halive) (hbooked.patient rfl id)] at hline
  obtain ⟨hpre, hserved⟩ := hstreams.prefixes
  rw [← hline]
  exact ((hserved id).isInfix.trans (hspans.always id)).trans hpre.isInfix

end Runs

end Registry

end Vitals
