import Vitals.Proofs.Subscribers.Channels
import Vitals.Proofs.Subscribers.Registration

/-!
# Being registered and being open

A channel has a sender for as long as its id waits to be registered or is registered, and nothing
is sent to it before. This file fixes

* `Registry.SendersTied`, which channels have a sender;
* `Registry.Tied`, the invariant that ties channels to ids.

Main statements: every step keeps channels tied to ids (`tied_of_effect`), and a subscription that
comes too late is closed from the start (`ended_of_subscribe`).
-/

namespace Vitals.Registry

variable {τ α : Type}

/-! ## 1. Waiting to be registered -/

/-- The task that gets the lock has waited with its id. -/
theorem waiting_grant {r : Registry τ α} {task : τ} {request : Request α}
    {waiters : List (τ × Request α)} (hw : r.waiters = (task, request) :: waiters)
    (id : SubscriberId) :
    r.waiting id = waiting { r with waiters } id + request.subscribes?.toList.count id := by
  have hcons : r.waiters.filterMap (fun w => w.2.subscribes?) =
      request.subscribes?.toList ++ waiters.filterMap fun w => w.2.subscribes? := by
    rw [hw, List.filterMap_cons]
    cases request.subscribes? <;> rfl
  simp only [waiting, hcons, List.count_append]
  omega

theorem waiting_ask {r r' : Registry τ α} {task : τ} {request : Request α}
    (h : r.ask task request = some r') (id : SubscriberId) : r'.waiting id = r.waiting id := by
  unfold ask at h
  split at h
  · rename_i i
    split at h
    · rename_i hmem
      cases h
      have hperm := (List.perm_cons_erase (List.contains_iff_mem.mp hmem)).count_eq id
      have hsnoc : (r.waiters ++ [(task, Request.subscribe i)]).filterMap
          (fun w : τ × Request α => w.2.subscribes?) =
            r.waiters.filterMap (fun w => w.2.subscribes?) ++ [i] :=
        List.filterMap_append
      rw [List.count_cons] at hperm
      simp only [waiting, hsnoc, List.count_append, List.count_cons, List.count_nil]
      omega
    · cases h
  · rename_i hne
    cases h
    have hnone : request.subscribes? = none := by
      cases request with
      | subscribe i => exact absurd rfl (hne i)
      | remove | broadcast | stopAll | count => rfl
    simp [waiting, hnone]

theorem waiting_cancel [DecidableEq τ] (r : Registry τ α) (task : τ) (id : SubscriberId) :
    r.waiting id = (r.cancel task).waiting id +
      ((r.waiters.filter fun w => decide (w.1 = task)).filterMap
        fun w => w.2.subscribes?).count id := by
  have hperm := ((List.filter_append_perm (fun w : τ × Request α => decide (w.1 = task))
    r.waiters).filterMap fun w => w.2.subscribes?).count_eq id
  rw [List.filterMap_append, List.count_append] at hperm
  have hdrawn : (r.cancel task).drawn = r.drawn := by rw [cancel_only]
  rw [waiting, waiting, hdrawn, (cancel_frame r task).1, ← hperm]
  omega

theorem Sound.tail {r : Registry τ α} {task : τ} {request : Request α}
    {waiters : List (τ × Request α)} (h : Sound r)
    (hw : r.waiters = (task, request) :: waiters) : Sound { r with waiters } := by
  have hplaces : ∀ id, places { r with waiters } id ≤ r.places id := by
    intro id
    have hwait := waiting_grant hw id
    rw [places_eq, places_eq]
    exact Nat.add_le_add_right (Nat.le.intro hwait.symm) _
  exact ⟨fun id => Nat.le_trans (hplaces id) (h.once id),
    fun id hid => Nat.le_zero.mp (h.fresh id hid ▸ hplaces id), h.held⟩

theorem Sound.not_mem_of_waiting {r : Registry τ α} (h : Sound r) {id : SubscriberId}
    (hw : 0 < r.waiting id) : id ∉ r.registered := by
  intro hm
  have honce := h.once id
  have hcount := List.count_pos_iff.mpr hm
  rw [places_eq] at honce
  omega

/-! ## 2. Senders -/

/-- A channel has a sender for as long as its id waits to be registered or is registered. -/
def SendersTied (r : Registry τ α) : Prop :=
  ∀ id c, r.channel? id = some c → (c.senderAlive = true ↔ 0 < r.waiting id ∨ id ∈ r.registered)

section

variable {r r' : Registry τ α}

/-- What touches neither ids nor senders keeps them tied. -/
theorem SendersTied.congr (h : SendersTied r) (hw : ∀ id, r'.waiting id = r.waiting id)
    (hreg : r'.registered = r.registered)
    (hc : ∀ id c', r'.channel? id = some c' →
      ∃ c, r.channel? id = some c ∧ c'.senderAlive = c.senderAlive) : SendersTied r' := by
  intro id c' hc'
  obtain ⟨c, hc, hsame⟩ := hc id c' hc'
  rw [hsame, hw, hreg]
  exact h id c hc

theorem SendersTied.of_channels (h : SendersTied r) (hw : ∀ id, r'.waiting id = r.waiting id)
    (hreg : r'.registered = r.registered) (hc : r'.channels = r.channels) : SendersTied r' := by
  refine h.congr hw hreg fun id c' hc' => ⟨c', ?_, rfl⟩
  rw [channel?, ← hc]
  exact hc'

/-- What leaves the sender of a channel keeps it tied. -/
theorem SendersTied.modifyChannel (h : SendersTied r) {i : SubscriberId}
    {f : Channel α → Channel α}
    (hf : ∀ c, r.channel? i = some c → (f c).senderAlive = c.senderAlive) :
    SendersTied (r.modifyChannel i f) := by
  refine h.congr (waiting_modifyChannel r i · f) (registered_modifyChannel r i f)
    fun id c' hc' => ?_
  rw [channel?_modifyChannel] at hc'
  split at hc'
  · rename_i hi
    subst hi
    obtain ⟨c, hc, rfl⟩ := Option.map_eq_some_iff.mp hc'
    exact ⟨c, hc, hf c hc⟩
  · exact ⟨c', hc', rfl⟩

/-- Registered ids are taken out and their channels closed. -/
theorem SendersTied.unregister (h : SendersTied r) (hs : Sound r) {ids : List SubscriberId}
    (hids : ∀ i ∈ ids, i ∈ r.registered) : SendersTied (r.unregister ids) := by
  intro id c' hc'
  rw [waiting_unregister, mem_registered_unregister hs.registered_nodup]
  rw [channel?_unregister] at hc'
  split at hc'
  · rename_i hid
    obtain ⟨c, hc, rfl⟩ := Option.map_eq_some_iff.mp hc'
    have hnone : ¬0 < r.waiting id := fun hw => hs.not_mem_of_waiting hw (hids id hid)
    simp [Channel.closeSender, hnone, hid]
  · rename_i hid
    simpa [hid] using h id c' hc'

theorem SendersTied.cancel [DecidableEq τ] (h : SendersTied r) (hs : Sound r) (task : τ) :
    SendersTied (r.cancel task) := by
  intro id c' hc'
  have hwait := waiting_cancel r task id
  rw [(keeps_cancel task).2]
  rw [channel?_cancel] at hc'
  split at hc'
  · rename_i hid
    obtain ⟨c, hc, rfl⟩ := Option.map_eq_some_iff.mp hc'
    have hpos := List.count_pos_iff.mpr hid
    have honce := hs.once id
    rw [places_eq] at honce
    have hnone : ¬0 < (r.cancel task).waiting id := by omega
    have hnot : id ∉ r.registered := hs.not_mem_of_waiting (by omega)
    simp [Channel.closeSender, Channel.dropReceiver, hnone, hnot]
  · rename_i hid
    rw [List.count_eq_zero_of_not_mem hid, Nat.add_zero] at hwait
    rw [← hwait]
    exact h id c' hc'

theorem SendersTied.perform {now : Nat} {task : τ} {request : Request α}
    {waiters : List (τ × Request α)} {os : List (Outcome τ)} (h : SendersTied r) (hs : Sound r)
    (hw : r.waiters = (task, request) :: waiters)
    (hp : { r with waiters }.perform now task request = (r', os)) : SendersTied r' := by
  have hwait := waiting_grant hw
  cases request with
  | subscribe i =>
    have hcount : [i].count i = 1 := List.count_singleton_self
    have hi := hwait i
    have honce := hs.once i
    rw [show (Request.subscribe i : Request α).subscribes?.toList = [i] from rfl, hcount] at hi
    rw [places_eq] at honce
    have hothers : ∀ id, id ≠ i → waiting { r with waiters } id = r.waiting id := by
      intro id hne
      have hid := hwait id
      rw [show (Request.subscribe i : Request α).subscribes?.toList = [i] from rfl,
        List.count_eq_zero_of_not_mem (by simpa using hne), Nat.add_zero] at hid
      exact hid.symm
    cases hp
    split
    · -- the subscription starts closed
      intro id c' hc'
      rw [waiting_modifyChannel, registered_modifyChannel]
      rw [channel?_modifyChannel] at hc'
      split at hc'
      · rename_i hid
        subst hid
        obtain ⟨c, hc, rfl⟩ := Option.map_eq_some_iff.mp hc'
        have hnone : ¬0 < waiting { r with waiters } i := by omega
        have hnot : i ∉ r.registered := hs.not_mem_of_waiting (by omega)
        simp [Channel.closeSender, hnone, hnot]
      · rename_i hid
        rw [hothers id (Ne.symm hid)]
        exact h id c' hc'
    · intro id c' hc'
      show c'.senderAlive = true ↔
        0 < waiting { r with waiters } id ∨ id ∈ insert i r.registered
      rw [mem_insert_iff]
      have hc := h id c' hc'
      by_cases hid : id = i
      · subst hid
        have hpos : 0 < r.waiting id := by omega
        simpa [hpos] using hc
      · rw [hothers id hid]
        simpa [hid] using hc
  | remove i =>
    have hqueue : SendersTied { r with waiters } :=
      h.of_channels (fun id => (hwait id).symm) rfl rfl
    unfold Registry.perform at hp
    simp only at hp
    split at hp <;> cases hp
    · rename_i hmem
      exact hqueue.unregister (hs.tail hw) (by simpa using hmem)
    · exact hqueue
  | broadcast item | count =>
    cases hp
    exact h.of_channels (fun id => (hwait id).symm) rfl rfl
  | stopAll =>
    have hqueue : SendersTied { r with waiters } :=
      h.of_channels (fun id => (hwait id).symm) rfl rfl
    cases hp
    exact (hqueue.unregister (hs.tail hw) fun i hi => hi).of_channels (fun _ => rfl) rfl rfl

variable [DecidableEq τ] {now : Nat} {move : Move τ α} {os : List (Outcome τ)} {id : SubscriberId}

/-- **A step keeps senders tied to ids.** -/
theorem sendersTied_of_effect (h : SendersTied r) (hs : Sound r)
    (hlost : ∀ d, r.holder = some d → ∀ id ∈ d.lost, id ∈ r.registered)
    (he : r.Effect now move r' os) : SendersTied r' := by
  cases he with
  | draw =>
    intro id c' hc'
    have hwait : r.draw.waiting id = r.waiting id + [r.nextId].count id := by
      simp only [waiting, draw, List.count_append]
      omega
    rw [hwait]
    rw [channel?_draw] at hc'
    split at hc'
    · rename_i hid
      subst hid
      cases hc'
      rw [List.count_singleton_self]
      simp [Channel.new]
    · rename_i hid
      rw [List.count_eq_zero_of_not_mem (by simpa using hid), Nat.add_zero]
      exact h id c' hc'
  | ask task request _ ha =>
    refine h.of_channels (waiting_ask ha) (keeps_ask ha).2.1 ?_
    unfold ask at ha
    split at ha
    · split at ha <;> cases ha
      rfl
    · cases ha
      rfl
  | grant task request waiters _ _ hh hw hp => exact h.perform hs hw hp
  | deliver d id c c' hd hr hc ho =>
    have hsame : ∀ c₁, r.channel? id = some c₁ → c'.senderAlive = c₁.senderAlive := by
      intro c₁ hc₁
      rw [hc] at hc₁
      cases hc₁
      rw [(Channel.eq_of_offer ho).2]
    exact (h.modifyChannel hsame).of_channels (fun _ => rfl) rfl rfl
  | lose | skip => exact h.of_channels (fun _ => rfl) rfl rfl
  | finish d hd hr =>
    exact (h.unregister hs (hlost d hd)).of_channels (fun _ => rfl) rfl rfl
  | cancel task => exact h.cancel hs task
  | receive id c rest item hc hi =>
    refine h.modifyChannel fun c₁ hc₁ => ?_
    rw [hc] at hc₁
    cases hc₁
    rw [Channel.eq_of_poll hi]
  | drop id => exact h.modifyChannel fun _ _ => rfl

/-- An id that was drawn does not come to wait again. -/
theorem waiting_of_effect (he : r.Effect now move r' os) (hc : r.channel? id ≠ none) :
    r'.waiting id ≤ r.waiting id := by
  rcases keeps_of_effect he with rfl | hk
  · cases he
    have hne : id ≠ r.nextId := fun e => hc (e ▸ channel?_nextId)
    simp only [waiting, draw, List.count_append]
    rw [List.count_eq_zero_of_not_mem (l := [r.nextId]) (by simpa using hne)]
    exact Nat.le_refl _
  · exact hk.waiting id

omit [DecidableEq τ] in
/-- A broadcast gets through with registered subscribers only. -/
theorem registered_of_served (hs : Sound r) {x : α × Fate} (h : r.served? id move = some x) :
    id ∈ r.registered := by
  refine Classical.byContradiction fun hno => ?_
  have hnone : r.served? id move = none := by
    refine served?_of_ne fun d hd hr => hno ?_
    exact (hs.held d hd).subset (List.mem_of_head? hr)
  rw [hnone] at h
  cases h

/-- Nothing is sent to an id that waits to be registered. -/
theorem unused_of_effect (hs : Sound r)
    (h : ∀ id c, r.channel? id = some c → 0 < r.waiting id → c.items = [])
    (he : r.Effect now move r' os) {c' : Channel α} (hc' : r'.channel? id = some c')
    (hw : 0 < r'.waiting id) : c'.items = [] := by
  have hbefore : ∀ c, r.channel? id = some c → 0 < r.waiting id := fun c hc =>
    Nat.lt_of_lt_of_le hw (waiting_of_effect he (by simp [hc]))
  have hnot : ∀ c x, r.channel? id = some c → r.served? id move ≠ some x := fun c x hc hx =>
    hs.not_mem_of_waiting (hbefore c hc) (registered_of_served hs hx)
  have hp := passes_of_effect he hc'
  generalize hserved : r.served? id move = s at hp
  generalize r.taken? id move = t at hp
  cases hp with
  | drawn => rfl
  | fade c _ hc hf =>
    rcases hf.2 with ⟨hi, -⟩ | ⟨hi, -⟩
    · rw [hi]
      exact h id c hc (hbefore c hc)
    · exact hi
  | accept c _ a hc ho => exact absurd hserved (hnot c _ hc)
  | refuse _ a hc ho => exact absurd hserved (hnot c' _ hc)
  | skip _ a timeout hc hp ho => exact absurd hserved (hnot c' _ hc)
  | take c _ a hc hi =>
    have hitems := Channel.items_eq_of_poll hi
    rw [h id c hc (hbefore c hc)] at hitems
    cases hitems

/-- While a broadcast holds the lock, the registered ids stay as they are. -/
theorem registered_of_held {d' : Delivery τ α} (he : r.Effect now move r' os)
    (hd' : r'.holder = some d') : r'.registered = r.registered := by
  cases he with
  | draw | lose | skip => rfl
  | ask task request _ ha => exact (keeps_ask ha).2.1
  | grant task request waiters _ _ hh hw hp =>
    exact (holder_perform (r := { r with waiters }) hh hp hd').2.1
  | deliver d id c c' hd hr hc ho => exact registered_modifyChannel r id _
  | finish => cases hd'
  | cancel task => exact (keeps_cancel task).2
  | receive id | drop id => exact registered_modifyChannel r id _

/-- A broadcast has lost a subscriber when its send was refused. -/
theorem mem_lost_of_effect {d' : Delivery τ α} (he : r.Effect now move r' os)
    (hd' : r'.holder = some d') :
    id ∈ d'.lost ↔ (∃ a, r.served? id move = some (a, .refused)) ∨
      ∃ d, r.holder = some d ∧ id ∈ d.lost := by
  have hsame : r.served? id move = none → r.holder = some d' →
      (id ∈ d'.lost ↔ (∃ a, r.served? id move = some (a, .refused)) ∨
        ∃ d, r.holder = some d ∧ id ∈ d.lost) := fun hnone hd => by simp [hnone, hd]
  cases he with
  | draw => exact hsame (served?_of_fate fun _ => rfl) hd'
  | ask task request _ ha => exact hsame (served?_of_fate fun _ => rfl) ((keeps_ask ha).2.2 ▸ hd')
  | grant task request waiters _ _ hh hw hp =>
    obtain ⟨⟨item, rfl⟩, -⟩ := holder_perform (r := { r with waiters }) hh hp hd'
    cases hp
    cases hd'
    have hnone : r.served? id .grant = none := served?_of_fate fun _ => rfl
    simp [hnone, hh]
  | deliver d i c c' hd hr hc ho =>
    cases hd'
    have hthrough : r.served? id .deliver = if i = id then some (d.item, .accepted) else none :=
      served?_of_through hd hr hc (by rw [ho]; rfl)
    by_cases hi : i = id <;> simp [hthrough, hi, hd, Delivery.next]
  | lose d i c hd hr hc ho =>
    cases hd'
    have hthrough : r.served? id .deliver = if i = id then some (d.item, .refused) else none :=
      served?_of_through hd hr hc (by rw [ho]; rfl)
    by_cases hi : i = id
    · simp [hthrough, hi, hd]
    · simp [hthrough, hi, Ne.symm hi, hd]
  | skip timeout d i c hp hd hr hc ho ht =>
    cases hd'
    have hthrough : r.served? id .skip = if i = id then some (d.item, .skipped) else none :=
      served?_of_through hd hr hc (by rw [ho]; rfl)
    by_cases hi : i = id <;> simp [hthrough, hi, hd, Delivery.next]
  | finish => cases hd'
  | cancel task =>
    rw [(cancel_frame r task).2, Option.filter_eq_some_iff] at hd'
    exact hsame (served?_of_fate fun _ => rfl) hd'.1
  | receive i | drop i =>
    rw [holder_modifyChannel] at hd'
    exact hsame (served?_of_fate fun _ => rfl) hd'

/-! ## 3. What ties channels to ids -/

/-- **What ties the channels of a registry to its ids.** -/
structure Tied (r : Registry τ α) : Prop where
  senders : SendersTied r
  /-- Nothing was sent to an id that waits to be registered. -/
  unused : ∀ id c, r.channel? id = some c → 0 < r.waiting id → c.items = []
  /-- The subscribers that a broadcast has lost are registered until it ends. -/
  lost : ∀ d, r.holder = some d → ∀ id ∈ d.lost, id ∈ r.registered
  /-- When subscriptions have ended for good, no id is registered. -/
  shut : r.stopped = true → r.registered = []
  /-- No id is zero. -/
  positive : r.places 0 = 0

omit [DecidableEq τ] in
theorem tied_new (buffer : Nat) (policy : DeliveryPolicy) :
    Tied (Registry.new buffer policy : Registry τ α) where
  senders id c hc := by simp [channel?, Registry.new] at hc
  unused id c hc := by simp [channel?, Registry.new] at hc
  lost d hd := by cases hd
  shut h := by cases h
  positive := rfl

/-- **A step keeps channels tied to ids.** -/
theorem tied_of_effect (h : Tied r) (hs : Sound r) (he : r.Effect now move r' os) : Tied r' where
  senders := sendersTied_of_effect h.senders hs h.lost he
  unused _ _ hc' hw := unused_of_effect hs h.unused he hc' hw
  lost d' hd' id hid := by
    rw [registered_of_held he hd']
    rcases (mem_lost_of_effect he hd').mp hid with ⟨a, ha⟩ | ⟨d, hd, hm⟩
    · exact registered_of_served hs ha
    · exact h.lost d hd id hm
  shut hstopped := by
    rw [List.eq_nil_iff_forall_not_mem]
    intro id hid
    rcases (stopped_of_effect he).mp hstopped with hbefore | hgranted
    · rcases (mem_registered_of_effect hs he).mp hid with ⟨-, hopen⟩ | ⟨hm, -⟩
      · rw [hopen] at hbefore
        cases hbefore
      · rw [h.shut hbefore] at hm
        cases hm
    · rcases (mem_registered_of_effect hs he).mp hid with ⟨hsub, -⟩ | ⟨-, hkeep⟩
      · rw [hgranted] at hsub
        cases hsub
      · exact hkeep (.stopped hgranted)
  positive := by
    rcases keeps_of_effect he with rfl | hk
    · cases he
      have hdraw : r.draw.places 0 = r.places 0 := by simp [places, draw, nextId]
      rw [hdraw, h.positive]
    · exact Nat.le_zero.mp (Nat.le_trans (hk.places 0) (Nat.le_of_eq h.positive))

omit [DecidableEq τ] in
/-- An id that has a place was drawn. -/
theorem Tied.drawn (h : Tied r) (hs : Sound r) (hp : 0 < r.places id) : r.channel? id ≠ none := by
  intro hnone
  rcases channel?_eq_none_iff.mp hnone with rfl | hfresh
  · rw [h.positive] at hp
    cases hp
  · rw [hs.fresh id hfresh] at hp
    cases hp

/-- The id that a task subscribes has waited until then. -/
theorem waiting_of_subscribe (he : r.Effect now move r' os)
    (hg : r.granted? move = some (.subscribe id)) : r.waiting id = r'.waiting id + 1 := by
  cases he with
  | grant task request waiters _ _ hh hw hp =>
    rw [granted?_grant hw] at hg
    cases hg
    rw [waiting_grant hw id, show (Request.subscribe id : Request α).subscribes?.toList = [id] from
      rfl, List.count_singleton_self]
    cases hp
    split
    · rw [waiting_modifyChannel]
    · rfl
  | draw | ask | deliver | lose | skip | finish | cancel | receive | drop => cases hg

/-- A subscription that comes too late is closed from the start. -/
theorem ended_of_subscribe (h : Tied r) (hs : Sound r) (he : r.Effect now move r' os)
    (hg : r.granted? move = some (.subscribe id)) (hstopped : r.stopped = true) :
    ∃ c, r'.channel? id = some c ∧ c.poll = .ended := by
  have hw : 0 < r.waiting id := waiting_of_subscribe he hg ▸ Nat.succ_pos _
  obtain ⟨c, hc⟩ := Option.ne_none_iff_exists'.mp (h.drawn hs (Nat.add_pos_left hw _))
  cases he with
  | grant task request waiters _ _ hh hwaiters hp =>
    rw [granted?_grant hwaiters] at hg
    cases hg
    cases hp
    rw [show ({ r with waiters } : Registry τ α).stopped = r.stopped from rfl, if_pos hstopped,
      channel?_modifyChannel, if_pos rfl, show channel? { r with waiters } id = r.channel? id from
      rfl, hc]
    refine ⟨c.closeSender, rfl, ?_⟩
    rw [Channel.poll_eq_ended_iff]
    exact ⟨h.unused id c hc hw, rfl⟩
  | draw | ask | deliver | lose | skip | finish | cancel | receive | drop => cases hg

end

end Vitals.Registry
