import Vitals.Proofs.Streaming.Writing
import Vitals.Proofs.Subscribers.Room

/-!
# Peers hold nobody up

A broadcast keeps the lock of the registry while it waits for a peer that has no room. The task of
the peer needs that lock when it ends: it would wait for the broadcast, and the broadcast for it,
if it did not give its subscription back first. This file follows the subscriptions of all peers
through a whole run of the service. It fixes

* `Registry.IsDropped`, a subscription whose receiver is gone;
* `Bound`, the invariant of the subscriptions of peers;
* `Served`, what a course says of the peers.

Main statement: peers get whole lines, of which a failed write can cut the last one only; a peer
whose task has ended is not registered and never will be; and a broadcast that waits for a peer
waits for a task that can go on without the lock (`peers_served`).
-/

namespace Vitals

/-! ## 1. What a step of the registry leaves of a subscription -/

namespace Registry

variable {τ α : Type} [DecidableEq τ] {now start : Nat} {r r' : Registry τ α} {move : Move τ α}
  {os : List (Outcome τ)} {id : SubscriberId} {task : τ}

/-- The receiver of a subscription is gone. -/
def IsDropped (r : Registry τ α) (id : SubscriberId) : Prop :=
  ∃ c, r.channel? id = some c ∧ c.receiverAlive = false

omit [DecidableEq τ] in
theorem IsDropped.drawn (h : r.IsDropped id) : r.channel? id ≠ none := by
  obtain ⟨c, hc, -⟩ := h
  rw [hc]
  nofun

omit [DecidableEq τ] in
theorem isDropped_drop (hc : r.channel? id ≠ none) :
    (r.modifyChannel id Channel.dropReceiver).IsDropped id := by
  obtain ⟨c, hc⟩ := Option.ne_none_iff_exists'.mp hc
  refine ⟨c.dropReceiver, ?_, rfl⟩
  rw [channel?_modifyChannel, if_pos rfl, hc]
  rfl

omit [DecidableEq τ] in
/-- What becomes of the channel of a subscription whose receiver is gone. -/
theorem Passes.dropped {c' : Channel α} {s : Option (α × Fate)} {t : Option α}
    (h : Passes r id c' s t) (hd : r.IsDropped id) : c'.receiverAlive = false := by
  obtain ⟨d, hd, hdead⟩ := hd
  cases h with
  | drawn hc => exact nomatch hc.symm.trans hd
  | fade c _ hc hf =>
    cases hc.symm.trans hd
    rcases hf.2 with ⟨-, hr⟩ | ⟨-, hr⟩
    · exact hr.trans hdead
    · exact hr
  | accept c _ a hc ho =>
    cases hc.symm.trans hd
    exact nomatch (Channel.eq_of_offer ho).1.symm.trans hdead
  | refuse _ a hc | skip _ a timeout hc =>
    cases hc.symm.trans hd
    exact hdead
  | take c _ a hc hi =>
    cases hc.symm.trans hd
    rw [Channel.eq_of_poll hi]
    exact hdead

/-- A receiver that is gone does not come back. -/
theorem IsDropped.of_effect (h : r.IsDropped id) (he : r.Effect now move r' os) :
    r'.IsDropped id := by
  obtain ⟨c', hc'⟩ := Option.ne_none_iff_exists'.mp (mt (undrawn_of_effect he) h.drawn)
  exact ⟨c', hc', (passes_of_effect he hc').dropped h⟩

/-- A channel has room for one item at least. -/
theorem capacity_pos_of_course {buffer : Nat} {policy : DeliveryPolicy} {ts : List (Step τ α)}
    (h : Course Registry.step start (Registry.new buffer policy) ts now r) {c : Channel α}
    (hc : r.channel? id = some c) : 0 < c.capacity := by
  rw [capacity_of_course h hc]
  exact Nat.le_max_right ..

/-- What a task is told that does not broadcast, it is told when it gets the lock. -/
theorem granted?_of_done {answer : Answer} {request : Request α} {rest : List (Request α)}
    (he : r.Effect now move r' os) (hd : .done task answer ∈ os)
    (hr : r.requestsOf task = request :: rest) (hb : ∀ item, request ≠ .broadcast item) :
    r.granted? move = some request := by
  cases he with
  | draw | ask | deliver | lose | cancel | receive | drop => cases hd
  | skip => cases List.mem_singleton.mp hd
  | grant other asked waiters _ _ hh hw hp =>
    rcases requestsOf_perform (r := { r with waiters }) hh hp with
      ⟨-, -, rfl, -⟩ | ⟨answer, -, rfl, -⟩
    · cases hd
    · cases List.mem_singleton.mp hd
      rw [requestsOf, hh, hw, List.filter_cons_of_pos (by simp), List.map_cons] at hr
      rw [granted?_grant hw]
      exact congrArg some (List.cons.inj hr).1
  | finish d hh =>
    cases List.mem_singleton.mp hd
    rw [requestsOf, hh, Option.filter_some, if_pos (by simp)] at hr
    exact absurd (List.cons.inj hr).1.symm (hb d.item)

end Registry

namespace Streaming

theorem Peer.take_id (p : Peer) (s : Snapshot Float) : (p.take s).id = p.id := by
  rcases p.take_cases s with ⟨line, -, e⟩ | ⟨-, e⟩ <;> rw [e]

namespace Service

variable {τ : Type} [DecidableEq τ] {now start : Nat} {s s' : Service τ} {move : Move τ}
  {out : List (Registry.Outcome τ)} {ts : List (Step τ)} {rs : List (Call τ)}
  {r r' : Registry (Party τ) (Snapshot Float)} {m : Registry.Move (Party τ) (Snapshot Float)}
  {os : List (Registry.Outcome (Party τ))} {acceptor : Acceptor} {peers : List Peer}
  {n : Nat} {p : Peer} {id : SubscriberId}

/-! ## 2. The subscriptions of peers -/

/-- **What ties a peer to its subscription.** -/
structure Tie (rs : List (Call τ)) (r : Registry (Party τ) (Snapshot Float)) (p : Peer) :
    Prop where
  took : p.taken = Registry.taken p.id rs
  /-- Who waits for the lock, or has had it, has given the subscription back. -/
  dropped : p.place = .detaching ∨ p.place = .ended → r.IsDropped p.id
  gone : p.place = .ended → r.places p.id = 0

/-- **What ties all peers to their subscriptions.** -/
structure Bound (rs : List (Call τ)) (r : Registry (Party τ) (Snapshot Float))
    (acceptor : Acceptor) (peers : List Peer) : Prop where
  ids : (peers.map Peer.id).Sublist (Registry.handedOut rs)
  /-- A peer that is being attached has received nothing yet. -/
  fresh : ∀ id, acceptor = .attaching id → Registry.taken id rs = []
  ties : ∀ (n : Nat) (p : Peer), peers[n]? = some p → Tie rs r p

/-- A step of the registry that receives nothing for a peer leaves it tied. -/
theorem Tie.call (h : Tie rs r p) (he : r.Effect now m r' os) (hm : r.taken? p.id m = none) :
    Tie (rs ++ [⟨now, r, m, r', os⟩]) r' p where
  took := by
    rw [Registry.taken_snoc, hm, Option.toList_none, List.append_nil]
    exact h.took
  dropped hw := (h.dropped hw).of_effect he
  gone hw := (Registry.gone_of_effect he (h.gone hw) (h.dropped (.inr hw)).drawn).1

omit [DecidableEq τ] in
/-- A peer that takes a snapshot stays tied. -/
theorem Tie.take {c rest : Channel (Snapshot Float)} {snapshot : Snapshot Float}
    (h : Tie rs r p) (hc : r.channel? p.id = some c) (hi : c.poll = .item snapshot rest)
    (hw : p.place = .waiting) :
    Tie (rs ++ [⟨now, r, .receive p.id, r', os⟩]) r' (p.take snapshot) := by
  have hnext : r.taken? p.id (.receive p.id) = some snapshot := by
    rw [Registry.taken?, if_pos rfl, hc, Option.bind_some, hi]
  have htook : p.taken ++ [snapshot] =
      Registry.taken p.id (rs ++ [⟨now, r, .receive p.id, r', os⟩]) := by
    rw [Registry.taken_snoc, hnext, h.took]
    rfl
  rcases p.take_cases snapshot with ⟨line, -, e⟩ | ⟨-, e⟩
  · rw [e]
    exact ⟨htook, by simp, by simp⟩
  · rw [e]
    exact ⟨htook, by simp [hw], by simp [hw]⟩

/-- A step of the registry that receives nothing for peers leaves them tied. -/
theorem Bound.call (h : Bound rs r acceptor peers) (he : r.Effect now m r' os)
    (hp : ∀ (n : Nat) (p : Peer), peers[n]? = some p → r.taken? p.id m = none)
    (ha : ∀ id, acceptor = .attaching id → r.taken? id m = none) :
    Bound (rs ++ [⟨now, r, m, r', os⟩]) r' acceptor peers where
  ids := by
    rw [Registry.handedOut_snoc]
    exact h.ids.trans (List.sublist_append_left ..)
  fresh id hid := by
    rw [Registry.taken_snoc, ha id hid, Option.toList_none, List.append_nil]
    exact h.fresh id hid
  ties n p hn := (h.ties n p hn).call he (hp n p hn)

omit [DecidableEq τ] in
theorem Bound.handedOut (h : Bound rs r acceptor peers) (hp : peers[n]? = some p) :
    p.id ∈ Registry.handedOut rs :=
  h.ids.subset (List.mem_map_of_mem (List.mem_of_getElem? hp))

omit [DecidableEq τ] in
/-- Peers have ids of their own. -/
theorem Bound.eq_of_id (h : Bound rs r acceptor peers) (hd : (Registry.handedOut rs).Nodup)
    {i : Nat} {q : Peer} (hp : peers[n]? = some p) (hq : peers[i]? = some q) (he : p.id = q.id) :
    n = i := by
  have hn : (peers.map Peer.id)[n]? = some p.id := by
    rw [List.getElem?_map, hp]
    rfl
  have hi : (peers.map Peer.id)[i]? = some q.id := by
    rw [List.getElem?_map, hq]
    rfl
  have hlt : n < (peers.map Peer.id).length := (List.getElem?_eq_some_iff.mp hn).1
  exact (List.getElem?_inj hlt (h.ids.nodup hd)).mp (hn.trans ((congrArg some he).trans hi.symm))

omit [DecidableEq τ] in
/-- The task of a peer does something, and keeps its id. -/
theorem Bound.modify {rs' : List (Call τ)} (h : Bound rs r acceptor peers) (hp : peers[n]? = some p)
    {f : Peer → Peer} (hid : (f p).id = p.id)
    (hsub : (Registry.handedOut rs).Sublist (Registry.handedOut rs'))
    (hfresh : ∀ id, acceptor = .attaching id → Registry.taken id rs' = [])
    (hn : Tie rs' r' (f p))
    (ho : ∀ (i : Nat) (q : Peer), i ≠ n → peers[i]? = some q → Tie rs' r' q) :
    Bound rs' r' acceptor (peers.modify n f) where
  ids := by
    have hids : (peers.modify n f).map Peer.id = peers.map Peer.id := by
      refine List.ext_getElem? fun i => ?_
      rw [List.getElem?_map, List.getElem?_map]
      by_cases hi : n = i
      · subst hi
        rw [List.getElem?_modify_eq, hp]
        exact congrArg some hid
      · rw [List.getElem?_modify_ne _ _ hi]
    rw [hids]
    exact h.ids.trans hsub
  fresh := hfresh
  ties i q hq := by
    by_cases hi : n = i
    · subst hi
      rw [List.getElem?_modify_eq, hp] at hq
      cases hq
      exact hn
    · rw [List.getElem?_modify_ne _ _ hi] at hq
      exact ho i q (Ne.symm hi) hq

/-- The loop waits for a subscription that no peer has. -/
theorem Asks.waiting (h : Asks r acceptor peers) (ha : acceptor = .attaching id) :
    0 < r.waiting id := by
  have hmem : Registry.Request.subscribe id ∈ r.requestsOf .acceptor := by
    rw [h.acceptor, ha]
    exact List.mem_cons_self
  rcases List.mem_append.mp hmem with hmem | hmem
  · obtain ⟨d, -, e⟩ := List.mem_map.mp hmem
    cases e
  · obtain ⟨⟨task, request⟩, hw, rfl⟩ := List.mem_map.mp hmem
    have hsub : id ∈ r.waiters.filterMap fun w => w.2.subscribes? :=
      List.mem_filterMap.mpr ⟨_, (List.mem_filter.mp hw).1, rfl⟩
    exact Nat.add_pos_right _ (List.count_pos_iff.mpr hsub)

omit [DecidableEq τ] in
/-- No one else receives what is sent to peers. -/
theorem taken?_of_isForeign (hf : s.isForeign m = true) :
    (∀ (n : Nat) (p : Peer), s.peers[n]? = some p → s.registry.taken? p.id m = none) ∧
      ∀ id, s.acceptor = .attaching id → s.registry.taken? id m = none := by
  cases m with
  | receive i =>
    simp only [isForeign, Bool.and_eq_true, bne_iff_ne, Bool.not_eq_true', List.any_eq_false,
      beq_iff_eq] at hf
    refine ⟨fun n p hp => if_neg fun e => ?_, fun id ha => if_neg fun e => ?_⟩
    · exact hf.2 p (List.mem_of_getElem? hp) e.symm
    · exact hf.1 (e ▸ ha)
  | draw | ask | grant | deliver | skip | finish | cancel | drop =>
    exact ⟨fun _ _ _ => rfl, fun _ _ => rfl⟩

/-! ## 3. Steps and runs -/

/-- The task of a peer takes a snapshot. -/
theorem Bound.take {c rest : Channel (Snapshot Float)} {snapshot : Snapshot Float}
    (h : Bound rs r acceptor peers) (hasks : Asks r acceptor peers) (hl : Registry.Living rs r)
    (hp : peers[n]? = some p) (hw : p.place = .waiting) (hc : r.channel? p.id = some c)
    (hi : c.poll = .item snapshot rest) :
    Bound (rs ++ [⟨now, r, .receive p.id, r.modifyChannel p.id fun _ => rest, []⟩])
      (r.modifyChannel p.id fun _ => rest) acceptor (peers.modify n fun p => p.take snapshot) := by
  have hcall : r.Effect now (.receive p.id) (r.modifyChannel p.id fun _ => rest) [] :=
    .receive p.id c rest snapshot hc hi
  have hother : ∀ id, id ≠ p.id → r.taken? id (.receive p.id) = none := fun id hne =>
    if_neg (Ne.symm hne)
  refine h.modify hp (p.take_id snapshot) ?_ (fun id ha => ?_) ?_ fun i q hne hq => ?_
  · rw [Registry.handedOut_snoc]
    exact List.sublist_append_left ..
  · -- the id that is being attached waits for the lock, and that of the peer has had it
    have hne : id ≠ p.id := by
      rintro rfl
      have hwaits := hasks.waiting ha
      rw [(hl.out p.id (h.handedOut hp)).1] at hwaits
      cases hwaits
    rw [Registry.taken_snoc, hother id hne]
    exact (List.append_nil _).trans (h.fresh id ha)
  · exact (h.ties n p hp).take hc hi hw
  · exact (h.ties i q hq).call hcall (hother q.id fun e => hne (h.eq_of_id hl.distinct hq hp e))

/-- The task of a peer gives its subscription back. -/
theorem Bound.part (h : Bound rs r acceptor peers) (hc : r.channel? p.id ≠ none)
    (hp : peers[n]? = some p)
    (hask : (r.modifyChannel p.id Channel.dropReceiver).ask (.peer n) (.remove p.id) = some r') :
    Bound (rs ++ [⟨now, r, .drop p.id, r.modifyChannel p.id Channel.dropReceiver, []⟩] ++
        [⟨now, r.modifyChannel p.id Channel.dropReceiver, .ask (.peer n) (.remove p.id), r', []⟩])
      r' acceptor (peers.modify n fun p => { p with place := .detaching }) := by
  have hdrop : r.Effect now (.drop p.id) (r.modifyChannel p.id Channel.dropReceiver) [] :=
    .drop p.id
  have hask : (r.modifyChannel p.id Channel.dropReceiver).Effect now
    (.ask (.peer n) (.remove p.id)) r' [] := .ask _ _ r' hask
  have hcalls := (h.call hdrop (fun _ _ _ => rfl) fun _ _ => rfl).call hask (fun _ _ _ => rfl)
    fun _ _ => rfl
  have hdropped := (Registry.isDropped_drop hc).of_effect hask
  exact hcalls.modify hp rfl (.refl _) hcalls.fresh
    ⟨(hcalls.ties n p hp).took, fun _ => hdropped, nofun⟩ fun i q _ hq => hcalls.ties i q hq

/-- **A step keeps peers tied to their subscriptions.** -/
theorem bound_of_effect {rs₀ : List (Call τ)}
    (h : Bound rs₀ s.registry s.acceptor s.peers) (hasks : Asks s.registry s.acceptor s.peers)
    (hl : Registry.Living rs₀ s.registry) (hl' : Registry.Living (rs₀ ++ rs) s'.registry)
    (hnew : Registry.taken s.registry.nextId rs₀ = []) (he : Effect now s move s' out rs) :
    Bound (rs₀ ++ rs) s'.registry s'.acceptor s'.peers := by
  cases he with
  | accept r ha hs hask =>
    have hdraw : s.registry.Effect now .draw s.registry.draw [] := .draw
    have hask : s.registry.draw.Effect now (.ask .acceptor (.subscribe s.registry.nextId)) r [] :=
      .ask _ _ r hask
    have hcalls := (h.call hdraw (fun _ _ _ => rfl) fun _ _ => rfl).call hask (fun _ _ _ => rfl)
      fun _ _ => rfl
    rw [List.append_cons]
    refine ⟨hcalls.ids, fun id e => ?_, hcalls.ties⟩
    cases e
    rw [Registry.taken_snoc, Registry.taken_snoc, hnew]
    rfl
  | shutdown | hear =>
    rw [List.append_nil]
    exact h
  | endAccepting ha =>
    rw [List.append_nil]
    exact ⟨h.ids, nofun, h.ties⟩
  | take n p c rest snapshot hp hw hc hi => exact h.take hasks hl hp hw hc hi
  | write n count p p' hp hw =>
    obtain ⟨rest, hplace, rfl⟩ := Peer.write_cases hw
    rw [List.append_nil]
    refine h.modify hp rfl (.refl _) h.fresh ⟨(h.ties n p hp).took, ?_, ?_⟩
      fun i q _ hq => h.ties i q hq
    · dsimp only
      split <;> simp
    · dsimp only
      split <;> simp
  | part _ n p r hp hm hask =>
    rw [List.append_cons]
    exact h.part (hl.out p.id (h.handedOut hp)).2 hp hask
  | beside m r os _ hf hs =>
    obtain ⟨hp, ha⟩ := taken?_of_isForeign hf
    exact h.call (Registry.effect_of_step hs) hp ha
  | attach m r id hf hs =>
    obtain ⟨hp, ha⟩ := taken?_of_isForeign hf
    obtain ⟨i, hacc, e, -⟩ := hasks.attaching hf hs
    cases e
    have hcall := h.call (Registry.effect_of_step hs) hp ha
    refine ⟨?_, nofun, fun i p hi => ?_⟩
    · rw [Registry.handedOut_snoc, List.map_append]
      exact h.ids.append (.refl _)
    · rcases of_attached hi with hi | ⟨-, rfl⟩
      · exact hcall.ties i p hi
      · exact ⟨(hcall.fresh id hacc).symm, nofun, nofun⟩
  | mistake m r answer hf hs =>
    obtain ⟨hp, ha⟩ := taken?_of_isForeign hf
    exact h.call (Registry.effect_of_step hs) hp ha
  | detach m r n answer hf hs =>
    obtain ⟨hother, ha⟩ := taken?_of_isForeign hf
    obtain ⟨p, hp, hplace, hasked, -⟩ := hasks.detaching hf hs
    have he := Registry.effect_of_step hs
    have hcall := h.call he hother ha
    have hg := Registry.granted?_of_done he List.mem_cons_self hasked nofun
    refine hcall.modify hp rfl (.refl _) hcall.fresh ⟨(hcall.ties n p hp).took, fun _ => ?_,
      fun _ => ?_⟩ fun i q _ hq => hcall.ties i q hq
    · exact (hcall.ties n p hp).dropped (.inl hplace)
    · exact Registry.places_of_removed hl.sound he hg (hl'.out p.id (hcall.handedOut hp)).1

/-- **In every state that a service reaches, peers are tied to their subscriptions.** -/
theorem bound_of_course {buffer : Nat} {policy : DeliveryPolicy}
    (h : Course step start (Service.start (Registry.new buffer policy)) ts now s) :
    Bound (registrySteps ts) s.registry s.acceptor s.peers := by
  induction h with
  | start => exact ⟨.slnil, nofun, nofun⟩
  | wait _ _ ih => exact ih
  | step h hs ih =>
    have hafter := registry_course (h.step hs)
    rw [registrySteps_snoc] at hafter ⊢
    have hbefore := registry_course h
    have hnew := ((Registry.booked_of_course hbefore).undrawn _ Registry.channel?_nextId).2
    exact bound_of_effect ih (asks_of_course h) (Registry.living_of_course hbefore)
      (Registry.living_of_course hafter) hnew (effect_of_step hs)

/-- A task that has ended does nothing more. -/
theorem ended_of_effect (he : Effect now s move s' out rs) (hp : s.peers[n]? = some p)
    (hw : p.place = .ended) : s'.peers[n]? = some p := by
  have hother : ∀ {i : Nat} {q : Peer} {f : Peer → Peer}, s.peers[i]? = some q →
      q.place ≠ .ended → (s.peers.modify i f)[n]? = some p := by
    intro i q f hq hne
    have hi : i ≠ n := by
      rintro rfl
      cases hp.symm.trans hq
      exact hne hw
    rw [List.getElem?_modify_ne _ _ hi]
    exact hp
  cases he with
  | accept | shutdown | endAccepting | hear | beside | mistake => exact hp
  | take i q c rest snapshot hq hwaits => exact hother hq (by rw [hwaits]; nofun)
  | write i count q q' hq hwrite =>
    obtain ⟨rest, hplace, -⟩ := Peer.write_cases hwrite
    exact hother hq (by rw [hplace]; nofun)
  | part _ i q r hq hm =>
    refine hother hq ?_
    cases hm with
    | ended c hplace | failed rest hplace | left hplace =>
      rw [hplace]
      nofun
  | attach => exact (List.getElem?_append_left (List.getElem?_eq_some_iff.mp hp).1).trans hp
  | detach m r i =>
    show (s.peers.modify i fun p => { p with place := .ended })[n]? = some p
    by_cases hi : i = n
    · subst hi
      rw [List.getElem?_modify_eq, hp]
      cases p
      cases hw
      rfl
    · rw [List.getElem?_modify_ne _ _ hi]
      exact hp

theorem ended_of_course {us : List (Step τ)} {later : Nat} (h : Course step now s us later s')
    (hp : s.peers[n]? = some p) (hw : p.place = .ended) : s'.peers[n]? = some p := by
  induction h with
  | start => exact hp
  | wait _ _ ih => exact ih
  | step _ hs ih => exact ended_of_effect (effect_of_step hs) ih hw

/-! ## 4. What peers get -/

/-- The task of a peer can take the next snapshot, or write some more of a line. -/
def GoesOn (s : Service τ) (n : Nat) : Prop :=
  ∃ move : Move τ, (move = .take n ∨ ∃ count, move = .write n count) ∧
    ∀ at_, (s.step at_ move).isSome = true

/-- **What a course says of the peers of a service.** -/
structure Served (ts : List (Step τ)) (now : Nat) (s : Service τ) : Prop where
  /-- Every peer is a subscriber of its own. -/
  apart : (s.peers.map Peer.id).Nodup
  /-- Its task takes what the subscription receives, in order, -/
  took : ∀ (n : Nat) (p : Peer), s.peers[n]? = some p →
    p.taken = Registry.taken p.id (registrySteps ts)
  /-- and writes one line for each snapshot, all of it but what a failed write leaves. -/
  wrote : ∀ (n : Nat) (p : Peer), s.peers[n]? = some p → p.Wrote (WriteFailed n ts)
  /-- A peer whose task has ended is not registered, now or later. -/
  ended : ∀ (n : Nat) (p : Peer), s.peers[n]? = some p → p.place = .ended →
    ∀ us later s', Course step now s us later s' → p.id ∉ s'.registry.registered
  /-- A broadcast that waits for a peer to make room waits for a task that does not wait for the
  lock. -/
  free : ∀ (n : Nat) (p : Peer) d, s.peers[n]? = some p → s.registry.holder = some d →
    d.remaining.head? = some p.id → s.registry.IsFull p.id d.item →
      (∀ request, (Party.peer n, request) ∉ s.registry.waiters) ∧ GoesOn s n

omit [DecidableEq τ] in
theorem Bound.not_registered (h : Bound rs r acceptor peers) (hp : peers[n]? = some p)
    (hw : p.place = .ended) : p.id ∉ r.registered := by
  have hplaces := (h.ties n p hp).gone hw
  rw [Registry.places_eq] at hplaces
  exact List.count_eq_zero.mp (Nat.eq_zero_of_add_eq_zero_left hplaces)

/-- A task that has not asked to detach its peer does not wait for the lock. -/
theorem Asks.not_mem_waiters (h : Asks r acceptor peers) (hp : peers[n]? = some p)
    (hw : p.place ≠ .detaching) (request : Registry.Request (Snapshot Float)) :
    (Party.peer n, request) ∉ r.waiters := by
  intro hmem
  have hasked : request ∈ r.requestsOf (.peer n) :=
    List.mem_append_right _ (List.mem_map.mpr
      ⟨_, List.mem_filter.mpr ⟨hmem, decide_eq_true rfl⟩, rfl⟩)
  rw [h.peer hp] at hasked
  unfold Peer.requests at hasked
  split at hasked
  · rename_i hplace
    exact hw hplace
  · cases hasked
  · cases hasked
  · cases hasked

/-- A task that has its subscription can go on when there is something to take. -/
theorem goesOn_of_held {c : Channel (Snapshot Float)} {failed : Prop}
    (hp : s.peers[n]? = some p) (hheld : ¬(p.place = .detaching ∨ p.place = .ended))
    (hwrote : p.Wrote failed) (hc : s.registry.channel? p.id = some c) (hi : c.items ≠ []) :
    GoesOn s n := by
  cases hw : p.place with
  | waiting =>
    refine ⟨.take n, .inl rfl, fun at_ => ?_⟩
    obtain ⟨a, as, hitems⟩ := List.exists_cons_of_ne_nil hi
    simp [step, Service.take, hp, hw, hc, Channel.poll, hitems]
  | writing rest =>
    refine ⟨.write n rest.length, .inr ⟨_, rfl⟩, fun at_ => ?_⟩
    simp [step, hp, Peer.write, hw, (hwrote.of_writing hw).missing]
  | detaching => exact absurd (.inl hw) hheld
  | ended => exact absurd (.inr hw) hheld

/-- **Peers get whole lines, and hold nobody up.** Whatever is broadcast, with or without a time
limit, however many peers connect and send something, go away or fail, and whenever the shutdown is
signalled or all subscriptions end: each peer is written the lines of the snapshots that its task
took, in order and once each, of which a failed write can cut the last one only; a peer whose task
has ended is not registered, and never will be; and no broadcast waits for room at a peer whose task
waits for the lock. -/
theorem peers_served {buffer : Nat} {policy : DeliveryPolicy}
    (h : Course step start (Service.start (Registry.new buffer policy)) ts now s) :
    Served ts now s where
  apart := (bound_of_course h).ids.nodup (Registry.living_of_course (registry_course h)).distinct
  took n p hp := ((bound_of_course h).ties n p hp).took
  wrote n p := wrote_of_course h n p
  ended n p hp hw us later s' h' :=
    (bound_of_course (h.append h')).not_registered (ended_of_course h' hp hw) hw
  free n p d hp hd hr hfull := by
    obtain ⟨c, hc, ho⟩ := hfull
    obtain ⟨halive, hlen⟩ := (Channel.offer_eq_full_iff c d.item).mp ho
    -- the receiver of a task that has left is gone
    have hstays : ¬(p.place = .detaching ∨ p.place = .ended) := by
      intro hw
      obtain ⟨c', hc', hdead⟩ := ((bound_of_course h).ties n p hp).dropped hw
      cases hc.symm.trans hc'
      exact nomatch halive.symm.trans hdead
    have hroom := Registry.capacity_pos_of_course (registry_course h) hc
    exact ⟨(asks_of_course h).not_mem_waiters hp (mt .inl hstays),
      goesOn_of_held hp hstays (wrote_of_course h n p hp) hc
        (List.ne_nil_of_length_pos (Nat.lt_of_lt_of_le hroom hlen))⟩

/-- A snapshot with nothing but its instant. -/
def bareSnapshot (instant : Nat) : Snapshot Float where
  timestamp := ⟨instant⟩
  samples := 1
  metrics := {}

/-- Two peers: a write to the first one fails in the middle of a line, and a broadcast waits for
the second one, which has not taken its first snapshot yet. -/
theorem peers_served_stalled :
    ∃ (ts : List (Step String)) (now : Nat) (s : Service String),
      Course step 0 (Service.start (Registry.new 1 .block)) ts now s ∧
      s.peers.map (fun p => (p.id, p.place, p.written.length)) =
        [(1, .ended, 5), (2, .waiting, 0)] ∧
      s.registry.registered = [2] ∧ s.registry.holder.map Registry.Delivery.remaining = some [2] ∧
      Served ts now s := by
  have hrun : (drive step 0 (Service.start (Registry.new 1 .block) : Service String)
      [(0, .accept), (0, .registry .grant), (0, .accept), (0, .registry .grant),
        (1, .registry (.ask (.other "source") (.broadcast (bareSnapshot 7)))),
        (1, .registry .grant), (1, .registry .deliver), (1, .registry .deliver),
        (1, .registry .finish), (2, .take 0), (2, .write 0 5), (2, .failWrite 0),
        (2, .registry .grant),
        (3, .registry (.ask (.other "source") (.broadcast (bareSnapshot 8)))),
        (3, .registry .grant)]).any (fun (_, _, s) =>
      s.peers.map (fun p => (p.id, p.place, p.written.length)) ==
        [(1, .ended, 5), (2, .waiting, 0)] && s.registry.registered == [2] &&
        s.registry.holder.map Registry.Delivery.remaining == some [2]) = true := by
    decide +kernel
  obtain ⟨⟨ts, now, s⟩, hd, h⟩ := (Option.any_eq_true _ _).mp hrun
  simp only [Bool.and_eq_true, beq_iff_eq] at h
  obtain ⟨⟨hpeers, hregistered⟩, hremaining⟩ := h
  have hcourse := course_of_drive _ hd
  exact ⟨ts, now, s, hcourse, hpeers, hregistered, hremaining, peers_served hcourse⟩

end Service

end Streaming

end Vitals
