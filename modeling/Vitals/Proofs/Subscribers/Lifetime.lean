import Vitals.Proofs.Subscribers.Delivery
import Vitals.Proofs.Subscribers.Senders

/-!
# The life of a subscription

An id is drawn, handed out with the receiver of its channel, and registered until it is removed,
until all subscriptions end, or until the end of a broadcast that could not send to it. Tasks do all
this in any order, and are cancelled while they wait. This file tells from a course what became of
each id. It fixes

* the histories of a course: the ids handed out, the sends that have failed in the broadcast under
  way, and the removals that found their id;
* `Attached`, what a course says of an id that is registered;
* `Lives`, what it says of all ids, and `Living`, the invariant behind it.

Main statement: in every state that a registry reaches, the ids are those of the course's history,
and their channels are open exactly while they are registered (`subscriptions_live`).
-/

namespace Vitals.Registry

variable {τ α : Type}

/-! ## 1. Histories -/

/-- The id of a subscription that is handed out. -/
def Outcome.subscribed? : Outcome τ → Option SubscriberId
  | .done _ (.subscribed id) => some id
  | _ => none

/-- The ids that were handed out, in order. -/
def handedOut (ts : List (Step τ α)) : List SubscriberId :=
  (ts.flatMap Transition.out).filterMap Outcome.subscribed?

/-- A task asked to remove an id and was told that it was registered. -/
def Removes (id : SubscriberId) (t : Step τ α) : Prop :=
  t.before.granted? t.move = some (.remove id) ∧ ∃ task, t.out = [.done task (.removed true)]

/-- All subscriptions end for good. -/
def StopsAll (t : Step τ α) : Prop :=
  t.before.granted? t.move = some .stopAll

/-- A send to a subscriber has failed in the broadcast that holds the lock. -/
def SendFailed (id : SubscriberId) (ts : List (Step τ α)) : Prop :=
  ∃ early u late, ts = early ++ u :: late ∧
    (∃ a, u.before.served? id u.move = some (a, .refused)) ∧
    ∀ v ∈ u :: late, v.after.isLocked = true

/-- **What takes an id out of the registry.** -/
inductive TakesOut (id : SubscriberId) (front : List (Step τ α)) (t : Step τ α) : Prop where
  | removed (h : t.before.granted? t.move = some (.remove id))
  | stopped (h : StopsAll t)
  /-- A broadcast is completed that could not send to the subscriber. -/
  | lost (h : SendFailed id front) (hm : t.move = .finish)

/-- **An id was subscribed before all subscriptions ended, and nothing has taken it out since.** -/
def Attached (id : SubscriberId) (ts : List (Step τ α)) : Prop :=
  ∃ front t back, ts = front ++ t :: back ∧ t.before.granted? t.move = some (.subscribe id) ∧
    (∀ u ∈ front, ¬StopsAll u) ∧
    ∀ mid u rest, back = mid ++ u :: rest → ¬TakesOut id (front ++ t :: mid) u

section

variable {id : SubscriberId} {ts : List (Step τ α)} {t : Step τ α}

theorem handedOut_snoc :
    handedOut (ts ++ [t]) = handedOut ts ++ t.out.filterMap Outcome.subscribed? := by
  rw [handedOut, List.flatMap_append, List.flatMap_singleton, List.filterMap_append]
  rfl

theorem sendFailed_snoc : SendFailed id (ts ++ [t]) ↔ t.after.isLocked = true ∧
    ((∃ a, t.before.served? id t.move = some (a, .refused)) ∨ SendFailed id ts) := by
  constructor
  · rintro ⟨early, u, late, e, hu, hlocked⟩
    rcases snoc_eq_append_cons e with ⟨rfl, rfl, rfl⟩ | ⟨late, rfl, rfl⟩
    · exact ⟨hlocked _ List.mem_cons_self, .inl hu⟩
    · refine ⟨hlocked _ (by simp), .inr ⟨early, u, late, rfl, hu, fun v hv => hlocked v ?_⟩⟩
      rw [← List.cons_append]
      exact List.mem_append_left _ hv
  · rintro ⟨hlocked, ht | ⟨early, u, late, rfl, hu, hlate⟩⟩
    · exact ⟨ts, t, [], rfl, ht, by simpa using hlocked⟩
    · refine ⟨early, u, late ++ [t], by simp, hu, fun v hv => ?_⟩
      rw [← List.cons_append, List.mem_append, List.mem_singleton] at hv
      rcases hv with hv | rfl
      · exact hlate v hv
      · exact hlocked

theorem attached_snoc : Attached id (ts ++ [t]) ↔
    t.before.granted? t.move = some (.subscribe id) ∧ (∀ u ∈ ts, ¬StopsAll u) ∨
      Attached id ts ∧ ¬TakesOut id ts t := by
  constructor
  · rintro ⟨front, u, back, e, hu, hopen, hkept⟩
    rcases snoc_eq_append_cons e with ⟨rfl, rfl, rfl⟩ | ⟨back, rfl, rfl⟩
    · exact .inl ⟨hu, hopen⟩
    · refine .inr ⟨⟨front, u, back, rfl, hu, hopen, fun mid v rest e' => ?_⟩, hkept back t [] rfl⟩
      exact hkept mid v (rest ++ [t]) (by simp [e'])
  · rintro (⟨ht, hopen⟩ | ⟨⟨front, u, back, rfl, hu, hopen, hkept⟩, ht⟩)
    · exact ⟨ts, t, [], rfl, ht, hopen, fun mid u rest e => by simp at e⟩
    · refine ⟨front, u, back ++ [t], by simp, hu, hopen, fun mid v rest e => ?_⟩
      rcases snoc_eq_append_cons e with ⟨rfl, rfl, -⟩ | ⟨rest, -, e'⟩
      · exact ht
      · exact hkept mid v rest e'

end

/-! ## 2. Steps -/

section Step

variable [DecidableEq τ] {now : Nat} {r r' : Registry τ α} {move : Move τ α}
  {os : List (Outcome τ)} {id : SubscriberId}

/-- An id is handed out when its task gets the lock, and at no other time. -/
theorem subscribed_of_effect (he : r.Effect now move r' os) :
    os.filterMap Outcome.subscribed? = ((r.granted? move).bind Request.subscribes?).toList := by
  cases he with
  | draw | ask | deliver | lose | skip | finish | cancel | receive | drop => rfl
  | grant task request waiters _ _ hh hw hp =>
    rw [granted?_grant hw]
    cases request with
    | subscribe i | broadcast item | stopAll | count =>
      cases hp
      rfl
    | remove i =>
      unfold perform at hp
      simp only at hp
      split at hp <;> cases hp <;> rfl

theorem mem_subscribed_iff (he : r.Effect now move r' os) :
    id ∈ os.filterMap Outcome.subscribed? ↔ r.granted? move = some (.subscribe id) := by
  rw [subscribed_of_effect he, Option.mem_toList, Option.bind_eq_some_iff]
  constructor
  · rintro ⟨request, hg, hsub⟩
    cases request with
    | subscribe i =>
      cases hsub
      exact hg
    | remove | broadcast | stopAll | count => cases hsub
  · intro hg
    exact ⟨_, hg, rfl⟩

/-- An id that does not wait is nowhere when it is removed. -/
theorem places_of_removed (hs : Sound r) (he : r.Effect now move r' os)
    (hg : r.granted? move = some (.remove id)) (hw : r'.waiting id = 0) : r'.places id = 0 := by
  have hout : id ∉ r'.registered := by
    rw [mem_registered_of_effect hs he, hg]
    rintro (⟨hsub, -⟩ | ⟨-, hkeep⟩)
    · cases hsub
    · exact hkeep (.removed hg)
  rw [places_eq, hw, List.count_eq_zero_of_not_mem hout]

/-- An id that was removed is nowhere. -/
theorem Removes.gone (hs : Sound r) (ht : Tied r) (he : r.Effect now move r' os)
    (h : Removes id ⟨now, r, move, r', os⟩) :
    id ∈ r.registered ∧ r'.places id = 0 ∧ r'.channel? id ≠ none := by
  obtain ⟨hg, task', hout⟩ := h
  have hg : r.granted? move = some (.remove id) := hg
  have hout : os = [.done task' (.removed true)] := hout
  have hmem : id ∈ r.registered := by
    cases he with
    | grant task request waiters _ _ hh hw hp =>
      rw [granted?_grant hw] at hg
      cases hg
      unfold perform at hp
      simp only at hp
      split at hp
      · rename_i hc
        simpa using hc
      · cases hp
        cases hout
    | draw | ask | deliver | lose | skip | finish | cancel | receive | drop => cases hg
  have hwait : r.waiting id = 0 := Nat.eq_zero_of_not_pos fun hw => hs.not_mem_of_waiting hw hmem
  have hdrawn : r.channel? id ≠ none := by
    have hpos : 0 < r.places id := Nat.add_pos_right _ (List.count_pos_iff.mpr hmem)
    exact ht.drawn hs hpos
  have hwait' : r'.waiting id = 0 := Nat.le_zero.mp (hwait ▸ waiting_of_effect he hdrawn)
  exact ⟨hmem, places_of_removed hs he hg hwait', mt (undrawn_of_effect he) hdrawn⟩

/-- An id that is nowhere stays away. -/
theorem gone_of_effect (he : r.Effect now move r' os) (hp : r.places id = 0)
    (hc : r.channel? id ≠ none) : r'.places id = 0 ∧ r'.channel? id ≠ none := by
  refine ⟨?_, mt (undrawn_of_effect he) hc⟩
  rcases keeps_of_effect he with rfl | hk
  · cases he
    have hne : id ≠ r.nextId := fun e => hc (e ▸ channel?_nextId)
    have hdraw : r.draw.places id = r.places id := by
      simp [places, draw, List.count_eq_zero_of_not_mem (List.mem_singleton.not.mpr hne)]
    rw [hdraw, hp]
  · exact Nat.le_zero.mp (hp ▸ hk.places id)

end Step

/-! ## 3. Runs -/

/-- **What the courses of a registry keep of its ids.** -/
structure Living (ts : List (Step τ α)) (r : Registry τ α) : Prop where
  sound : Sound r
  tied : Tied r
  distinct : (handedOut ts).Nodup
  out : ∀ id ∈ handedOut ts, r.waiting id = 0 ∧ r.channel? id ≠ none
  failed : ∀ id, SendFailed id ts ↔ ∃ d, r.holder = some d ∧ id ∈ d.lost
  attached : ∀ id, id ∈ r.registered ↔ Attached id ts
  once : ∀ id, ts.Pairwise fun u v => ¬(Removes id u ∧ Removes id v)
  gone : ∀ id, (∃ u ∈ ts, Removes id u) → r.places id = 0 ∧ r.channel? id ≠ none
  stopped : r.stopped = true ↔ ∃ u ∈ ts, StopsAll u

section Runs

variable [DecidableEq τ] {buffer start now : Nat} {policy : DeliveryPolicy}
  {ts : List (Step τ α)} {r r' : Registry τ α} {move : Move τ α} {os : List (Outcome τ)}

omit [DecidableEq τ] in
theorem living_new : Living ([] : List (Step τ α)) (Registry.new buffer policy) where
  sound := sound_new buffer policy
  tied := tied_new buffer policy
  distinct := .nil
  out _ h := by cases h
  failed id := by simp [SendFailed, Registry.new]
  attached id := by simp [Attached, Registry.new]
  once _ := .nil
  gone id h := by
    obtain ⟨u, hu, -⟩ := h
    cases hu
  stopped := by simp [Registry.new]

/-- What takes an id out of the registry is seen in the course. -/
theorem Living.detaches_iff (h : Living ts r) (he : r.Effect now move r' os) (id : SubscriberId) :
    r.Detaches id move ↔ TakesOut id ts ⟨now, r, move, r', os⟩ := by
  constructor
  · intro hdet
    cases hdet with
    | removed hr => exact .removed hr
    | stopped hr => exact .stopped hr
    | lost d hd hm => exact .lost ((h.failed id).mpr ⟨d, hd, hm⟩) rfl
  · intro htakes
    cases htakes with
    | removed hr => exact .removed hr
    | stopped hr => exact .stopped hr
    | lost hf hm =>
      obtain ⟨d, hd, hmem⟩ := (h.failed id).mp hf
      have hm : move = .finish := hm
      exact hm ▸ .lost d hd hmem

/-- **A step keeps it.** -/
theorem living_step (h : Living ts r) (he : r.Effect now move r' os) :
    Living (ts ++ [⟨now, r, move, r', os⟩]) r' where
  sound := sound_of_effect h.sound he
  tied := tied_of_effect h.tied h.sound he
  distinct := by
    rw [handedOut_snoc, subscribed_of_effect he]
    have hone : ((r.granted? move).bind Request.subscribes?).toList.Nodup := by
      cases (r.granted? move).bind Request.subscribes? <;> simp
    refine h.distinct.append hone fun id hold hnew => ?_
    rw [← subscribed_of_effect he, mem_subscribed_iff he] at hnew
    have hw := waiting_of_subscribe he hnew
    rw [(h.out id hold).1] at hw
    cases hw
  out id hid := by
    rw [handedOut_snoc, List.mem_append, mem_subscribed_iff he] at hid
    rcases hid with hold | hg
    · obtain ⟨hw, hc⟩ := h.out id hold
      exact ⟨Nat.le_zero.mp (hw ▸ waiting_of_effect he hc), mt (undrawn_of_effect he) hc⟩
    · have hw := waiting_of_subscribe he hg
      have honce := h.sound.once id
      have hpos : 0 < r.places id := by
        rw [places_eq]
        omega
      rw [places_eq] at honce
      exact ⟨by omega, mt (undrawn_of_effect he) (h.tied.drawn h.sound hpos)⟩
  failed id := by
    rw [sendFailed_snoc, h.failed]
    constructor
    · rintro ⟨hlocked, hfail⟩
      obtain ⟨d', hd'⟩ := Option.isSome_iff_exists.mp hlocked
      exact ⟨d', hd', (mem_lost_of_effect he hd').mpr hfail⟩
    · rintro ⟨d', hd', hm⟩
      exact ⟨Option.isSome_iff_exists.mpr ⟨d', hd'⟩, (mem_lost_of_effect he hd').mp hm⟩
  attached id := by
    have hopen : r.stopped = false ↔ ∀ u ∈ ts, ¬StopsAll u := by
      rw [← Bool.not_eq_true, h.stopped]
      exact not_exists.trans (forall_congr' fun _ => not_and)
    rw [mem_registered_of_effect h.sound he, attached_snoc, h.attached, h.detaches_iff he, hopen]
  once id := by
    rw [List.pairwise_append]
    refine ⟨h.once id, List.pairwise_singleton .., fun u hu v hv => ?_⟩
    rintro ⟨hru, hrv⟩
    rw [List.mem_singleton] at hv
    subst hv
    have hplaces := (h.gone id ⟨u, hu, hru⟩).1
    have hmem := (hrv.gone h.sound h.tied he).1
    have hpos := List.count_pos_iff.mpr hmem
    rw [places_eq] at hplaces
    omega
  gone id hid := by
    obtain ⟨u, hu, hremoves⟩ := hid
    rw [List.mem_append, List.mem_singleton] at hu
    rcases hu with hu | rfl
    · obtain ⟨hp, hc⟩ := h.gone id ⟨u, hu, hremoves⟩
      exact gone_of_effect he hp hc
    · exact (hremoves.gone h.sound h.tied he).2
  stopped := by
    rw [stopped_of_effect he, h.stopped]
    simp only [List.mem_append, List.mem_singleton, or_and_right, exists_or, exists_eq_left]
    rfl

theorem living_of_course
    (h : Course Registry.step start (Registry.new buffer policy) ts now r) : Living ts r := by
  induction h with
  | start => exact living_new
  | wait _ _ ih => exact ih
  | step _ hs ih => exact living_step ih (effect_of_step hs)

/-! ## 4. The lives of subscriptions -/

/-- **What a course says of the ids of a registry.** -/
structure Lives (ts : List (Step τ α)) (r : Registry τ α) : Prop where
  /-- The ids that were handed out differ, -/
  distinct : (handedOut ts).Nodup
  /-- and no subscriber takes the place of another one. -/
  unused : ∀ t ∈ ts, ∀ id, t.before.granted? t.move = some (.subscribe id) →
    id ∉ t.before.registered
  /-- An id is registered exactly if the course says so. -/
  registered : ∀ id, id ∈ r.registered ↔ Attached id ts
  /-- The channel of a subscription that was handed out is open exactly while it is registered. -/
  openWhile : ∀ id ∈ handedOut ts, ∃ c, r.channel? id = some c ∧
    (c.receiverAlive = true → (c.senderAlive = true ↔ id ∈ r.registered))
  /-- An id is removed once at most. -/
  removedOnce : ∀ id, ts.Pairwise fun u v => ¬(Removes id u ∧ Removes id v)
  /-- When all subscriptions have ended, no id is registered any more, -/
  shut : ∀ front t back, ts = front ++ t :: back → StopsAll t →
    ∀ u ∈ t :: back, u.after.registered = []
  /-- and a later subscription is closed from the start. -/
  late : ∀ front t back, ts = front ++ t :: back → (∃ u ∈ front, StopsAll u) →
    ∀ task id, .done task (.subscribed id) ∈ t.out →
      ∃ c, t.after.channel? id = some c ∧ c.poll = .ended

/-- **Ids are used once, and a subscription is open exactly while it is registered**, whatever is
drawn, subscribed, removed, broadcast, stopped, received, dropped and cancelled, and in whatever
order. -/
theorem subscriptions_live
    (h : Course Registry.step start (Registry.new buffer policy) ts now r) : Lives ts r := by
  have hliving := living_of_course h
  -- the state before and the state after each step were reached too
  have hbefore : ∀ {front t back}, ts = front ++ t :: back → Living front t.before := fun e =>
    living_of_course (h.split e).1
  have hafter : ∀ {front t back}, ts = front ++ t :: back → Living (front ++ [t]) t.after :=
    fun e => living_step (hbefore e) (effect_of_step (h.split e).2)
  refine ⟨hliving.distinct, fun t ht id hg => ?_, hliving.attached, fun id hid => ?_, hliving.once,
    fun front t back e hstop u hu => ?_, fun front t back e hstop task id hout => ?_⟩
  · obtain ⟨front, back, e⟩ := List.append_of_mem ht
    have hw := waiting_of_subscribe (effect_of_step (h.split e).2) hg
    exact (hbefore e).sound.not_mem_of_waiting (by omega)
  · obtain ⟨hw, hc⟩ := hliving.out id hid
    obtain ⟨c, hc⟩ := Option.ne_none_iff_exists'.mp hc
    refine ⟨c, hc, fun _ => ?_⟩
    rw [hliving.tied.senders id c hc, hw]
    simp
  · obtain ⟨mid, rest, e'⟩ := List.append_of_mem hu
    have hts : ts = (front ++ mid) ++ u :: rest := by rw [e, e', List.append_assoc]
    have hmem : t ∈ (front ++ mid) ++ [u] := by
      have hsplit : t ∈ mid ++ [u] := by
        cases mid with
        | nil =>
          cases e'
          exact List.mem_cons_self
        | cons v mid =>
          cases e'
          exact List.mem_cons_self
      rw [List.append_assoc]
      exact List.mem_append_right _ hsplit
    exact (hafter hts).tied.shut ((hafter hts).stopped.mpr ⟨t, hmem, hstop⟩)
  · have he := effect_of_step (h.split e).2
    have hg := (mem_subscribed_iff he).mp (List.mem_filterMap.mpr ⟨_, hout, rfl⟩)
    exact ended_of_subscribe (hbefore e).tied (hbefore e).sound he hg
      ((hbefore e).stopped.mpr hstop)

end Runs

/-- A course with five subscriptions: the first is removed, the second is lost in a broadcast, the
third ends with all others, the fourth is given up by a task that is cancelled, and the fifth comes
too late. -/
theorem subscriptions_live_five :
    ∃ (ts : List (Step String Nat)) (now : Nat) (r : Registry String Nat),
      Course Registry.step 0 (Registry.new 1 .block) ts now r ∧ handedOut ts = [1, 2, 3, 5] ∧
      r.channels.map Channel.senderAlive = [false, false, false, false, false] ∧ Lives ts r := by
  have h : Course Registry.step 0 (Registry.new 1 .block : Registry String Nat) _ _ _ :=
    course_of_drive [(0, .draw), (0, .ask "a" (.subscribe 1)), (0, .grant), (0, .draw),
      (0, .ask "b" (.subscribe 2)), (0, .grant), (1, .draw), (1, .ask "c" (.subscribe 3)),
      (1, .grant), (2, .ask "a" (.remove 1)), (2, .grant), (2, .ask "a" (.remove 1)), (2, .grant),
      (3, .drop 2), (3, .ask "sender" (.broadcast 7)), (3, .grant), (3, .deliver), (3, .deliver),
      (4, .draw), (4, .ask "d" (.subscribe 4)), (5, .cancel "d"), (5, .finish),
      (6, .ask "sender" .stopAll), (6, .grant), (7, .draw), (7, .ask "e" (.subscribe 5)),
      (7, .grant), (8, .receive 3)] rfl
  exact ⟨_, _, _, h, rfl, rfl, subscriptions_live h⟩

end Vitals.Registry
