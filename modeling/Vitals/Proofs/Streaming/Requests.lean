import Vitals.Proofs.Streaming.Step

/-!
# What the loop and the peers ask the registry for

The loop that accepts peers asks for the lock to attach a peer, and waits. The task of a peer asks
for it once, to detach the subscriber, after it gave its subscription back. This file fixes

* `Acceptor.requests` and `Peer.requests`, what they wait for by where they stand;
* `Asks`, the invariant that the registry has these requests of theirs, and no others.

Main statement: the invariant holds in every state that a service reaches (`asks_of_course`). So a
task that is told that it has the lock is one that waits for it (`Asks.attaching`,
`Asks.detaching`).
-/

namespace Vitals.Streaming

/-- The requests that the loop waits for. -/
def Service.Acceptor.requests : Service.Acceptor → List (Registry.Request (Snapshot Float))
  | .attaching id => [.subscribe id]
  | .listening | .ended => []

/-- The requests that the task of a peer waits for. -/
def Peer.requests (p : Peer) : List (Registry.Request (Snapshot Float)) :=
  match p.place with
  | .detaching => [.remove p.id]
  | .waiting | .writing _ | .ended => []

/-- Only a task that waits for the lock has asked for it. -/
theorem Peer.requests_eq_cons {p : Peer} {request : Registry.Request (Snapshot Float)}
    {rest : List (Registry.Request (Snapshot Float))} (h : p.requests = request :: rest) :
    p.place = .detaching ∧ request = .remove p.id ∧ rest = [] := by
  unfold Peer.requests at h
  split at h
  · rename_i hw
    cases h
    exact ⟨hw, rfl, rfl⟩
  · cases h
  · cases h
  · cases h

theorem Peer.requests_take {p : Peer} (hw : p.place = .waiting) (s : Snapshot Float) :
    (p.take s).requests = [] := by
  rcases p.take_cases s with ⟨line, -, e⟩ | ⟨-, e⟩
  · rw [e]
    rfl
  · rw [e]
    simp only [Peer.requests, hw]

theorem Peer.requests_write {p p' : Peer} {count : Nat} (h : p.write count = some p') :
    p.requests = [] ∧ p'.requests = [] := by
  obtain ⟨rest, hw, rfl⟩ := Peer.write_cases h
  refine ⟨by simp only [Peer.requests, hw], ?_⟩
  by_cases hleft : rest.drop count = []
  · simp only [Peer.requests, hleft, if_true]
  · simp only [Peer.requests, hleft, if_false]

namespace Service

variable {τ : Type} [DecidableEq τ] {now start : Nat} {s s' : Service τ} {move : Move τ}
  {out : List (Registry.Outcome τ)} {ts : List (Step τ)} {rs : List (Call τ)}
  {r r' : Registry (Party τ) (Snapshot Float)} {m : Registry.Move (Party τ) (Snapshot Float)}
  {os : List (Registry.Outcome (Party τ))} {task : Party τ}

/-! ## 1. Requests and answers -/

omit [DecidableEq τ] in
/-- No one else asks or cancels in the name of the loop or a peer. -/
theorem isForeign_ne (hf : s.isForeign m = true) (ht : ∀ other, task ≠ .other other) :
    (∀ q, m ≠ .ask task q) ∧ m ≠ .cancel task := by
  constructor
  · rintro q rfl
    cases task with
    | acceptor | peer n => cases hf
    | other other => exact ht other rfl
  · rintro rfl
    cases task with
    | acceptor | peer n => cases hf
    | other other => exact ht other rfl

/-- A task that is told nothing still waits for the same. -/
theorem requestsOf_of_untold (hf : s.isForeign m = true) (h : r.step now m = some (r', os))
    (ht : ∀ other, task ≠ .other other) (hno : ∀ answer, .done task answer ∉ os) :
    r'.requestsOf task = r.requestsOf task := by
  obtain ⟨hask, hcancel⟩ := isForeign_ne hf ht
  rcases Registry.requestsOf_of_effect (Registry.effect_of_step h) hask hcancel with
    ⟨-, hsame⟩ | ⟨request, answer, hos, -⟩
  · exact hsame
  · rw [hos] at hno
    exact absurd List.mem_cons_self (hno answer)

/-- A task that is told something has asked for it. -/
theorem requestsOf_of_told {answer : Registry.Answer} (hf : s.isForeign m = true)
    (h : r.step now m = some (r', [.done task answer])) (ht : ∀ other, task ≠ .other other) :
    ∃ request, request.IsAnsweredBy answer ∧
      r.requestsOf task = request :: r'.requestsOf task := by
  obtain ⟨hask, hcancel⟩ := isForeign_ne hf ht
  rcases Registry.requestsOf_of_effect (Registry.effect_of_step h) hask hcancel with
    ⟨hno, -⟩ | ⟨request, answer, hos, ha, hr⟩
  · exact absurd List.mem_cons_self (hno answer)
  · cases hos
    exact ⟨request, ha, hr⟩

/-! ## 2. The invariant -/

/-- **What the loop and the peers have asked for** and wait for. -/
structure Asks (r : Registry (Party τ) (Snapshot Float)) (acceptor : Acceptor)
    (peers : List Peer) : Prop where
  acceptor : r.requestsOf .acceptor = acceptor.requests
  peers : ∀ n, r.requestsOf (.peer n) = (peers[n]?).elim [] Peer.requests

section

variable {acceptor : Acceptor} {peers : List Peer} {n : Nat} {p : Peer}
  {answer : Registry.Answer}

theorem Asks.peer (h : Asks r acceptor peers) (hp : peers[n]? = some p) :
    r.requestsOf (.peer n) = p.requests := by
  rw [h.peers, hp]
  rfl

/-- The requests stay as they are when one peer has changed and has what it waits for. -/
theorem Asks.modify (h : Asks r acceptor peers) (hp : peers[n]? = some p) {f : Peer → Peer}
    (hn : r'.requestsOf (.peer n) = (f p).requests)
    (ho : ∀ task, task ≠ .peer n → (∀ other, task ≠ .other other) →
      r'.requestsOf task = r.requestsOf task) : Asks r' acceptor (peers.modify n f) := by
  refine ⟨(ho .acceptor nofun nofun).trans h.acceptor, fun i => ?_⟩
  by_cases hi : n = i
  · subst hi
    rw [List.getElem?_modify_eq, hp]
    exact hn
  · rw [List.getElem?_modify_ne _ _ hi, ho (.peer i) (by simpa using Ne.symm hi) nofun, h.peers]

/-- The answer that the loop gets is the subscription that it waits for. -/
theorem Asks.attaching (h : Asks r acceptor peers) {s : Service τ} (hf : s.isForeign m = true)
    (hs : r.step now m = some (r', [.done .acceptor answer])) :
    ∃ id, acceptor = .attaching id ∧ answer = .subscribed id ∧ r'.requestsOf .acceptor = [] := by
  obtain ⟨request, ha, hr⟩ := requestsOf_of_told hf hs nofun
  rw [h.acceptor] at hr
  cases acceptor with
  | attaching id =>
    obtain ⟨hrequest, hrest⟩ := List.cons.inj hr
    cases hrequest
    cases ha
    exact ⟨id, rfl, rfl, hrest.symm⟩
  | listening | ended => cases hr

/-- A peer whose task gets the lock is being detached. -/
theorem Asks.detaching (h : Asks r acceptor peers) {s : Service τ} (hf : s.isForeign m = true)
    (hs : r.step now m = some (r', [.done (.peer n) answer])) :
    ∃ p, peers[n]? = some p ∧ p.place = .detaching ∧
      r.requestsOf (.peer n) = [.remove p.id] ∧ r'.requestsOf (.peer n) = [] := by
  obtain ⟨request, -, hr⟩ := requestsOf_of_told hf hs nofun
  have hasked := hr
  rw [h.peers] at hr
  cases hp : peers[n]? with
  | none =>
    rw [hp] at hr
    cases hr
  | some p =>
    rw [hp] at hr
    obtain ⟨hplace, rfl, hrest⟩ := Peer.requests_eq_cons hr
    rw [hrest] at hasked
    exact ⟨p, rfl, hplace, hasked, hrest⟩

end

/-- **A step keeps it.** -/
theorem asks_of_effect (h : Asks s.registry s.acceptor s.peers)
    (he : Effect now s move s' out rs) : Asks s'.registry s'.acceptor s'.peers := by
  cases he with
  | accept r ha hs hask =>
    have hdraw : ∀ task, s.registry.draw.requestsOf task = s.registry.requestsOf task :=
      fun task => Registry.requestsOf_congr rfl rfl
    refine ⟨?_, fun n => ?_⟩
    · rw [Registry.requestsOf_ask hask, if_pos rfl, hdraw, h.acceptor, ha]
      rfl
    · rw [Registry.requestsOf_ask hask, if_neg (by simp), hdraw, List.append_nil]
      exact h.peers n
  | shutdown | hear => exact ⟨h.acceptor, h.peers⟩
  | endAccepting ha =>
    refine ⟨?_, h.peers⟩
    rw [h.acceptor, ha]
    rfl
  | take n p c rest snapshot hp hw hc hi =>
    show Asks (s.registry.modifyChannel p.id fun _ => rest) s.acceptor
      (s.peers.modify n fun p => p.take snapshot)
    refine h.modify hp ?_ fun task _ _ => Registry.requestsOf_modifyChannel ..
    rw [Registry.requestsOf_modifyChannel, h.peer hp, Peer.requests_take hw]
    simp only [Peer.requests, hw]
  | write n count p p' hp hw =>
    obtain ⟨hbefore, hafter⟩ := Peer.requests_write hw
    exact h.modify hp (((h.peer hp).trans hbefore).trans hafter.symm) fun _ _ _ => rfl
  | part _ n p r hp hm hask =>
    have hnone : p.requests = [] := by
      cases hm with
      | ended c hw | failed rest hw | left hw => simp only [Peer.requests, hw]
    show Asks r s.acceptor (s.peers.modify n fun p => { p with place := .detaching })
    refine h.modify hp ?_ fun task ht _ => ?_
    · rw [Registry.requestsOf_ask hask, if_pos rfl, Registry.requestsOf_modifyChannel, h.peer hp,
        hnone]
      rfl
    · rw [Registry.requestsOf_ask hask, if_neg (Ne.symm ht), Registry.requestsOf_modifyChannel,
        List.append_nil]
  | beside m r os _ hf hs ho =>
    have hsame : ∀ task, (∀ other, task ≠ .other other) →
        r.requestsOf task = s.registry.requestsOf task := by
      intro task ht
      refine requestsOf_of_untold hf hs ht fun answer hd => ?_
      obtain ⟨other, hother⟩ := ho task answer hd
      exact ht other hother
    exact ⟨(hsame .acceptor nofun).trans h.acceptor, fun n =>
      (hsame (.peer n) nofun).trans (h.peers n)⟩
  | attach m r id hf hs =>
    obtain ⟨-, -, -, hrest⟩ := h.attaching hf hs
    refine ⟨hrest, fun n => ?_⟩
    have hsame : r.requestsOf (.peer n) = s.registry.requestsOf (.peer n) :=
      requestsOf_of_untold hf hs nofun fun answer hd => by cases List.mem_singleton.mp hd
    refine hsame.trans ((h.peers n).trans ?_)
    show _ = ((s.peers ++ [Peer.attached id])[n]?).elim [] Peer.requests
    cases hp : (s.peers ++ [Peer.attached id])[n]? with
    | none =>
      rw [List.getElem?_eq_none_iff, List.length_append] at hp
      rw [List.getElem?_eq_none (Nat.le_of_add_right_le hp)]
    | some p =>
      rcases of_attached hp with hp | ⟨rfl, rfl⟩
      · rw [hp]
      · rw [List.getElem?_eq_none (Nat.le_refl _)]
        rfl
  | mistake m r answer hf hs hne =>
    obtain ⟨id, -, e, -⟩ := h.attaching hf hs
    exact absurd e (hne id)
  | detach m r n answer hf hs =>
    obtain ⟨p, hp, -, -, hrest⟩ := h.detaching hf hs
    refine h.modify hp hrest fun task hne ht => requestsOf_of_untold hf hs ht fun answer hd => ?_
    cases List.mem_singleton.mp hd
    exact hne rfl

/-- **In every state that a service reaches, the registry has the requests of the loop and of the
peers that they wait for.** -/
theorem asks_of_course {buffer : Nat} {policy : DeliveryPolicy}
    (h : Course step start (Service.start (Registry.new buffer policy)) ts now s) :
    Asks s.registry s.acceptor s.peers := by
  induction h with
  | start => exact ⟨rfl, fun _ => rfl⟩
  | wait _ _ ih => exact ih
  | step _ hs ih => exact asks_of_effect ih (effect_of_step hs)

end Service

end Vitals.Streaming
