import Vitals.Streaming.Service
import Vitals.Proofs.Subscribers.Lifetime

/-!
# What a step of the service can do

The service is the loop that accepts peers, the tasks of the peers, and the registry that they
share. This file says once everything that a step of it can do (`Service.Effect`,
`effect_of_step`), and finds the course of the registry within one of the service, so that all that
is proved of courses of a registry holds of the one that peers are attached to. It fixes

* `Service.Parts`, the moves with which the task of a peer gives its subscription back;
* `Service.calls`, the moves of the registry that a move makes;
* `registrySteps`, the course of the registry.

Main statement: the registry of a service follows a course of its own (`registry_course`).
-/

namespace Vitals

/-- A course that goes on. -/
theorem Course.append {σ μ ε : Type} {step : Nat → σ → μ → Option (σ × List ε)}
    {start now later : Nat} {s₀ s t : σ} {ts us : List (Transition σ μ ε)}
    (h : Course step start s₀ ts now s) (h' : Course step now s us later t) :
    Course step start s₀ (ts ++ us) later t := by
  induction h' with
  | start =>
    rw [List.append_nil]
    exact h
  | step _ hs ih =>
    rw [← List.append_assoc]
    exact ih.step hs
  | wait _ hle ih => exact ih.wait hle

namespace Streaming

/-! ## 1. A task and its line -/

namespace Peer

variable (p : Peer)

/-- A snapshot that is taken brings a line to write, or is left out. -/
theorem take_cases (s : Snapshot Float) :
    (∃ line, line? s = some line ∧
      p.take s = { p with taken := p.taken ++ [s], place := .writing line }) ∨
    line? s = none ∧ p.take s = { p with taken := p.taken ++ [s] } := by
  unfold take
  split
  · rename_i line hline
    exact .inl ⟨line, hline, rfl⟩
  · rename_i hnone
    exact .inr ⟨hnone, rfl⟩

/-- Only what is left of a line is written. -/
theorem write_cases {p p' : Peer} {count : Nat} (h : p.write count = some p') :
    ∃ rest, p.place = .writing rest ∧ p' = { p with
      written := p.written ++ rest.take count
      place := if rest.drop count = [] then .waiting else .writing (rest.drop count) } := by
  unfold write at h
  split at h
  · rename_i rest hw
    split at h
    · cases h
    · cases h
      exact ⟨rest, hw, rfl⟩
  · cases h

end Peer

namespace Service

variable {τ : Type}

/-! ## 2. The registry within the service -/

abbrev Step (τ : Type) := Transition (Service τ) (Move τ) (Registry.Outcome τ)

/-- A step of the registry that the service shares with others. -/
abbrev Call (τ : Type) := Registry.Step (Party τ) (Snapshot Float)

/-- The task of a peer gives its subscription back and asks to detach the subscriber. -/
def parting (n : Nat) (id : SubscriberId) : List (Registry.Move (Party τ) (Snapshot Float)) :=
  [.drop id, .ask (.peer n) (.remove id)]

/-- The moves of the registry that a move makes. -/
def calls (s : Service τ) : Move τ → List (Registry.Move (Party τ) (Snapshot Float))
  | .accept => [.draw, .ask .acceptor (.subscribe s.registry.nextId)]
  | .take n =>
    match s.peers[n]? with
    | none => []
    | some p =>
      match (s.registry.channel? p.id).map Channel.poll with
      | some (.item _ _) => [.receive p.id]
      | _ => parting n p.id
  | .failWrite n | .leave n => (s.peers[n]?).elim [] fun p => parting n p.id
  | .registry m => [m]
  | .shutdown | .endAccepting | .hear _ | .write _ _ => []

variable [DecidableEq τ]

/-- The steps of the registry within a move. -/
def callsAt (now : Nat) (s : Service τ) (move : Move τ) : List (Call τ) :=
  (drive Registry.step now s.registry ((s.calls move).map fun m => (now, m))).elim [] Prod.fst

/-- The course of the registry. -/
def registrySteps (ts : List (Step τ)) : List (Call τ) :=
  ts.flatMap fun t => t.before.callsAt t.now t.move

theorem registrySteps_snoc (ts : List (Step τ)) (t : Step τ) :
    registrySteps (ts ++ [t]) = registrySteps ts ++ t.before.callsAt t.now t.move := by
  rw [registrySteps, List.flatMap_append, List.flatMap_singleton]
  rfl

section

variable {now : Nat} {s : Service τ} {move : Move τ}
  {r r' : Registry (Party τ) (Snapshot Float)} {os : List (Registry.Outcome (Party τ))}

/-- A move that makes one move of the registry. -/
theorem callsAt_one {m : Registry.Move (Party τ) (Snapshot Float)} (hm : s.calls move = [m])
    (h : s.registry.step now m = some (r, os)) :
    s.callsAt now move = [⟨now, s.registry, m, r, os⟩] := by
  simp [callsAt, hm, drive, h]

/-- A move that makes two moves of the registry. -/
theorem callsAt_two {m m' : Registry.Move (Party τ) (Snapshot Float)} (hm : s.calls move = [m, m'])
    (h : s.registry.step now m = some (r, [])) (h' : r.step now m' = some (r', [])) :
    s.callsAt now move = [⟨now, s.registry, m, r, []⟩, ⟨now, r, m', r', []⟩] := by
  simp [callsAt, hm, drive, h, h']

end

/-! ## 3. Steps -/

omit [DecidableEq τ] in
/-- **The task of a peer gives its subscription back.** -/
inductive Parts (s : Service τ) (n : Nat) (p : Peer) : Move τ → Prop where
  /-- The subscription has ended. -/
  | ended (c : Channel (Snapshot Float)) (hw : p.place = .waiting)
      (hc : s.registry.channel? p.id = some c) (he : c.poll = .ended) : Parts s n p (.take n)
  | failed (rest : List UInt8) (hw : p.place = .writing rest) : Parts s n p (.failWrite n)
  /-- The peer has gone away. -/
  | left (hw : p.place = .waiting) : Parts s n p (.leave n)

/-- **Everything that a step can do**, with the steps of the registry in it. -/
inductive Effect (now : Nat) (s : Service τ) :
    Move τ → Service τ → List (Registry.Outcome τ) → List (Call τ) → Prop where
  | accept (r : Registry (Party τ) (Snapshot Float)) (ha : s.acceptor = .listening)
      (hs : s.shutdown = false)
      (h : s.registry.draw.ask .acceptor (.subscribe s.registry.nextId) = some r) :
      Effect now s .accept { s with registry := r, acceptor := .attaching s.registry.nextId } []
        [⟨now, s.registry, .draw, s.registry.draw, []⟩,
          ⟨now, s.registry.draw, .ask .acceptor (.subscribe s.registry.nextId), r, []⟩]
  | shutdown : Effect now s .shutdown { s with shutdown := true } [] []
  | endAccepting (ha : s.acceptor = .listening) (hs : s.shutdown = true) :
      Effect now s .endAccepting { s with acceptor := .ended } [] []
  | hear (n : Nat) : Effect now s (.hear n) s [] []
  | take (n : Nat) (p : Peer) (c rest : Channel (Snapshot Float)) (snapshot : Snapshot Float)
      (hp : s.peers[n]? = some p) (hw : p.place = .waiting)
      (hc : s.registry.channel? p.id = some c) (hi : c.poll = .item snapshot rest) :
      Effect now s (.take n) ({ s with
        registry := s.registry.modifyChannel p.id fun _ => rest }.modifyPeer n
          fun p => p.take snapshot) []
        [⟨now, s.registry, .receive p.id, s.registry.modifyChannel p.id fun _ => rest, []⟩]
  | write (n count : Nat) (p p' : Peer) (hp : s.peers[n]? = some p)
      (hw : p.write count = some p') :
      Effect now s (.write n count) (s.modifyPeer n fun _ => p') [] []
  | part (move : Move τ) (n : Nat) (p : Peer) (r : Registry (Party τ) (Snapshot Float))
      (hp : s.peers[n]? = some p) (hm : Parts s n p move)
      (h : (s.registry.modifyChannel p.id Channel.dropReceiver).ask (.peer n) (.remove p.id) =
        some r) :
      Effect now s move
        ({ s with registry := r }.modifyPeer n fun p => { p with place := .detaching }) []
        [⟨now, s.registry, .drop p.id, s.registry.modifyChannel p.id Channel.dropReceiver, []⟩,
          ⟨now, s.registry.modifyChannel p.id Channel.dropReceiver,
            .ask (.peer n) (.remove p.id), r, []⟩]
  /-- The registry does something of its own or for another task. -/
  | beside (m : Registry.Move (Party τ) (Snapshot Float))
      (r : Registry (Party τ) (Snapshot Float)) (os : List (Registry.Outcome (Party τ)))
      (out : List (Registry.Outcome τ)) (hf : s.isForeign m = true)
      (h : s.registry.step now m = some (r, os))
      (ho : ∀ task answer, .done task answer ∈ os → ∃ other, task = .other other) :
      Effect now s (.registry m) { s with registry := r } out [⟨now, s.registry, m, r, os⟩]
  /-- The loop that accepts peers gets the lock. -/
  | attach (m : Registry.Move (Party τ) (Snapshot Float))
      (r : Registry (Party τ) (Snapshot Float)) (id : SubscriberId) (hf : s.isForeign m = true)
      (h : s.registry.step now m = some (r, [.done .acceptor (.subscribed id)])) :
      Effect now s (.registry m)
        { s with registry := r, acceptor := .listening, peers := s.peers ++ [Peer.attached id] } []
        [⟨now, s.registry, m, r, [.done .acceptor (.subscribed id)]⟩]
  /-- The loop gets another answer than it waits for. -/
  | mistake (m : Registry.Move (Party τ) (Snapshot Float))
      (r : Registry (Party τ) (Snapshot Float)) (answer : Registry.Answer)
      (hf : s.isForeign m = true) (h : s.registry.step now m = some (r, [.done .acceptor answer]))
      (ha : ∀ id, answer ≠ .subscribed id) :
      Effect now s (.registry m) { s with registry := r } []
        [⟨now, s.registry, m, r, [.done .acceptor answer]⟩]
  /-- The task of a peer gets the lock. -/
  | detach (m : Registry.Move (Party τ) (Snapshot Float))
      (r : Registry (Party τ) (Snapshot Float)) (n : Nat) (answer : Registry.Answer)
      (hf : s.isForeign m = true) (h : s.registry.step now m = some (r, [.done (.peer n) answer])) :
      Effect now s (.registry m)
        ({ s with registry := r }.modifyPeer n fun p => { p with place := .ended }) []
        [⟨now, s.registry, m, r, [.done (.peer n) answer]⟩]

section

variable {now : Nat} {s s' : Service τ} {move : Move τ} {out : List (Registry.Outcome τ)}
  {r r' : Registry (Party τ) (Snapshot Float)} {os : List (Registry.Outcome (Party τ))}
  {m : Registry.Move (Party τ) (Snapshot Float)} {rs : List (Call τ)}

omit [DecidableEq τ] in
theorem detach_eq {n : Nat} {p : Peer} (h : s.detach n p = some s') :
    ∃ r, (s.registry.modifyChannel p.id Channel.dropReceiver).ask (.peer n) (.remove p.id) =
      some r ∧
      s' = { s with registry := r }.modifyPeer n fun p => { p with place := .detaching } := by
  simp only [detach, Option.bind_eq_bind, Option.bind_eq_some_iff] at h
  obtain ⟨r, hr, h⟩ := h
  cases h
  exact ⟨r, hr, rfl⟩

/-- A step of the registry brings one outcome at most. -/
theorem outcomes_of_step (h : r.step now m = some (r', os)) :
    os = [] ∨ (∃ e, os = [.event e]) ∨ ∃ task answer, os = [.done task answer] := by
  cases Registry.effect_of_step h with
  | draw | ask | deliver | lose | cancel | receive | drop => exact .inl rfl
  | grant task request waiters _ _ hh hw hp =>
    rcases Registry.requestsOf_perform (r := { r with waiters }) hh hp with
      ⟨-, -, hos, -⟩ | ⟨answer, -, hos, -⟩
    · exact .inl hos
    · exact .inr (.inr ⟨task, answer, hos⟩)
  | skip => exact .inr (.inl ⟨_, rfl⟩)
  | finish d => exact .inr (.inr ⟨d.task, .delivered, rfl⟩)

omit [DecidableEq τ] in
theorem Parts.calls {n : Nat} {p : Peer} (hm : Parts s n p move) (hp : s.peers[n]? = some p) :
    s.calls move = parting n p.id := by
  cases hm with
  | ended c hw hc he => simp [Service.calls, hp, hc, he]
  | failed | left => simp [Service.calls, hp]

/-- The task of a peer gives its subscription back, and does nothing else. -/
theorem effect_of_detach {n : Nat} {p : Peer} (hp : s.peers[n]? = some p) (hm : Parts s n p move)
    (h : s.detach n p = some s') : Effect now s move s' [] (s.callsAt now move) := by
  obtain ⟨r, hr, rfl⟩ := detach_eq h
  rw [callsAt_two (hm.calls hp) rfl (by rw [Registry.step, hr]; rfl)]
  exact .part move n p r hp hm hr

theorem effect_of_accept (h : s.accept = some s') :
    Effect now s .accept s' [] (s.callsAt now .accept) := by
  unfold accept at h
  split at h
  · rename_i hl hs
    simp only [Option.bind_eq_bind, Option.bind_eq_some_iff] at h
    obtain ⟨r, hr, h⟩ := h
    cases h
    rw [callsAt_two rfl rfl (by rw [Registry.step, hr]; rfl)]
    exact .accept r hl hs hr
  · cases h

theorem effect_of_take {n : Nat} (h : s.take n = some s') :
    Effect now s (.take n) s' [] (s.callsAt now (.take n)) := by
  simp only [take, Option.bind_eq_bind, Option.bind_eq_some_iff] at h
  obtain ⟨p, hp, h⟩ := h
  split at h
  · cases h
  · rename_i hw
    have hw : p.place = .waiting := Decidable.not_not.mp hw
    simp only [Option.bind_eq_some_iff] at h
    obtain ⟨c, hc, h⟩ := h
    split at h
    · rename_i snapshot rest hi
      cases h
      have hm : s.calls (.take n) = [.receive p.id] := by simp [calls, hp, hc, hi]
      have hr : s.registry.step now (.receive p.id) =
          some (s.registry.modifyChannel p.id fun _ => rest, []) := by
        simp [Registry.step, hc, hi]
      rw [callsAt_one hm hr]
      exact .take n p c rest snapshot hp hw hc hi
    · cases h
    · rename_i hend
      exact effect_of_detach hp (.ended c hw hc hend) h

/-- What the loop and the peers make of a step of the registry. -/
theorem effect_of_call (hf : s.isForeign m = true) (h : s.registry.step now m = some (r, os)) :
    Effect now s (.registry m) ({ s with registry := r }.note os).1
      ({ s with registry := r }.note os).2 [⟨now, s.registry, m, r, os⟩] := by
  rcases outcomes_of_step h with rfl | ⟨e, rfl⟩ | ⟨task, answer, rfl⟩
  · exact .beside m r [] [] hf h fun _ _ ho => absurd ho List.not_mem_nil
  · refine .beside m r [.event e] [.event e] hf h fun _ _ ho => ?_
    cases List.mem_singleton.mp ho
  · cases task with
    | acceptor =>
      cases answer with
      | subscribed id => exact .attach m r id hf h
      | removed | delivered | stopped | counted => exact .mistake m r _ hf h nofun
    | peer n => exact .detach m r n answer hf h
    | other task =>
      refine .beside m r _ [.done task answer] hf h fun _ _ ho => ?_
      cases List.mem_singleton.mp ho
      exact ⟨task, rfl⟩

/-- **A step does nothing else.** -/
theorem effect_of_step (h : s.step now move = some (s', out)) :
    Effect now s move s' out (s.callsAt now move) := by
  cases move with
  | accept =>
    obtain ⟨t, ha, e⟩ := Option.map_eq_some_iff.mp h
    cases e
    exact effect_of_accept ha
  | shutdown =>
    cases h
    exact .shutdown
  | endAccepting =>
    obtain ⟨t, ha, e⟩ := Option.map_eq_some_iff.mp h
    cases e
    unfold endAccepting at ha
    split at ha
    · rename_i hl hs
      cases ha
      exact .endAccepting hl hs
    · cases ha
  | hear n =>
    simp only [step] at h
    split at h
    · cases h
      exact .hear n
    · cases h
  | take n =>
    obtain ⟨t, ht, e⟩ := Option.map_eq_some_iff.mp h
    cases e
    exact effect_of_take ht
  | write n count =>
    simp only [step, Option.bind_eq_bind, Option.bind_eq_some_iff] at h
    obtain ⟨p, hp, p', hw, e⟩ := h
    cases e
    exact .write n count p p' hp hw
  | failWrite n =>
    obtain ⟨t, ht, e⟩ := Option.map_eq_some_iff.mp h
    cases e
    simp only [failWrite, Option.bind_eq_bind, Option.bind_eq_some_iff] at ht
    obtain ⟨p, hp, ht⟩ := ht
    split at ht
    · rename_i rest hw
      exact effect_of_detach hp (.failed rest hw) ht
    · cases ht
  | leave n =>
    obtain ⟨t, ht, e⟩ := Option.map_eq_some_iff.mp h
    cases e
    simp only [leave, Option.bind_eq_bind, Option.bind_eq_some_iff] at ht
    obtain ⟨p, hp, ht⟩ := ht
    split at ht
    · rename_i hw
      exact effect_of_detach hp (.left hw) ht
    · cases ht
  | registry m =>
    simp only [step] at h
    split at h
    · rename_i hf
      obtain ⟨⟨r, os⟩, hr, e⟩ := Option.map_eq_some_iff.mp h
      rw [callsAt_one rfl hr]
      have hs' : ({ s with registry := r }.note os).1 = s' := congrArg Prod.fst e
      have hout : ({ s with registry := r }.note os).2 = out := congrArg Prod.snd e
      rw [← hs', ← hout]
      exact effect_of_call hf hr
    · cases h

/-! ## 4. The peers after a step -/

omit [DecidableEq τ] in
/-- A peer whose task did something, or another one. -/
theorem of_modifyPeer {n i : Nat} {f : Peer → Peer} {p' : Peer}
    (h : (s.modifyPeer n f).peers[i]? = some p') :
    ∃ p, s.peers[i]? = some p ∧ (i = n ∧ p' = f p ∨ i ≠ n ∧ p' = p) := by
  have h : (s.peers.modify n f)[i]? = some p' := h
  rw [List.getElem?_modify] at h
  obtain ⟨p, hp, e⟩ := Option.map_eq_some_iff.mp h
  refine ⟨p, hp, ?_⟩
  by_cases hi : n = i
  · rw [if_pos hi] at e
    exact .inl ⟨hi.symm, e.symm⟩
  · rw [if_neg hi] at e
    exact .inr ⟨Ne.symm hi, e.symm⟩

/-- A peer that was attached before, or the last one. -/
theorem of_attached {peers : List Peer} {q p : Peer} {i : Nat}
    (h : (peers ++ [q])[i]? = some p) : peers[i]? = some p ∨ i = peers.length ∧ p = q := by
  rcases Nat.lt_trichotomy i peers.length with hi | rfl | hi
  · rw [List.getElem?_append_left hi] at h
    exact .inl h
  · rw [List.getElem?_concat_length] at h
    exact .inr ⟨rfl, (Option.some.inj h).symm⟩
  · rw [List.getElem?_eq_none (by simpa using Nat.succ_le_of_lt hi)] at h
    cases h

/-! ## 5. Runs -/

/-- The steps of the registry within a step lead from its state before to that after. -/
theorem Effect.course (he : Effect now s move s' out rs) :
    Course Registry.step now s.registry rs now s'.registry := by
  have one : ∀ {r r' : Registry (Party τ) (Snapshot Float)} {m os},
      r.step now m = some (r', os) → Course Registry.step now r [⟨now, r, m, r', os⟩] now r' :=
    fun h => Course.start.step h
  cases he with
  | accept r ha hs h => exact (Course.start.step rfl).step (by rw [Registry.step, h]; rfl)
  | shutdown | endAccepting | hear | write => exact .start
  | take n p c rest snapshot hp hw hc hi => exact one (by simp [Registry.step, hc, hi])
  | part move n p r hp hm h => exact (Course.start.step rfl).step (by rw [Registry.step, h]; rfl)
  | beside m r os out hf h => exact one h
  | attach m r id hf h => exact one h
  | mistake m r answer hf h => exact one h
  | detach m r n answer hf h => exact one h

/-- **The registry of a service follows a course of its own.** -/
theorem registry_course {start : Nat} {ts : List (Step τ)}
    (h : Course step start (Service.start r) ts now s) :
    Course Registry.step start r (registrySteps ts) now s.registry := by
  induction h with
  | start => exact .start
  | wait _ hle ih => exact ih.wait hle
  | step _ hs ih =>
    rw [registrySteps_snoc]
    exact ih.append (effect_of_step hs).course

end

end Service

end Streaming

end Vitals
