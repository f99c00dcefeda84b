import Vitals.Proofs.Record.Lines
import Vitals.Proofs.Streaming.Requests

/-!
# What is written to a peer

The task of a peer writes one line at a time, in as many pieces as the connection takes, and takes
the next snapshot when it is through with the line of the last one. This file fixes

* `streamOf`, the lines of snapshots, as a peer should get them;
* `Peer.Lacks`, what is missing when the last line is not through;
* `Peer.Wrote`, what was written to a peer, by where its task stands.

Main statement: every step of the service keeps to that (`wrote_of_course`).
-/

namespace Vitals.Streaming

/-! ## 1. Lines -/

/-- The lines of snapshots. Those that have no record are left out. -/
def streamOf (snapshots : List (Snapshot Float)) : List UInt8 :=
  snapshots.flatMap fun s =>
    match s.recordBytes with
    | .ok record => record ++ [10]
    | .error _ => []

theorem streamOf_snoc (snapshots : List (Snapshot Float)) (s : Snapshot Float) :
    streamOf (snapshots ++ [s]) = streamOf snapshots ++ streamOf [s] :=
  List.flatMap_append

/-- The line of a snapshot that has a record. -/
theorem streamOf_of_some {s : Snapshot Float} {line : List UInt8} (h : line? s = some line) :
    ∃ record, s.recordBytes = .ok record ∧ line = record ++ [10] ∧ streamOf [s] = line := by
  cases hr : s.recordBytes with
  | ok record =>
    have hline := (line?_of_recordBytes hr).symm.trans h
    cases hline
    exact ⟨record, rfl, rfl, by simp [streamOf, hr, Log.RotatingLog.line]⟩
  | error fault =>
    rw [line?] at h
    cases hs : s.record with
    | ok text => simp [Snapshot.recordBytes, hs, Except.map] at hr
    | error fault => simp [hs] at h

theorem streamOf_of_none {s : Snapshot Float} (h : line? s = none) : streamOf [s] = [] := by
  cases hr : s.recordBytes with
  | ok record => exact nomatch (line?_of_recordBytes hr).symm.trans h
  | error fault => simp [streamOf, hr]

/-! ## 2. Peers -/

namespace Peer

/-- **Everything but the end of the last line was written.** -/
structure Lacks (p : Peer) (rest : List UInt8) : Prop where
  most : p.written ++ rest = streamOf p.taken
  last : ∃ early s record, p.taken = early ++ [s] ∧ s.recordBytes = .ok record ∧
    rest <:+ record ++ [10]
  missing : rest ≠ []

/-- **What was written to a peer.** -/
inductive Wrote (failed : Prop) (p : Peer) : Prop where
  | whole (h : p.written = streamOf p.taken) (hw : ∀ rest, p.place ≠ .writing rest)
  /-- The task is still at the last line. -/
  | halfway (rest : List UInt8) (hw : p.place = .writing rest) (h : p.Lacks rest)
  /-- A write has failed, and the task goes on no more. -/
  | cut (rest : List UInt8) (hw : p.place = .detaching ∨ p.place = .ended) (h : p.Lacks rest)
      (hf : failed)

variable {failed other : Prop} {p p' : Peer}

theorem Wrote.mono (h : p.Wrote failed) (hf : failed → other) : p.Wrote other := by
  cases h with
  | whole h hw => exact .whole h hw
  | halfway rest hw h => exact .halfway rest hw h
  | cut rest hw h hfail => exact .cut rest hw h (hf hfail)

theorem Wrote.of_waiting (h : p.Wrote failed) (hw : p.place = .waiting) :
    p.written = streamOf p.taken := by
  cases h with
  | whole h => exact h
  | halfway rest hw' => exact nomatch hw.symm.trans hw'
  | cut rest hw' => rcases hw' with hw' | hw' <;> exact nomatch hw.symm.trans hw'

theorem Wrote.of_writing {rest : List UInt8} (h : p.Wrote failed) (hw : p.place = .writing rest) :
    p.Lacks rest := by
  cases h with
  | whole _ hw' => exact absurd hw (hw' rest)
  | halfway rest' hw' h =>
    cases hw.symm.trans hw'
    exact h
  | cut rest hw' => rcases hw' with hw' | hw' <;> exact nomatch hw.symm.trans hw'

/-- A snapshot is taken when the last line is through. -/
theorem Wrote.take (h : p.Wrote failed) (hw : p.place = .waiting) (s : Snapshot Float) :
    (p.take s).Wrote failed := by
  have hall := h.of_waiting hw
  rcases p.take_cases s with ⟨line, hline, e⟩ | ⟨hnone, e⟩
  · obtain ⟨record, hr, rfl, hs⟩ := streamOf_of_some hline
    rw [e]
    refine .halfway _ rfl ⟨?_, ⟨p.taken, s, record, rfl, hr, List.suffix_rfl⟩, by simp⟩
    rw [streamOf_snoc, hs, ← hall]
  · rw [e]
    refine .whole ?_ fun rest e => nomatch hw.symm.trans e
    rw [streamOf_snoc, streamOf_of_none hnone, List.append_nil]
    exact hall

theorem Wrote.ended (h : p.Wrote failed) (hw : p.place = .detaching) :
    ({ p with place := .ended } : Peer).Wrote failed := by
  cases h with
  | whole h => exact .whole h nofun
  | halfway rest hw' => exact nomatch hw.symm.trans hw'
  | cut rest _ h hf => exact .cut rest (.inr rfl) ⟨h.most, h.last, h.missing⟩ hf

/-- Some bytes of a line are written. -/
theorem Wrote.write {count : Nat} (h : p.Wrote failed) (hw : p.write count = some p') :
    p'.Wrote failed := by
  obtain ⟨rest, hplace, rfl⟩ := write_cases hw
  obtain ⟨hmost, ⟨early, s, record, htaken, hr, hsuffix⟩, -⟩ := h.of_writing hplace
  have hmost' : p.written ++ rest.take count ++ rest.drop count = streamOf p.taken := by
    rw [List.append_assoc, List.take_append_drop, hmost]
  by_cases hleft : rest.drop count = []
  · rw [hleft, List.append_nil] at hmost'
    exact .whole hmost' fun rest' => by simp [hleft]
  · refine .halfway (rest.drop count) (if_neg hleft) ⟨hmost', ?_, hleft⟩
    exact ⟨early, s, record, htaken, hr, (List.drop_suffix _ _).trans hsuffix⟩

end Peer

/-! ## 3. Runs -/

namespace Service

variable {τ : Type} [DecidableEq τ] {now start : Nat} {s s' : Service τ} {move : Move τ}
  {out : List (Registry.Outcome τ)} {ts : List (Step τ)} {rs : List (Call τ)}

/-- A write to a peer has failed. -/
def WriteFailed (n : Nat) (ts : List (Step τ)) : Prop :=
  ∃ t ∈ ts, t.move = .failWrite n

omit [DecidableEq τ] in
theorem writeFailed_snoc {n : Nat} (h : WriteFailed n ts) (t : Step τ) :
    WriteFailed n (ts ++ [t]) := by
  obtain ⟨u, hu, hm⟩ := h
  exact ⟨u, List.mem_append_left _ hu, hm⟩

omit [DecidableEq τ] in
/-- A task that gives its subscription back has written whole lines, or a write has failed. -/
theorem Parts.wrote {n : Nat} {p : Peer} (hm : Parts s n p move) (h : p.Wrote (WriteFailed n ts)) :
    ({ p with place := .detaching } : Peer).Wrote
      (WriteFailed n (ts ++ [⟨now, s, move, s', out⟩])) := by
  cases hm with
  | ended c hw | left hw => exact .whole (h.of_waiting hw) nofun
  | failed rest hw =>
    obtain ⟨hmost, hlast, hmissing⟩ := h.of_writing hw
    exact .cut rest (.inl rfl) ⟨hmost, hlast, hmissing⟩ ⟨_, List.mem_concat_self .., rfl⟩

/-- **A step keeps it.** -/
theorem wrote_of_effect (hasks : Asks s.registry s.acceptor s.peers)
    (h : ∀ n (p : Peer), s.peers[n]? = some p → p.Wrote (WriteFailed n ts))
    (he : Effect now s move s' out rs) (i : Nat) (p' : Peer) (hp' : s'.peers[i]? = some p') :
    p'.Wrote (WriteFailed i (ts ++ [⟨now, s, move, s', out⟩])) := by
  have hkeep : ∀ {p : Peer}, p.Wrote (WriteFailed i ts) →
      p.Wrote (WriteFailed i (ts ++ [⟨now, s, move, s', out⟩])) := fun hp =>
    hp.mono fun hf => writeFailed_snoc hf _
  cases he with
  | accept | shutdown | endAccepting | hear | beside | mistake => exact hkeep (h i p' hp')
  | take n p c rest snapshot hp hw =>
    obtain ⟨q, hq, ⟨rfl, rfl⟩ | ⟨-, rfl⟩⟩ := of_modifyPeer hp'
    · cases hp.symm.trans hq
      exact hkeep ((h i p hp).take hw snapshot)
    · exact hkeep (h i _ hq)
  | write n count p _ hp hw =>
    obtain ⟨q, hq, ⟨rfl, rfl⟩ | ⟨-, rfl⟩⟩ := of_modifyPeer hp'
    · exact hkeep ((h i p hp).write hw)
    · exact hkeep (h i _ hq)
  | part _ n p r hp hm =>
    obtain ⟨q, hq, ⟨rfl, rfl⟩ | ⟨-, rfl⟩⟩ := of_modifyPeer hp'
    · cases hp.symm.trans hq
      exact hm.wrote (h i p hp)
    · exact hkeep (h i _ hq)
  | attach m r id =>
    obtain hp | ⟨-, rfl⟩ := of_attached hp'
    · exact hkeep (h i p' hp)
    · exact .whole rfl nofun
  | detach m r n answer hf hs =>
    obtain ⟨q, hq, ⟨rfl, rfl⟩ | ⟨-, rfl⟩⟩ := of_modifyPeer hp'
    · obtain ⟨p, hp, hplace, -⟩ := hasks.detaching hf hs
      cases hp.symm.trans hq
      exact hkeep ((h i _ hq).ended hplace)
    · exact hkeep (h i _ hq)

/-- **What was written to peers**, in every state that a service reaches. -/
theorem wrote_of_course {buffer : Nat} {policy : DeliveryPolicy}
    (h : Course step start (Service.start (Registry.new buffer policy)) ts now s) (n : Nat)
    (p : Peer) (hp : s.peers[n]? = some p) : p.Wrote (WriteFailed n ts) := by
  induction h generalizing n p with
  | start => cases hp
  | wait _ _ ih => exact ih n p hp
  | step h hs ih => exact wrote_of_effect (asks_of_course h) ih (effect_of_step hs) n p hp

end Service

end Vitals.Streaming
