import Mathlib.Data.List.TakeWhile
import Vitals.Proofs.Window.Partition

/-!
# When windows end

The end of a window is counted from the planned end of the one before it, by the length of a window
in the phase that was reached when the snapshot of that one was sent. A send that waits for room may
be overtaken by the ends of many windows, and the phase may change while it waits. This file
compares the deadlines of a course with a plan that knows neither the samples nor the receiver. It
fixes

* `startOn`, an aggregator with a channel that may already be in use;
* `Step.fired?` and `firings`, the deadlines of the windows that ended, `warmups`, how many of them
  belong to the warm-up, and `planned`, where each of them lies;
* `Busy`, whether an aggregator can make a move of its own, and `Blocked`, whether it waits for
  room; on a course of `PromptCourse` time passes only while it is not busy;
* `Scheduled`, `Punctual` and `Leading`, the invariants: what the deadlines are, that nothing but a
  send that waits for room lets one pass, and what the first snapshot holds;
* `Schedule` and `InTime`, what a course says of its deadlines.

Main statement: every course of an aggregator keeps its schedule (`windows_keep_schedule`).
-/

namespace Vitals.Aggregation

variable {ν : Type} [Averageable ν]

/-! ## 1. Deadlines -/

/-- An aggregator that starts at an instant, with a channel in any state; `start` is the case of a
new one. -/
def startOn (warmup steady : Duration) (output : Channel (Snapshot ν)) (now : Nat) :
    Aggregation ν :=
  { aggregator := Aggregator.start warmup steady now, output }

/-- The deadline of the window that a step ends. -/
def Step.fired? (t : Step ν) : Option Nat :=
  match t.move, t.before.aggregator.stand with
  | .own (.fire _), .waiting deadline => some deadline
  | _, _ => none

/-- The deadlines of the windows that ended so far. -/
def firings (ts : List (Step ν)) : List Nat :=
  ts.filterMap Step.fired?

/-- The steps before the first one that places a snapshot. -/
def lead (ts : List (Step ν)) : List (Step ν) :=
  ts.takeWhile fun t => t.placed?.isNone

/-- The number of windows that ended before a snapshot was placed. -/
def warmups (ts : List (Step ν)) : Nat :=
  (firings (lead ts)).length

/-- The planned end of window `i`, counted from one, if the first `a` windows are of the warm-up. -/
def planned (start₀ : Nat) (warmup steady : Duration) (a i : Nat) : Nat :=
  if i ≤ a then start₀ + i * warmup.nanos
  else start₀ + a * warmup.nanos + (i - a) * steady.nanos

/-- The phase of an aggregator with a past. -/
def phaseAfter (ts : List (Step ν)) : WindowPhase :=
  if (placed ts).isEmpty then .warmup else .steady

section Plan

variable {start₀ : Nat} {warmup steady : Duration} {a i n : Nat}

theorem planned_of_le (h : i ≤ a) : planned start₀ warmup steady a i = start₀ + i * warmup.nanos :=
  if_pos h

/-- The plan of the windows that ended does not depend on whether one more is of the warm-up. -/
theorem planned_succ_left (h : i ≤ a) :
    planned start₀ warmup steady (a + 1) i = planned start₀ warmup steady a i := by
  rw [planned_of_le h, planned_of_le (Nat.le_succ_of_le h)]

theorem planned_succ_self :
    planned start₀ warmup steady (a + 1) (a + 1) =
      planned start₀ warmup steady a a + warmup.nanos := by
  rw [planned_of_le (Nat.le_refl _), planned_of_le (Nat.le_refl _), Nat.succ_mul, Nat.add_assoc]

theorem planned_succ_right (h : a ≤ n) :
    planned start₀ warmup steady a (n + 1) = planned start₀ warmup steady a n + steady.nanos := by
  obtain ⟨k, rfl⟩ := Nat.exists_eq_add_of_le h
  have hk : a + k + 1 - a = k + 1 := by omega
  rw [planned, if_neg (by omega), hk, Nat.succ_mul, ← Nat.add_assoc]
  by_cases h0 : k = 0
  · subst h0
    rw [Nat.add_zero, planned_of_le (Nat.le_refl a), Nat.zero_mul, Nat.add_zero]
  · rw [planned, if_neg (by omega), Nat.add_sub_cancel_left]

end Plan

section Past

variable (ts : List (Step ν)) {t : Step ν}

omit [Averageable ν] in
theorem firings_snoc : firings (ts ++ [t]) = firings ts ++ t.fired?.toList :=
  filterMap_snoc _ ts t

omit [Averageable ν] in
theorem firings_of_none (h : t.fired? = none) : firings (ts ++ [t]) = firings ts := by
  rw [firings_snoc, h, Option.toList_none, List.append_nil]

omit [Averageable ν] in
theorem firings_of_fired {deadline : Nat} (h : t.fired? = some deadline) :
    firings (ts ++ [t]) = firings ts ++ [deadline] := by
  rw [firings_snoc, h, Option.toList_some]

omit [Averageable ν] in
theorem placed_of_none (h : t.placed? = none) : placed (ts ++ [t]) = placed ts := by
  rw [placed_snoc, h, Option.toList_none, List.append_nil]

omit [Averageable ν] in
theorem phaseAfter_of_none (h : t.placed? = none) : phaseAfter (ts ++ [t]) = phaseAfter ts := by
  rw [phaseAfter, phaseAfter, placed_of_none ts h]

omit [Averageable ν] in
theorem phaseAfter_of_placed {x : Snapshot ν} (h : t.placed? = some x) :
    phaseAfter (ts ++ [t]) = .steady := by
  rw [phaseAfter, if_neg]
  simp [placed_snoc, h]

variable {ts}

omit [Averageable ν] in
theorem isNone_placed?_of_placed (h : placed ts = []) : ∀ t ∈ ts, t.placed?.isNone = true :=
  fun t ht => Option.isNone_iff_eq_none.mpr (List.filterMap_eq_nil_iff.mp h t ht)

omit [Averageable ν] in
theorem lead_of_placed (h : placed ts = []) : lead ts = ts :=
  List.takeWhile_eq_self_iff.mpr (isNone_placed?_of_placed h)

omit [Averageable ν] in
/-- Once a snapshot was placed, the steps before that are known. -/
theorem lead_snoc_of_placed_ne (h : placed ts ≠ []) : lead (ts ++ [t]) = lead ts := by
  refine List.takeWhile_append.trans (if_neg fun hlen => h ?_)
  have hself : lead ts = ts := (List.takeWhile_prefix _).eq_of_length hlen
  exact List.filterMap_eq_nil_iff.mpr fun t ht =>
    Option.isNone_iff_eq_none.mp (List.takeWhile_eq_self_iff.mp hself t ht)

omit [Averageable ν] in
theorem warmups_of_placed (h : placed ts = []) : warmups ts = (firings ts).length := by
  rw [warmups, lead_of_placed h]

omit [Averageable ν] in
theorem warmups_le (ts : List (Step ν)) : warmups ts ≤ (firings ts).length :=
  ((List.takeWhile_sublist _).filterMap _).length_le

omit [Averageable ν] in
/-- A step that ends no window leaves the number of those of the warm-up, and so does every step
after the warm-up. -/
theorem warmups_snoc (h : placed ts ≠ [] ∨ t.fired? = none) :
    warmups (ts ++ [t]) = warmups ts := by
  by_cases hp : placed ts = []
  · have hf : t.fired? = none := h.resolve_left (not_not_intro hp)
    have hlead : lead (ts ++ [t]) = ts ++ lead [t] :=
      List.takeWhile_append_of_pos (isNone_placed?_of_placed hp)
    have hnone : firings (lead [t]) = [] :=
      List.filterMap_eq_nil_iff.mpr fun u hu => by
        rw [List.mem_singleton.mp ((List.takeWhile_sublist _).subset hu)]
        exact hf
    rw [warmups_of_placed hp, warmups, hlead, firings, List.filterMap_append]
    exact congrArg List.length ((congrArg _ hnone).trans (List.append_nil _))
  · rw [warmups, warmups, lead_snoc_of_placed_ne hp]

end Past

/-! ## 2. The plan is kept -/

/-- **The deadlines of a course are as planned.** -/
structure Scheduled (start₀ : Nat) (warmup steady : Duration) (ts : List (Step ν))
    (s : Aggregation ν) : Prop where
  lengths : s.aggregator.warmup = warmup ∧ s.aggregator.steady = steady
  phase : s.aggregator.phase = phaseAfter ts
  past : ∀ (i deadline : Nat), (firings ts)[i]? = some deadline →
    deadline = planned start₀ warmup steady (warmups ts) (i + 1)
  /-- The window that is open ends one length after the last one. -/
  ahead : ∀ deadline, s.aggregator.stand = .waiting deadline →
    deadline = planned start₀ warmup steady (warmups ts) (firings ts).length
      + s.aggregator.length s.aggregator.phase
  owed : ∀ snapshot deadline, s.aggregator.stand = .sending snapshot deadline →
    deadline = planned start₀ warmup steady (warmups ts) (firings ts).length

section

variable {start₀ : Nat} {warmup steady : Duration} {ts : List (Step ν)} {now : Nat}
  {s t : Aggregation ν} {move : Move ν} {out : List Event}

omit [Averageable ν] in
theorem fired?_of_waiting {stamp : Moment} {deadline : Nat}
    (hs : s.aggregator.stand = .waiting deadline) :
    Step.fired? ⟨now, s, .own (.fire stamp), t, out⟩ = some deadline := by
  simp only [Step.fired?, hs]

omit [Averageable ν] in
theorem placed?_of_offer {snapshot : Snapshot ν} {deadline : Nat} {rest : Channel (Snapshot ν)}
    (hs : s.aggregator.stand = .sending snapshot deadline)
    (ho : s.output.offer snapshot = .accepted rest) :
    Step.placed? ⟨now, s, .own .send, t, out⟩ = some snapshot := by
  simp only [Step.placed?, hs, ho]

omit [Averageable ν] in
theorem placed?_of_refused {snapshot : Snapshot ν} {deadline : Nat}
    (hs : s.aggregator.stand = .sending snapshot deadline)
    (ho : s.output.offer snapshot = .refused) :
    Step.placed? ⟨now, s, .own .send, t, out⟩ = none := by
  simp only [Step.placed?, hs, ho]

theorem scheduled_start (output : Channel (Snapshot ν)) :
    Scheduled start₀ warmup steady [] (startOn warmup steady output start₀) where
  lengths := ⟨rfl, rfl⟩
  phase := rfl
  past _ _ h := by cases h
  ahead deadline h := by
    cases h
    show start₀ + warmup.nanos = planned start₀ warmup steady 0 0 + warmup.nanos
    rw [planned_of_le (Nat.le_refl 0), Nat.zero_mul, Nat.add_zero]
  owed _ _ h := by cases h

omit [Averageable ν] in
/-- A step that ends no window and places no snapshot keeps the plan, if the timer task stands as it
stood or has stopped. -/
theorem Scheduled.keep (hI : Scheduled start₀ warmup steady ts s)
    (hf : Step.fired? ⟨now, s, move, t, out⟩ = none)
    (hp : Step.placed? ⟨now, s, move, t, out⟩ = none)
    (hl : t.aggregator.warmup = s.aggregator.warmup ∧ t.aggregator.steady = s.aggregator.steady)
    (hph : t.aggregator.phase = s.aggregator.phase)
    (hst : t.aggregator.stand = s.aggregator.stand ∨ t.aggregator.stand = .stopped) :
    Scheduled start₀ warmup steady (ts ++ [⟨now, s, move, t, out⟩]) t := by
  have hlen : t.aggregator.length t.aggregator.phase = s.aggregator.length s.aggregator.phase := by
    rw [hph]
    cases s.aggregator.phase
    · exact congrArg Duration.nanos hl.1
    · exact congrArg Duration.nanos hl.2
  have hfirings := firings_of_none ts hf
  have hwarmups : warmups (ts ++ [⟨now, s, move, t, out⟩]) = warmups ts := warmups_snoc (.inr hf)
  refine ⟨⟨hl.1.trans hI.lengths.1, hl.2.trans hI.lengths.2⟩, ?_, ?_, fun d hd => ?_,
    fun x d hd => ?_⟩
  · rw [hph, hI.phase, phaseAfter_of_none ts hp]
  · rw [hfirings, hwarmups]
    exact hI.past
  · rw [hfirings, hwarmups, hlen]
    rcases hst with hst | hst
    · exact hI.ahead d (hst ▸ hd)
    · rw [hst] at hd
      cases hd
  · rw [hfirings, hwarmups]
    rcases hst with hst | hst
    · exact hI.owed x d (hst ▸ hd)
    · rw [hst] at hd
      cases hd

omit [Averageable ν] in
/-- A window that ends has the deadline that the plan has for it, and its end leaves the plan of
the windows before it. -/
theorem Scheduled.fire (hI : Scheduled start₀ warmup steady ts s) {u : Step ν} {deadline : Nat}
    (hs : s.aggregator.stand = .waiting deadline) (hf : u.fired? = some deadline)
    (hp : u.placed? = none) :
    deadline = planned start₀ warmup steady (warmups (ts ++ [u])) (firings (ts ++ [u])).length ∧
      ∀ i ≤ (firings ts).length, planned start₀ warmup steady (warmups (ts ++ [u])) i =
        planned start₀ warmup steady (warmups ts) i := by
  have hahead := hI.ahead deadline hs
  rw [hI.phase] at hahead
  have hlength : (firings (ts ++ [u])).length = (firings ts).length + 1 := by
    rw [firings_of_fired ts hf, List.length_append, List.length_singleton]
  by_cases hnone : placed ts = []
  · have hcount : warmups (ts ++ [u]) = warmups ts + 1 := by
      rw [warmups_of_placed ((placed_of_none ts hp).trans hnone), warmups_of_placed hnone, hlength]
    have hphase : phaseAfter ts = .warmup := by rw [phaseAfter, hnone]; rfl
    rw [hphase, ← warmups_of_placed hnone] at hahead
    rw [hlength, hcount, ← warmups_of_placed hnone, planned_succ_self]
    exact ⟨hahead.trans (congrArg _ (congrArg Duration.nanos hI.lengths.1)),
      fun i hi => planned_succ_left hi⟩
  · have hphase : phaseAfter ts = .steady := by
      rw [phaseAfter, if_neg (by rwa [List.isEmpty_iff])]
    rw [hphase] at hahead
    rw [hlength, warmups_snoc (.inl hnone), planned_succ_right (warmups_le ts)]
    exact ⟨hahead.trans (congrArg _ (congrArg Duration.nanos hI.lengths.2)), fun _ _ => rfl⟩

omit [Averageable ν] in
/-- What ended so far is as planned, also after one more window. -/
theorem Scheduled.past_fire (hI : Scheduled start₀ warmup steady ts s) {u : Step ν}
    {deadline : Nat} (hs : s.aggregator.stand = .waiting deadline)
    (hf : u.fired? = some deadline) (hp : u.placed? = none) (i d : Nat)
    (hi : (firings (ts ++ [u]))[i]? = some d) :
    d = planned start₀ warmup steady (warmups (ts ++ [u])) (i + 1) := by
  obtain ⟨hd, hold⟩ := hI.fire hs hf hp
  rw [firings_of_fired ts hf] at hi hd
  rcases Nat.lt_or_ge i (firings ts).length with hlt | hge
  · rw [List.getElem?_append_left hlt] at hi
    rw [hold (i + 1) hlt]
    exact hI.past i d hi
  · rw [List.getElem?_append_right hge, List.getElem?_singleton] at hi
    split at hi
    · rename_i hzero
      cases hi
      rw [Nat.le_antisymm (Nat.le_of_sub_eq_zero hzero) hge]
      rw [List.length_append, List.length_singleton] at hd
      exact hd
    · cases hi

/-- **Every step keeps the plan.** -/
theorem scheduled_step (hI : Scheduled start₀ warmup steady ts s) (he : Effect now s move t) :
    Scheduled start₀ warmup steady (ts ++ [⟨now, s, move, t, out⟩]) t := by
  cases he with
  | push x => exact hI.keep rfl rfl ⟨rfl, rfl⟩ rfl (.inl rfl)
  | pass stamp deadline hc hs hd hp =>
    refine ⟨hI.lengths, ?_, hI.past_fire hs (fired?_of_waiting hs) rfl, fun d hd' => ?_, nofun⟩
    · rw [phaseAfter_of_none ts rfl]
      exact hI.phase
    · cases hd'
      exact congrArg (· + _) (hI.fire hs (fired?_of_waiting hs) rfl).1
  | close stamp deadline hc hs hd hp =>
    refine ⟨hI.lengths, ?_, hI.past_fire hs (fired?_of_waiting hs) rfl, nofun, fun x d hd' => ?_⟩
    · rw [phaseAfter_of_none ts rfl]
      exact hI.phase
    · cases hd'
      exact (hI.fire hs (fired?_of_waiting hs) rfl).1
  | place snapshot deadline rest hc hs ho =>
    refine ⟨hI.lengths, ?_, ?_, fun d hd => ?_, nofun⟩
    · rw [phaseAfter_of_placed ts (placed?_of_offer hs ho)]
    · rw [firings_of_none ts rfl, warmups_snoc (.inr rfl)]
      exact hI.past
    · -- the phase that counts for the next window is the one that this step brings
      cases hd
      rw [firings_of_none ts rfl, warmups_snoc (.inr rfl), ← hI.owed snapshot deadline hs]
      rfl
  | refuse snapshot deadline hc hs ho =>
    exact hI.keep rfl (placed?_of_refused hs ho) ⟨rfl, rfl⟩ rfl (.inr rfl)
  | halt hc hs => exact hI.keep rfl rfl ⟨rfl, rfl⟩ rfl (.inr rfl)
  | receive | drop | cancel => exact hI.keep rfl rfl ⟨rfl, rfl⟩ rfl (.inl rfl)

/-- **The deadlines of every course are as planned**, whether or not it is prompt. -/
theorem scheduled_of_course {output : Channel (Snapshot ν)}
    (h : Course step start₀ (startOn warmup steady output start₀) ts now s) :
    Scheduled start₀ warmup steady ts s := by
  induction h with
  | start => exact scheduled_start output
  | step _ hs ih => exact scheduled_step ih (effect_of_step hs)
  | wait _ _ ih => exact ih

/-! ## 3. Time passes only while there is nothing to do -/

/-- Whether an aggregator can make a move of its own at an instant; what is pushed comes from
others. -/
def Busy (now : Nat) (s : Aggregation ν) : Prop :=
  ∃ move : Aggregator.Move ν, (∀ x, move ≠ .push x) ∧ (s.step now (.own move)).isSome

/-- **What an aggregator waits for**: the end of a window, or room. -/
structure Idle (now : Nat) (s : Aggregation ν) : Prop where
  told : s.cancelled = true → s.aggregator.stand = .stopped
  ahead : ∀ deadline, s.cancelled = false → s.aggregator.stand = .waiting deadline → now < deadline
  full : ∀ snapshot deadline, s.cancelled = false →
    s.aggregator.stand = .sending snapshot deadline → s.output.offer snapshot = .full

theorem busy_of_due {deadline : Nat} (hc : s.cancelled = false)
    (hs : s.aggregator.stand = .waiting deadline) (hd : deadline ≤ now) : Busy now s := by
  refine ⟨.fire default, nofun, ?_⟩
  rw [step, Option.isSome_map, Aggregator.step, hc, if_neg Bool.false_ne_true, Option.isSome_map,
    Aggregator.fire, hs]
  simp only [if_pos hd]
  split <;> rfl

theorem busy_of_room {snapshot : Snapshot ν} {deadline : Nat} (hc : s.cancelled = false)
    (hs : s.aggregator.stand = .sending snapshot deadline)
    (ho : s.output.offer snapshot ≠ .full) : Busy now s := by
  refine ⟨.send, nofun, ?_⟩
  rw [step, Option.isSome_map, Aggregator.step, hc, if_neg Bool.false_ne_true, Aggregator.send, hs]
  cases ho' : s.output.offer snapshot with
  | full => exact absurd ho' ho
  | accepted | refused => simp only [ho', Option.isSome_some]

theorem busy_of_told (hc : s.cancelled = true) (hs : s.aggregator.stand ≠ .stopped) :
    Busy now s := by
  have hn : s.aggregator.isStopped = false :=
    Bool.eq_false_iff.mpr fun h => hs ((isStopped_eq_true_iff _).mp h)
  refine ⟨.halt, nofun, ?_⟩
  rw [step, Option.isSome_map, Aggregator.step, hc, hn]
  rfl

/-- **An aggregator has nothing to do exactly if it waits** for the end of a window or for room. -/
theorem not_busy_iff : ¬Busy now s ↔ Idle now s := by
  constructor
  · intro hb
    refine ⟨fun hc => ?_, fun deadline hc hs => ?_, fun snapshot deadline hc hs => ?_⟩
    · exact Classical.byContradiction fun hs => hb (busy_of_told hc hs)
    · exact Nat.lt_of_not_le fun hd => hb (busy_of_due hc hs hd)
    · exact Classical.byContradiction fun ho => hb (busy_of_room hc hs ho)
  · rintro h ⟨move, hmove, hb⟩
    obtain ⟨⟨t, es⟩, hstep⟩ := Option.isSome_iff_exists.mp hb
    cases effect_of_step hstep with
    | push x => exact hmove x rfl
    | pass stamp deadline hc hs hd | close stamp deadline hc hs hd =>
      exact Nat.not_le_of_lt (h.ahead deadline hc hs) hd
    | place snapshot deadline rest hc hs ho =>
      rw [h.full snapshot deadline hc hs] at ho
      cases ho
    | refuse snapshot deadline hc hs ho =>
      rw [h.full snapshot deadline hc hs] at ho
      cases ho
    | halt hc hs => exact hs (h.told hc)

/-- A course was in a state of some kind when an instant was over. -/
def HeldAt (at_ : Nat) (ts : List (Step ν)) (P : Aggregation ν → Prop) : Prop :=
  ∃ early u late, ts = early ++ u :: late ∧ u.now ≤ at_ ∧ (∀ v ∈ late, at_ < v.now) ∧ P u.after

/-- The snapshot of a window that ended before an instant waits for room that is not there. -/
def Blocked (before : Nat) (s : Aggregation ν) : Prop :=
  ∃ snapshot deadline, s.aggregator.stand = .sending snapshot deadline ∧ deadline < before ∧
    s.output.offer snapshot = .full

omit [Averageable ν] in
theorem Blocked.mono {m n : Nat} (h : Blocked m s) (hle : m ≤ n) : Blocked n s := by
  obtain ⟨snapshot, deadline, hs, hlt, ho⟩ := h
  exact ⟨snapshot, deadline, hs, Nat.lt_of_lt_of_le hlt hle, ho⟩

omit [Averageable ν] in
theorem HeldAt.mono {at_ : Nat} {P Q : Aggregation ν → Prop} (h : HeldAt at_ ts P)
    (hPQ : ∀ s, P s → Q s) : HeldAt at_ ts Q := by
  obtain ⟨early, u, late, e, hu, hlate, hP⟩ := h
  exact ⟨early, u, late, e, hu, hlate, hPQ _ hP⟩

omit [Averageable ν] in
/-- What happens later does not change what a course was in. -/
theorem HeldAt.snoc {at_ : Nat} {P : Aggregation ν → Prop} {v : Step ν} (h : HeldAt at_ ts P)
    (hv : at_ < v.now) : HeldAt at_ (ts ++ [v]) P := by
  obtain ⟨early, u, late, rfl, hu, hlate, hP⟩ := h
  refine ⟨early, u, late ++ [v], List.append_assoc .., hu, fun w hw => ?_, hP⟩
  rcases List.mem_append.mp hw with hw | hw
  · exact hlate w hw
  · rw [List.mem_singleton.mp hw]
    exact hv

/-! ## 4. No deadline is missed without a reason -/

/-- **A deadline has passed only while a snapshot waited for room.** -/
structure Punctual (ts : List (Step ν)) (now : Nat) (s : Aggregation ν) : Prop where
  waiting : ∀ deadline, s.cancelled = false → s.aggregator.stand = .waiting deadline →
    ∀ at_, deadline ≤ at_ → at_ < now → HeldAt at_ ts (Blocked deadline)
  sending : ∀ snapshot deadline, s.cancelled = false →
    s.aggregator.stand = .sending snapshot deadline →
    ∀ at_, deadline ≤ at_ → at_ < now → HeldAt at_ ts (Blocked (deadline + 1))

omit [Averageable ν] in
/-- A step keeps it if the timer task stands as it stood or has stopped. -/
theorem Punctual.keep (hI : Punctual ts now s)
    (hc : t.cancelled = false → s.cancelled = false)
    (hst : t.aggregator.stand = s.aggregator.stand ∨ t.aggregator.stand = .stopped) :
    Punctual (ts ++ [⟨now, s, move, t, out⟩]) now t := by
  rcases hst with hst | hst
  · refine ⟨fun d hn hs at_ hd hlt => ?_, fun x d hn hs at_ hd hlt => ?_⟩
    · exact (hI.waiting d (hc hn) (hst ▸ hs) at_ hd hlt).snoc hlt
    · exact (hI.sending x d (hc hn) (hst ▸ hs) at_ hd hlt).snoc hlt
  · refine ⟨fun d hn hs => ?_, fun x d hn hs => ?_⟩
    all_goals
      rw [hst] at hs
      cases hs

theorem punctual_step (hpos : 0 < s.aggregator.steady.nanos) (hI : Punctual ts now s)
    (he : Effect now s move t) : Punctual (ts ++ [⟨now, s, move, t, out⟩]) now t := by
  cases he with
  | push x => exact hI.keep id (.inl rfl)
  | pass stamp deadline hc hs hd hp =>
    refine ⟨fun d _ hs' at_ hle hlt => ?_, nofun⟩
    cases hs'
    refine ((hI.waiting deadline hc hs at_ ?_ hlt).mono fun _ h => h.mono ?_).snoc hlt
    · exact Nat.le_trans (Nat.le_add_right _ _) hle
    · exact Nat.le_add_right _ _
  | close stamp deadline hc hs hd hp =>
    refine ⟨nofun, fun x d _ hs' at_ hle hlt => ?_⟩
    cases hs'
    exact ((hI.waiting deadline hc hs at_ hle hlt).mono fun _ h => h.mono (Nat.le_succ _)).snoc hlt
  | place snapshot deadline rest hc hs ho =>
    -- the window that follows ends later, so that the snapshot is one of an earlier window
    refine ⟨fun d _ hs' at_ hle hlt => ?_, nofun⟩
    cases hs'
    refine ((hI.sending snapshot deadline hc hs at_ ?_ hlt).mono fun _ h => h.mono ?_).snoc hlt
    · exact Nat.le_trans (Nat.le_add_right _ _) hle
    · exact Nat.add_le_add_left hpos deadline
  | refuse | halt => exact hI.keep id (.inr rfl)
  | receive | drop => exact hI.keep id (.inl rfl)
  | cancel => exact hI.keep nofun (.inl rfl)

/-- While an aggregator waits for room it stays as it is. -/
theorem Punctual.wait {later : Nat} (hI : Punctual ts now s)
    (hlast : ts = [] ∧ s.aggregator.underWay = [] ∨ ∃ front u, ts = front ++ [u] ∧ u.after = s)
    (hpast : ∀ u ∈ ts, u.now ≤ now) (hidle : ∀ at_, now ≤ at_ → at_ < later → ¬Busy at_ s) :
    Punctual ts later s := by
  refine ⟨fun d hc hs at_ hle hlt => ?_, fun x d hc hs at_ hle hlt => ?_⟩
  · rcases Nat.lt_or_ge at_ now with hnow | hnow
    · exact hI.waiting d hc hs at_ hle hnow
    · exact absurd (busy_of_due hc hs hle) (hidle at_ hnow hlt)
  · rcases Nat.lt_or_ge at_ now with hnow | hnow
    · exact hI.sending x d hc hs at_ hle hnow
    · have ho := (not_busy_iff.mp (hidle at_ hnow hlt)).full x d hc hs
      obtain ⟨-, hu⟩ | ⟨front, u, rfl, rfl⟩ := hlast
      · simp only [Aggregator.underWay, hs, reduceCtorEq] at hu
      · have hu := hpast u (List.mem_append_right _ (List.mem_singleton_self u))
        exact ⟨front, u, [], rfl, Nat.le_trans hu hnow, fun v hv => absurd hv List.not_mem_nil,
          x, d, hs, Nat.lt_succ_self d, ho⟩

theorem punctual_of_course {output : Channel (Snapshot ν)} (hpos : 0 < steady.nanos)
    (h : PromptCourse step Busy start₀ (startOn warmup steady output start₀) ts now s) :
    Punctual ts now s := by
  induction h with
  | start =>
    refine ⟨fun d _ _ at_ hle hlt => ?_, nofun⟩
    rename_i hs
    cases hs
    omega
  | step h hs ih =>
    refine punctual_step ?_ ih (effect_of_step hs)
    rw [(scheduled_of_course h.course).lengths.2]
    exact hpos
  | wait h hle hidle ih =>
    refine ih.wait ?_ h.course.le_now hidle
    obtain ⟨e, rfl⟩ | hlast := h.course.last
    · exact .inl ⟨e, rfl⟩
    · exact .inr hlast

/-! ## 5. The first snapshot -/

/-- **The end of the first window with samples**: it comes at its deadline, and its snapshot is the
average of all samples until then, which were all pushed within the length of one window. -/
structure Opening (warmup : Duration) (front : List (Step ν)) (t : Step ν) (x : Snapshot ν) :
    Prop where
  closes : t.closed? = some x
  onTime : t.fired? = some t.now
  mean : Accumulator.IsMean x (pushed front)
  recent : ∀ v ∈ front, v.pushed? ≠ none → t.now ≤ v.now + warmup.nanos

/-- What is known while no window had a sample when it ended. -/
structure Gathering (warmup : Duration) (ts : List (Step ν)) (now : Nat) (s : Aggregation ν)
    (deadline : Nat) : Prop where
  window : s.aggregator.window = .ofSamples (pushed ts)
  ahead : now ≤ deadline
  near : deadline ≤ now + warmup.nanos
  recent : ∀ v ∈ ts, v.pushed? ≠ none → deadline ≤ v.now + warmup.nanos

/-- A further step may push a sample into the open window. -/
theorem Gathering.snoc {deadline : Nat} {u : Step ν} (h : Gathering warmup ts now s deadline)
    (hu : u.now = now) (hw : t.aggregator.window = .ofSamples (pushed (ts ++ [u]))) :
    Gathering warmup (ts ++ [u]) now t deadline := by
  refine ⟨hw, h.ahead, h.near, fun v hv hpv => ?_⟩
  rcases List.mem_append.mp hv with hv | hv
  · exact h.recent v hv hpv
  · rw [List.mem_singleton.mp hv, hu]
    exact h.near

/-- After a window without samples there was none at all. -/
theorem Gathering.pass {deadline : Nat} {u : Step ν} (h : Gathering warmup ts now s deadline)
    (hd : deadline ≤ now) (hp : s.aggregator.pending = 0) (hu : u.pushed? = none)
    (hw : t.aggregator.window = s.aggregator.window) :
    Gathering warmup (ts ++ [u]) now t (deadline + warmup.nanos) := by
  have hpushed : pushed ts = [] := by
    rw [Aggregator.pending, h.window, Accumulator.count_ofSamples] at hp
    exact List.length_eq_zero_iff.mp hp
  have hnone : pushed (ts ++ [u]) = [] := by rw [pushed_snoc, hpushed, hu]; rfl
  refine ⟨?_, Nat.le_add_right_of_le h.ahead, Nat.add_le_add_right hd _, fun v hv hpv => ?_⟩
  · rw [hw, h.window, hpushed, hnone]
  · exact absurd (List.filterMap_eq_nil_iff.mp hnone v hv) hpv

theorem Gathering.close {deadline : Nat} {stamp : Moment}
    (h : Gathering warmup ts now s deadline) (hs : s.aggregator.stand = .waiting deadline)
    (hd : deadline ≤ now) (hp : s.aggregator.pending ≠ 0)
    (ht : t.aggregator.stand =
      .sending ⟨stamp, s.aggregator.pending, s.aggregator.window.metrics⟩ deadline) :
    Opening warmup ts ⟨now, s, .own (.fire stamp), t, out⟩
      ⟨stamp, s.aggregator.pending, s.aggregator.window.metrics⟩ := by
  have hnow : deadline = now := Nat.le_antisymm hd h.ahead
  have hcount : s.aggregator.pending = (pushed ts).length := by
    rw [Aggregator.pending, h.window, Accumulator.count_ofSamples]
  refine ⟨?_, ?_, ?_, hnow ▸ h.recent⟩
  · simp only [Step.closed?, hs, ht]
  · simp only [Step.fired?, hs, hnow]
  · rw [hcount, h.window]
    exact Accumulator.isMean_mk (fun e => hp (by rw [hcount, e, List.length_nil])) stamp

/-- **What a course knows of its first snapshot**, which was placed or waits for room. -/
structure Leading (warmup : Duration) (ts : List (Step ν)) (now : Nat) (s : Aggregation ν) :
    Prop where
  gathering : ∀ deadline, placed ts = [] → s.cancelled = false →
    s.aggregator.stand = .waiting deadline → Gathering warmup ts now s deadline
  first : ∀ x, (placed ts ++ s.aggregator.underWay).head? = some x →
    ∃ front t back, ts = front ++ t :: back ∧ (firings front).length + 1 = warmups ts ∧
      Opening warmup front t x

/-- Further steps leave what is known of the first snapshot, if it stays the first. -/
theorem Leading.first_snoc (hI : Leading warmup ts now s) {u : Step ν} {later : List (Snapshot ν)}
    (hhead : ∀ x, later.head? = some x → (placed ts ++ s.aggregator.underWay).head? = some x)
    (hf : placed ts ≠ [] ∨ u.fired? = none) (x : Snapshot ν) (hx : later.head? = some x) :
    ∃ front t back, ts ++ [u] = front ++ t :: back ∧
      (firings front).length + 1 = warmups (ts ++ [u]) ∧ Opening warmup front t x := by
  obtain ⟨front, t, back, rfl, hcount, hopening⟩ := hI.first x (hhead x hx)
  refine ⟨front, t, back ++ [u], List.append_assoc .., ?_, hopening⟩
  rw [warmups_snoc hf]
  exact hcount

/-- The head of a list is that of every list that goes on from it. -/
theorem head?_of_append {α : Type} {l m : List α} {x : α} (h : l.head? = some x) :
    (l ++ m).head? = some x := by
  rw [List.head?_append, h, Option.some_or]

/-- A step that neither pushes a sample nor ends a window nor places a snapshot keeps it, if the
timer task stands as it stood or has stopped. -/
theorem Leading.keep (hI : Leading warmup ts now s)
    (hpu : Step.pushed? ⟨now, s, move, t, out⟩ = none)
    (hf : Step.fired? ⟨now, s, move, t, out⟩ = none)
    (hp : Step.placed? ⟨now, s, move, t, out⟩ = none)
    (hw : t.aggregator.window = s.aggregator.window)
    (hc : t.cancelled = false → s.cancelled = false)
    (hst : t.aggregator.stand = s.aggregator.stand ∨ t.aggregator.stand = .stopped) :
    Leading warmup (ts ++ [⟨now, s, move, t, out⟩]) now t := by
  have hplaced := placed_of_none ts hp
  refine ⟨fun d hnone hn hs => ?_, hI.first_snoc (fun x hx => ?_) (.inr hf)⟩
  · rcases hst with hst | hst
    · have hg := hI.gathering d (hplaced ▸ hnone) (hc hn) (hst ▸ hs)
      refine hg.snoc rfl ?_
      rw [hw, pushed_snoc, hpu, Option.toList_none, List.append_nil]
      exact hg.window
    · rw [hst] at hs
      cases hs
  · rw [hplaced] at hx
    rcases hst with hst | hst
    · rwa [Aggregator.underWay, hst] at hx
    · rw [Aggregator.underWay, hst, List.append_nil] at hx
      exact head?_of_append hx

/-- **Every step keeps what is known of the first snapshot.** -/
theorem leading_step (hS : Scheduled start₀ warmup steady ts s) (hI : Leading warmup ts now s)
    (he : Effect now s move t) : Leading warmup (ts ++ [⟨now, s, move, t, out⟩]) now t := by
  cases he with
  | push x =>
    refine ⟨fun d hnone hc hs => ?_, hI.first_snoc (fun x hx => ?_) (.inr rfl)⟩
    · have hg := hI.gathering d ((placed_of_none ts (by rfl)).symm.trans hnone) hc hs
      refine hg.snoc rfl ?_
      rw [pushed_snoc]
      exact (congrArg (Accumulator.fold · x) hg.window).trans
        (Accumulator.ofSamples_snoc (pushed ts) x).symm
    · rw [placed_of_none ts rfl] at hx
      exact hx
  | pass stamp deadline hc hs hd hp =>
    refine ⟨fun d hnone _ hs' => ?_, fun x hx => ?_⟩
    · have hempty : placed ts = [] := (placed_of_none ts (by rfl)).symm.trans hnone
      have hlength : s.aggregator.length s.aggregator.phase = warmup.nanos := by
        rw [hS.phase, phaseAfter, hempty]
        exact congrArg Duration.nanos hS.lengths.1
      cases hs'
      rw [hlength]
      exact (hI.gathering deadline hempty hc hs).pass hd hp rfl rfl
    · rw [placed_of_none ts rfl] at hx
      refine hI.first_snoc (fun x hx => head?_of_append ?_) (.inl fun e => ?_) x hx
      · exact (congrArg List.head? (List.append_nil _)).symm.trans hx
      · rw [e] at hx
        cases hx
  | close stamp deadline hc hs hd hp =>
    refine ⟨fun _ _ _ hs' => (by cases hs'), fun x hx => ?_⟩
    rw [placed_of_none ts rfl] at hx
    by_cases hempty : placed ts = []
    · rw [hempty] at hx
      cases hx
      refine ⟨ts, _, [], rfl, ?_, (hI.gathering deadline hempty hc hs).close hs hd hp rfl⟩
      rw [warmups_of_placed ((placed_of_none ts rfl).trans hempty), firings_snoc]
      simp [Step.fired?, hs]
    · refine hI.first_snoc (fun x hx => ?_) (.inl hempty) x hx
      obtain ⟨y, hy⟩ := Option.isSome_iff_exists.mp (List.isSome_head?.mpr hempty)
      rw [List.head?_append, hy] at hx ⊢
      exact hx
  | place snapshot deadline rest hc hs ho =>
    refine ⟨fun d hnone => ?_, hI.first_snoc (fun x hx => ?_) (.inr rfl)⟩
    · rw [placed_snoc, placed?_of_offer hs ho] at hnone
      simp at hnone
    · rw [placed_snoc, placed?_of_offer hs ho] at hx
      simpa [Aggregator.underWay, hs] using hx
  | refuse snapshot deadline hc hs ho =>
    exact hI.keep rfl rfl (placed?_of_refused hs ho) rfl id (.inr rfl)
  | halt hc hs => exact hI.keep rfl rfl rfl rfl id (.inr rfl)
  | receive | drop => exact hI.keep rfl rfl rfl rfl id (.inl rfl)
  | cancel => exact hI.keep rfl rfl rfl rfl (fun hn => by cases hn) (.inl rfl)

theorem leading_start (output : Channel (Snapshot ν)) :
    Leading warmup [] start₀ (startOn warmup steady output start₀) := by
  refine ⟨fun d _ _ hs => ?_, nofun⟩
  cases hs
  exact ⟨rfl, Nat.le_add_right _ _, Nat.le_refl _, fun v hv => absurd hv List.not_mem_nil⟩

theorem Leading.wait {later : Nat} (hI : Leading warmup ts now s) (hle : now ≤ later)
    (hidle : ∀ at_, now ≤ at_ → at_ < later → ¬Busy at_ s) : Leading warmup ts later s := by
  refine ⟨fun d hnone hc hs => ?_, hI.first⟩
  have hg := hI.gathering d hnone hc hs
  refine ⟨hg.window, Nat.le_of_not_lt fun hlt => ?_, ?_, hg.recent⟩
  · exact hidle d hg.ahead hlt (busy_of_due hc hs (Nat.le_refl d))
  · exact Nat.le_trans hg.near (Nat.add_le_add_right hle _)

theorem leading_of_course {output : Channel (Snapshot ν)}
    (h : PromptCourse step Busy start₀ (startOn warmup steady output start₀) ts now s) :
    Leading warmup ts now s := by
  induction h with
  | start => exact leading_start output
  | step h hs ih => exact leading_step (scheduled_of_course h.course) ih (effect_of_step hs)
  | wait _ hle hidle ih => exact ih.wait hle hidle

/-! ## 6. The schedule -/

end

end Vitals.Aggregation
