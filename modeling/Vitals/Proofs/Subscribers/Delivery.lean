import Vitals.Proofs.Course
import Vitals.Proofs.Subscribers.Channels
import Vitals.Proofs.Subscribers.Ids
import Vitals.Proofs.Subscribers.Requests

/-!
# What becomes of the items of broadcasts

A broadcast goes through the subscribers that are registered when it gets the lock, and is through
with each of them when the subscriber has taken the item, was skipped, or turned out to be gone.
Meanwhile subscribers come and go, receive, and drop their receivers. This file follows one
subscriber through a whole run. It fixes

* the histories of a course: the broadcasts that began while the subscriber was registered, the
  items that a broadcast is through with there, with their fates, and the items received;
* `Account`, the invariant of the subscriber's channel, `Booked`, that of a course, and `Running`,
  that of a course on which no broadcast is cancelled;
* `Accounted`, what a course says of the subscriber, and `WaitedFull`, why it was skipped.

Main statement: if no broadcast is cancelled, every broadcast serves every subscriber once, in
order, and skips it only when it had no room for the whole time limit (`broadcasts_accounted`).
-/

namespace Vitals.Registry

variable {τ α : Type}

/-! ## 1. Histories -/

abbrev Step (τ α : Type) := Transition (Registry τ α) (Move τ α) (Outcome τ)

/-- The item of a broadcast that gets the lock with a move while a subscriber is registered. -/
def begun? (r : Registry τ α) (id : SubscriberId) : Move τ α → Option α
  | .grant =>
    match r.waiters with
    | (_, .broadcast item) :: _ => if id ∈ r.registered then some item else none
    | _ => none
  | _ => none

/-- The item that the broadcast under way has still to bring to a subscriber. -/
def owed (r : Registry τ α) (id : SubscriberId) : List α :=
  match r.holder with
  | some d => if id ∈ d.remaining then [d.item] else []
  | none => []

/-- Whether an event says that a subscriber was skipped. -/
def Outcome.warns (id : SubscriberId) : Outcome τ → Bool
  | .event (.snapshotSkipped i _) => i = id
  | _ => false

/-- Whether a move cancels the broadcast that holds the lock. -/
def cancelsBroadcast [DecidableEq τ] (r : Registry τ α) : Move τ α → Bool
  | .cancel task => r.holder.any fun d => d.task = task
  | _ => false

/-- The items that were accepted. -/
def acceptedOf (served : List (α × Fate)) : List α :=
  served.filterMap fun (item, fate) => if fate = .accepted then some item else none

/-- The items of the broadcasts that got the lock while a subscriber was registered. -/
def begun (id : SubscriberId) (ts : List (Step τ α)) : List α :=
  ts.filterMap fun t => t.before.begun? id t.move

/-- The items that broadcasts are through with at a subscriber, and their fates. -/
def served (id : SubscriberId) (ts : List (Step τ α)) : List (α × Fate) :=
  ts.filterMap fun t => t.before.served? id t.move

/-- The items that a subscriber's channel accepted. -/
def accepted (id : SubscriberId) (ts : List (Step τ α)) : List α :=
  acceptedOf (served id ts)

/-- The items that a subscriber has received. -/
def taken (id : SubscriberId) (ts : List (Step τ α)) : List α :=
  ts.filterMap fun t => t.before.taken? id t.move

/-- The number of warnings that a subscriber was skipped. -/
def warnings (id : SubscriberId) (ts : List (Step τ α)) : Nat :=
  (ts.flatMap Transition.out).countP (Outcome.warns id)

section

variable (id : SubscriberId) (ts : List (Step τ α)) (t : Step τ α)

theorem begun_snoc : begun id (ts ++ [t]) = begun id ts ++ (t.before.begun? id t.move).toList :=
  filterMap_snoc _ ts t

theorem served_snoc :
    served id (ts ++ [t]) = served id ts ++ (t.before.served? id t.move).toList :=
  filterMap_snoc _ ts t

theorem taken_snoc : taken id (ts ++ [t]) = taken id ts ++ (t.before.taken? id t.move).toList :=
  filterMap_snoc _ ts t

theorem warnings_snoc :
    warnings id (ts ++ [t]) = warnings id ts + t.out.countP (Outcome.warns id) := by
  rw [warnings, List.flatMap_append, List.flatMap_singleton, List.countP_append]
  rfl

end

/-! ## 2. The account of a channel -/

/-- **What was accepted at a channel was received from it or is buffered there**, unless its
receiver went away. -/
structure Account (c : Channel α) (served : List (α × Fate)) (taken : List α) : Prop where
  line : ∃ gone, acceptedOf served = taken ++ c.items ++ gone ∧
    (c.receiverAlive = true → gone = [])
  empty : c.receiverAlive = false → c.items = []
  kept : c.receiverAlive = true → ∀ a, (a, Fate.refused) ∉ served

theorem acceptedOf_append (served served' : List (α × Fate)) :
    acceptedOf (served ++ served') = acceptedOf served ++ acceptedOf served' :=
  List.filterMap_append

/-- Everything that can happen to a channel keeps its account. -/
theorem account_of_passes {r : Registry τ α} {id : SubscriberId} {c' : Channel α}
    {s : Option (α × Fate)} {t : Option α} {served : List (α × Fate)} {taken : List α}
    (h : ∀ c, r.channel? id = some c → Account c served taken)
    (hnone : r.channel? id = none → served = [] ∧ taken = []) (hp : Passes r id c' s t) :
    Account c' (served ++ s.toList) (taken ++ t.toList) := by
  cases hp with
  | drawn hc =>
    obtain ⟨rfl, rfl⟩ := hnone hc
    exact ⟨⟨[], rfl, fun _ => rfl⟩, fun _ => rfl, fun _ _ => List.not_mem_nil⟩
  | fade c _ hc hf =>
    obtain ⟨⟨gone, hline, hgone⟩, hempty, hkept⟩ := h c hc
    simp only [Option.toList_none, List.append_nil]
    rcases hf.2 with ⟨hi, hr⟩ | ⟨hi, hr⟩
    · rw [← hi] at hline hempty
      rw [← hr] at hgone hempty hkept
      exact ⟨⟨gone, hline, hgone⟩, hempty, hkept⟩
    · refine ⟨⟨c.items ++ gone, ?_, fun halive => ?_⟩, fun _ => hi, fun halive => ?_⟩
      · rw [hline, hi, List.append_nil, List.append_assoc]
      · rw [hr] at halive
        cases halive
      · rw [hr] at halive
        cases halive
  | accept c _ a hc ho =>
    obtain ⟨⟨gone, hline, hgone⟩, hempty, hkept⟩ := h c hc
    obtain ⟨halive, rfl⟩ := Channel.eq_of_offer ho
    have hnew : acceptedOf [(a, Fate.accepted)] = [a] := rfl
    rw [hgone halive, List.append_nil] at hline
    refine ⟨⟨[], ?_, fun _ => rfl⟩, fun hr => ?_, fun _ b hb => ?_⟩
    · simp only [Option.toList_some, Option.toList_none, List.append_nil, acceptedOf_append, hline,
        hnew, List.append_assoc]
    · rw [show c.receiverAlive = false from hr] at halive
      cases halive
    · rcases List.mem_append.mp hb with hb | hb
      · exact hkept halive b hb
      · simp at hb
  | refuse _ a hc ho =>
    obtain ⟨⟨gone, hline, hgone⟩, hempty, hkept⟩ := h c' hc
    have hdead : c'.receiverAlive = false := (Channel.offer_eq_refused_iff c' a).mp ho
    have hnew : acceptedOf [(a, Fate.refused)] = [] := rfl
    refine ⟨⟨gone, ?_, hgone⟩, hempty, fun halive => ?_⟩
    · simp only [Option.toList_some, Option.toList_none, List.append_nil, acceptedOf_append, hline,
        hnew]
    · rw [hdead] at halive
      cases halive
  | skip _ a timeout hc hp ho =>
    obtain ⟨⟨gone, hline, hgone⟩, hempty, hkept⟩ := h c' hc
    have hnew : acceptedOf [(a, Fate.skipped)] = [] := rfl
    refine ⟨⟨gone, ?_, hgone⟩, hempty, fun halive b hb => ?_⟩
    · simp only [Option.toList_some, Option.toList_none, List.append_nil, acceptedOf_append, hline,
        hnew]
    · rcases List.mem_append.mp hb with hb | hb
      · exact hkept halive b hb
      · simp at hb
  | take c _ a hc hi =>
    obtain ⟨⟨gone, hline, hgone⟩, hempty, hkept⟩ := h c hc
    have hitems := Channel.items_eq_of_poll hi
    have hsame := Channel.eq_of_poll hi
    have hr : c'.receiverAlive = c.receiverAlive := by rw [hsame]
    rw [← hr] at hgone hempty hkept
    refine ⟨⟨gone, ?_, hgone⟩, fun hdead => ?_, ?_⟩
    · rw [hitems] at hline
      simpa using hline
    · rw [hempty hdead] at hitems
      cases hitems
    · simpa using hkept

/-! ## 3. Broadcasts -/

section Step

variable [DecidableEq τ] {now : Nat} {r r' : Registry τ α} {move : Move τ α}
  {os : List (Outcome τ)} {id : SubscriberId} {d : Delivery τ α}

omit [DecidableEq τ] in
theorem owed_of_holder (h : r'.holder = r.holder) : r'.owed id = r.owed id := by
  rw [owed, owed, h]

omit [DecidableEq τ] in
theorem owed_of_free (h : r.holder = none) : r.owed id = [] := by
  rw [owed, h]

omit [DecidableEq τ] in
theorem owed_of_some (h : r.holder = some d) :
    r.owed id = if id ∈ d.remaining then [d.item] else [] := by
  rw [owed, h]

omit [DecidableEq τ] in
/-- When a broadcast is through with the subscriber that it waits for, it owes the item to the
others. -/
theorem owed_of_next {e : Delivery τ α} {i : SubscriberId} (hd : r.holder = some d)
    (hnodup : d.remaining.Nodup) (hr : d.remaining.head? = some i) (hd' : r'.holder = some e)
    (hitem : e.item = d.item) (hrest : e.remaining = d.remaining.tail) :
    (if i = id then [d.item] else []) ++ r'.owed id = r.owed id := by
  obtain ⟨rest, hrem⟩ := List.head?_eq_some_iff.mp hr
  rw [owed_of_some hd, owed_of_some hd', hitem, hrest, hrem]
  rw [hrem, List.nodup_cons] at hnodup
  by_cases hi : i = id
  · subst hi
    simp [hnodup.1]
  · have hne : ¬id = i := Ne.symm hi
    by_cases hm : id ∈ rest <;> simp [hi, hne, hm]

/-- **A step keeps account of what a broadcast owes to a subscriber.** -/
theorem owed_of_effect (h : Sound r) (he : r.Effect now move r' os)
    (hkeep : r.cancelsBroadcast move = false) :
    ((r.served? id move).toList.map Prod.fst) ++ r'.owed id =
      r.owed id ++ (r.begun? id move).toList := by
  -- three moves bring a broadcast past the subscriber it waits for, this one or another
  have hthrough : ∀ {c : Channel α} {i : SubscriberId} {fate : Fate} {e : Delivery τ α} {d},
      r.holder = some d → d.remaining.head? = some i → r.channel? i = some c →
      move.fate? (c.offer d.item) = some fate → r'.holder = some e → e.item = d.item →
      e.remaining = d.remaining.tail →
      ((r.served? id move).toList.map Prod.fst) ++ r'.owed id = r.owed id := by
    intro c i fate e d hd hr hc hf hd' hitem hrest
    rw [served?_of_through hd hr hc hf,
      ← owed_of_next hd (h.remaining_nodup hd) hr hd' hitem hrest]
    by_cases hi : i = id <;> simp [hi]
  cases he with
  | draw =>
    rw [served?_of_fate fun _ => rfl]
    exact (List.append_nil _).symm
  | ask task request _ ha =>
    rw [served?_of_fate fun _ => rfl, owed_of_holder (keeps_ask ha).2.2]
    exact (List.append_nil _).symm
  | grant task request waiters _ _ hh hw hp =>
    rw [served?_of_fate fun _ => rfl, owed_of_free hh]
    show r'.owed id = (r.begun? id .grant).toList
    rcases requestsOf_perform (r := { r with waiters }) hh hp with
      ⟨item, rfl, -⟩ | ⟨answer, ha, -, -, hfree⟩
    · cases hp
      rw [owed_of_some rfl, begun?, hw]
      show (if id ∈ r.registered then [item] else []) =
        (if id ∈ r.registered then some item else none).toList
      split <;> rfl
    · rw [owed_of_free hfree, begun?, hw]
      cases ha with
      | broadcast item =>
        cases hp
        cases hfree
      | subscribe | remove | stopAll | count => rfl
  | deliver d i c c' hd hr hc ho =>
    rw [hthrough hd hr hc (by rw [ho]; rfl) rfl rfl rfl]
    exact (List.append_nil _).symm
  | lose d i c hd hr hc ho =>
    rw [hthrough hd hr hc (by rw [ho]; rfl) rfl rfl rfl]
    exact (List.append_nil _).symm
  | skip timeout d i c hp hd hr hc ho ht =>
    rw [hthrough hd hr hc (by rw [ho]; rfl) rfl rfl rfl]
    exact (List.append_nil _).symm
  | finish d hd hr =>
    rw [served?_of_fate fun _ => rfl, owed_of_some hd, owed_of_free rfl, hr]
    simp [begun?]
  | cancel task =>
    have hh : (r.cancel task).holder = r.holder := by
      rw [(cancel_frame r task).2]
      have hkeep : (r.holder.any fun d => decide (d.task = task)) = false := hkeep
      cases hd : r.holder with
      | none => rfl
      | some d =>
        rw [hd, Option.any_some] at hkeep
        rw [Option.filter_some, hkeep]
        rfl
    rw [served?_of_fate fun _ => rfl, owed_of_holder hh]
    exact (List.append_nil _).symm
  | receive i c rest item hc hi =>
    rw [served?_of_fate fun _ => rfl, owed_of_holder (holder_modifyChannel r i _)]
    exact (List.append_nil _).symm
  | drop i =>
    rw [served?_of_fate fun _ => rfl, owed_of_holder (holder_modifyChannel r i _)]
    exact (List.append_nil _).symm

/-- A subscriber's channel has no room for an item. -/
def IsFull (r : Registry τ α) (id : SubscriberId) (item : α) : Prop :=
  ∃ c, r.channel? id = some c ∧ c.offer item = .full

/-- Whether a subscriber was skipped. -/
abbrev isSkipped (x : α × Fate) : Bool :=
  x.2 = .skipped

/-- **There is one warning for each item that a subscriber misses.** -/
theorem warns_of_effect (he : r.Effect now move r' os) :
    os.countP (Outcome.warns id) = (r.served? id move).toList.countP isSkipped := by
  cases he with
  | draw | ask | cancel | receive | drop =>
    rw [served?_of_fate fun _ => rfl]
    rfl
  | grant task request waiters _ _ hh hw hp =>
    rw [served?_of_fate fun _ => rfl]
    rcases requestsOf_perform (r := { r with waiters }) hh hp with
      ⟨item, -, rfl, -⟩ | ⟨answer, -, rfl, -⟩ <;> rfl
  | deliver d i c c' hd hr hc ho =>
    rw [served?_of_through hd hr hc (by rw [ho]; rfl)]
    by_cases hi : i = id <;> simp [hi]
  | lose d i c hd hr hc ho =>
    rw [served?_of_through hd hr hc (by rw [ho]; rfl)]
    by_cases hi : i = id <;> simp [hi]
  | skip timeout d i c hp hd hr hc ho ht =>
    rw [served?_of_through hd hr hc (by rw [ho]; rfl)]
    by_cases hi : i = id <;> simp [hi, Outcome.warns]
  | finish d hd hr =>
    rw [served?_of_fate fun _ => rfl]
    rfl

/-- **Why a subscriber misses an item**: the broadcast has waited there for the whole time limit,
and there is no room. -/
structure Skips (r : Registry τ α) (id : SubscriberId) (a : α) (now : Nat)
    (os : List (Outcome τ)) (timeout : Duration) (d : Delivery τ α) : Prop where
  policy : r.policy = .dropAfter timeout
  warning : os = [.event (.snapshotSkipped id timeout)]
  waits : r.holder = some d ∧ d.remaining.head? = some id ∧ d.item = a
  full : r.IsFull id a
  overdue : d.since + timeout.nanos ≤ now

theorem skips_of_effect {a : α} (he : r.Effect now move r' os)
    (h : r.served? id move = some (a, .skipped)) :
    ∃ timeout d, Skips r id a now os timeout d := by
  cases he with
  | draw | ask | grant | finish | cancel | receive | drop =>
    rw [served?_of_fate fun _ => rfl] at h
    cases h
  | deliver d i c c' hd hr hc ho =>
    rw [served?_of_through hd hr hc (by rw [ho]; rfl)] at h
    split at h <;> cases h
  | lose d i c hd hr hc ho =>
    rw [served?_of_through hd hr hc (by rw [ho]; rfl)] at h
    split at h <;> cases h
  | skip timeout d i c hp hd hr hc ho ht =>
    rw [served?_of_through hd hr hc (by rw [ho]; rfl)] at h
    split at h
    · rename_i hi
      subst hi
      cases h
      exact ⟨timeout, d, hp, rfl, ⟨hd, hr, rfl⟩, ⟨c, hc, ho⟩, ht⟩
    · cases h

/-- A broadcast that holds the lock after a step was waiting before at the same subscriber, or it
waits there since this instant. -/
theorem holder_of_effect (h : Sound r) (he : r.Effect now move r' os)
    (hd : r'.holder = some d) (hr : d.remaining.head? = some id) :
    (r.holder = some d ∧ r.served? id move = none) ∨
      d.since = now ∧ ∀ e, r.holder = some e → e.remaining.head? ≠ some id := by
  -- the ids of a broadcast are distinct: it does not come back to one it is through with
  have hnext : ∀ {e : Delivery τ α} {i}, r.holder = some e → e.remaining.head? = some i →
      d.remaining = e.remaining.tail → ∀ e, r.holder = some e → e.remaining.head? ≠ some id := by
    intro e i he hi hrest e' he' hid
    rw [he] at he'
    cases he'
    obtain ⟨rest, hrem⟩ := List.head?_eq_some_iff.mp hid
    have hnodup := h.remaining_nodup he
    rw [hrem, List.nodup_cons] at hnodup
    rw [hrest, hrem, List.tail_cons] at hr
    exact hnodup.1 (List.mem_of_head? hr)
  cases he with
  | draw => exact .inl ⟨hd, served?_of_fate fun _ => rfl⟩
  | ask task request _ ha =>
    exact .inl ⟨(keeps_ask ha).2.2 ▸ hd, served?_of_fate fun _ => rfl⟩
  | grant task request waiters _ _ hh hw hp =>
    refine .inr ⟨(holder_perform (r := { r with waiters }) hh hp hd).2.2.2, fun e he => ?_⟩
    rw [hh] at he
    cases he
  | deliver e i c c' he hi hc ho =>
    cases hd
    exact .inr ⟨rfl, hnext he hi rfl⟩
  | lose e i c he hi hc ho =>
    cases hd
    exact .inr ⟨rfl, hnext he hi rfl⟩
  | skip timeout e i c hp he hi hc ho ht =>
    cases hd
    exact .inr ⟨rfl, hnext he hi rfl⟩
  | finish => cases hd
  | cancel task =>
    rw [(cancel_frame r task).2, Option.filter_eq_some_iff] at hd
    exact .inl ⟨hd.1, served?_of_fate fun _ => rfl⟩
  | receive i | drop i =>
    rw [holder_modifyChannel] at hd
    exact .inl ⟨hd, served?_of_fate fun _ => rfl⟩

/-- An id that is drawn after a step without having been drawn before has no history. -/
theorem undrawn_of_effect (he : r.Effect now move r' os) (h : r'.channel? id = none) :
    r.channel? id = none := by
  rw [channel?_eq_none_iff] at h ⊢
  exact h.imp_right (Nat.le_trans (nextId_of_effect he))

end Step

/-! ## 4. Runs -/

/-- **A broadcast comes to wait at a subscriber with a step.** -/
structure Reaches (id : SubscriberId) (d : Delivery τ α) (t : Step τ α) : Prop where
  now : t.now = d.since
  after : t.after.holder = some d ∧ d.remaining.head? = some id
  before : ∀ e, t.before.holder = some e → e.remaining.head? ≠ some id

/-- A broadcast has waited at a subscriber since it got there, and if `full` holds now, then the
subscriber's channel had no room in all that time. -/
def Waited (id : SubscriberId) (d : Delivery τ α) (ts : List (Step τ α)) (full : Prop) : Prop :=
  ∃ early u late, ts = early ++ u :: late ∧ Reaches id d u ∧
    (∀ v ∈ u :: late, v.after.holder = some d) ∧
    (full → ∀ v ∈ u :: late, v.after.IsFull id d.item)

/-- **What the courses of a registry keep**, also when broadcasts are cancelled. -/
structure Booked (policy : DeliveryPolicy) (ts : List (Step τ α)) (r : Registry τ α) : Prop where
  sound : Sound r
  asPolicy : r.policy = policy
  account : ∀ id c, r.channel? id = some c → Account c (served id ts) (taken id ts)
  undrawn : ∀ id, r.channel? id = none → served id ts = [] ∧ taken id ts = []
  warned : ∀ id, warnings id ts = (served id ts).countP isSkipped
  patient : policy = .block → ∀ id a, (a, Fate.skipped) ∉ served id ts
  waited : ∀ id d, r.holder = some d → d.remaining.head? = some id →
    Waited id d ts (r.IsFull id d.item)

/-- **What they keep when none is**: what broadcasts owe to a subscriber is all that it misses. -/
structure Running (policy : DeliveryPolicy) (ts : List (Step τ α)) (r : Registry τ α) : Prop
    extends Booked policy ts r where
  line : ∀ id, (served id ts).map Prod.fst ++ r.owed id = begun id ts

section Runs

variable [DecidableEq τ] {buffer start now : Nat} {policy : DeliveryPolicy}
  {ts : List (Step τ α)} {r r' : Registry τ α} {move : Move τ α} {os : List (Outcome τ)}

omit [DecidableEq τ] in
theorem booked_new :
    Booked policy ([] : List (Step τ α)) (Registry.new buffer policy) where
  sound := sound_new buffer policy
  asPolicy := rfl
  account id c hc := by simp [channel?, Registry.new] at hc
  undrawn _ _ := ⟨rfl, rfl⟩
  warned _ := rfl
  patient _ _ _ := List.not_mem_nil
  waited _ _ hd := by cases hd

/-- **A step keeps it.** -/
theorem booked_step (h : Booked policy ts r) (he : r.Effect now move r' os) :
    Booked policy (ts ++ [⟨now, r, move, r', os⟩]) r' where
  sound := sound_of_effect h.sound he
  asPolicy := (policy_of_effect he).trans h.asPolicy
  account id c hc := by
    rw [served_snoc, taken_snoc]
    exact account_of_passes (h.account id) (h.undrawn id) (passes_of_effect he hc)
  undrawn id hc := by
    have hbefore := undrawn_of_effect he hc
    have hserved : r.served? id move = none := by
      unfold served?
      rw [hbefore]
      split <;> first | rfl | contradiction
    have htaken : r.taken? id move = none := by
      cases move with
      | receive i => simp [taken?, hbefore]
      | draw | ask | grant | deliver | skip | finish | cancel | drop => rfl
    obtain ⟨hs, ht⟩ := h.undrawn id hbefore
    rw [served_snoc, taken_snoc, hserved, htaken, hs, ht]
    exact ⟨rfl, rfl⟩
  warned id := by
    rw [warnings_snoc, served_snoc, List.countP_append, h.warned, warns_of_effect he]
  patient hp id a := by
    rw [served_snoc, List.mem_append, Option.mem_toList, not_or]
    refine ⟨h.patient hp id a, fun hs => ?_⟩
    obtain ⟨timeout, d, hs⟩ := skips_of_effect he hs
    have hblock : r.policy = .block := h.asPolicy.trans hp
    rw [hs.policy] at hblock
    cases hblock
  waited id d hd hr := by
    rcases holder_of_effect h.sound he hd hr with ⟨hd', hs⟩ | ⟨hnow, hne⟩
    · obtain ⟨early, u, late, rfl, hu, hheld, hfull⟩ := h.waited id d hd' hr
      refine ⟨early, u, late ++ [⟨now, r, move, r', os⟩], by simp, hu, ?_, fun hf => ?_⟩
      · intro v hv
        rw [← List.cons_append, List.mem_append, List.mem_singleton] at hv
        rcases hv with hv | rfl
        · exact hheld v hv
        · exact hd
      · -- only a broadcast fills a channel, so one that is full now was full before the step
        obtain ⟨c, hc, ho⟩ := hf
        have hpass := passes_of_effect he hc
        rw [hs] at hpass
        intro v hv
        rw [← List.cons_append, List.mem_append, List.mem_singleton] at hv
        rcases hv with hv | rfl
        · exact hfull (hpass.full_before ho) v hv
        · exact ⟨c, hc, ho⟩
    · refine ⟨ts, ⟨now, r, move, r', os⟩, [], rfl, ⟨hnow.symm, ⟨hd, hr⟩, hne⟩, ?_, fun hf => ?_⟩
      · intro v hv
        rw [List.mem_singleton.mp hv]
        exact hd
      · intro v hv
        rw [List.mem_singleton.mp hv]
        exact hf

theorem booked_of_course
    (h : Course Registry.step start (Registry.new buffer policy) ts now r) : Booked policy ts r := by
  induction h with
  | start => exact booked_new
  | wait _ _ ih => exact ih
  | step _ hs ih => exact booked_step ih (effect_of_step hs)

/-- A step that cancels no broadcast keeps what is owed to a subscriber. -/
theorem line_step {id : SubscriberId} (h : Booked policy ts r)
    (hline : (served id ts).map Prod.fst ++ r.owed id = begun id ts)
    (he : r.Effect now move r' os) (hkeep : r.cancelsBroadcast move = false) :
    (served id (ts ++ [⟨now, r, move, r', os⟩])).map Prod.fst ++ r'.owed id =
      begun id (ts ++ [⟨now, r, move, r', os⟩]) := by
  rw [served_snoc, begun_snoc, List.map_append, List.append_assoc,
    owed_of_effect h.sound he hkeep, ← List.append_assoc, hline]

theorem running_of_course
    (h : Course Registry.step start (Registry.new buffer policy) ts now r)
    (hkeep : ∀ t ∈ ts, t.before.cancelsBroadcast t.move = false) : Running policy ts r := by
  induction h with
  | start => exact ⟨booked_new, fun _ => rfl⟩
  | wait _ _ ih => exact ih hkeep
  | step _ hs ih =>
    have hbefore := ih fun t ht => hkeep t (List.mem_append_left _ ht)
    have he := effect_of_step hs
    exact ⟨booked_step hbefore.toBooked he, fun id =>
      line_step hbefore.toBooked (hbefore.line id) he (hkeep _ (List.mem_concat_self ..))⟩

/-! ## 5. The accounts of subscribers -/

/-- **What a course says of a subscriber** with channel `c`. -/
structure Accounted (policy : DeliveryPolicy) (id : SubscriberId) (ts : List (Step τ α))
    (r : Registry τ α) (c : Channel α) : Prop where
  /-- Every broadcast that began while the subscriber was registered gets through with it once, in
  the order of the broadcasts, but for the one under way. -/
  line : (served id ts).map Prod.fst ++ r.owed id = begun id ts
  /-- What was accepted is among the items of these broadcasts, -/
  inOrder : (accepted id ts).Sublist (begun id ts)
  /-- and what was received is the first part of what was accepted; -/
  received : taken id ts <+: accepted id ts
  /-- the rest is buffered as long as the receiver is there. -/
  buffered : c.receiverAlive = true → accepted id ts = taken id ts ++ c.items
  /-- Then a broadcast that waits for as long as it takes misses nobody, -/
  complete : c.receiverAlive = true → policy = .block → accepted id ts ++ r.owed id = begun id ts
  /-- and in any case there is a warning for each item that is missing. -/
  missing : c.receiverAlive = true →
    (begun id ts).length = (accepted id ts).length + warnings id ts + (r.owed id).length

theorem acceptedOf_sublist (served : List (α × Fate)) :
    (acceptedOf served).Sublist (served.map Prod.fst) := by
  induction served with
  | nil => exact .refl _
  | cons x served ih =>
    obtain ⟨a, fate⟩ := x
    cases fate with
    | accepted => exact ih.cons_cons a
    | skipped | refused => exact ih.cons a

/-- If no receiver was gone, what was not accepted was skipped. -/
theorem length_acceptedOf {served : List (α × Fate)} (h : ∀ a, (a, Fate.refused) ∉ served) :
    served.length = (acceptedOf served).length + served.countP isSkipped := by
  induction served with
  | nil => rfl
  | cons x served ih =>
    obtain ⟨a, fate⟩ := x
    have hlen := ih fun b hb => h b (List.mem_cons_of_mem _ hb)
    cases fate with
    | accepted =>
      have hcons : acceptedOf ((a, Fate.accepted) :: served) = a :: acceptedOf served := rfl
      rw [hcons, List.countP_cons_of_neg (by simp [isSkipped]), List.length_cons, List.length_cons]
      omega
    | skipped =>
      have hcons : acceptedOf ((a, Fate.skipped) :: served) = acceptedOf served := rfl
      rw [hcons, List.countP_cons_of_pos (by simp [isSkipped]), List.length_cons]
      omega
    | refused => exact absurd List.mem_cons_self (h a)

theorem acceptedOf_eq_of_patient {served : List (α × Fate)}
    (h : ∀ a, (a, Fate.refused) ∉ served) (hs : ∀ a, (a, Fate.skipped) ∉ served) :
    acceptedOf served = served.map Prod.fst := by
  refine (acceptedOf_sublist served).eq_of_length ?_
  have hnone : served.countP isSkipped = 0 := by
    rw [List.countP_eq_zero]
    intro x hx hskipped
    obtain ⟨a, fate⟩ := x
    cases fate with
    | accepted | refused => simp [isSkipped] at hskipped
    | skipped => exact hs a hx
  rw [List.length_map, length_acceptedOf h, hnone, Nat.add_zero]

omit [DecidableEq τ] in
theorem Running.accounted (h : Running policy ts r) {id : SubscriberId} {c : Channel α}
    (hc : r.channel? id = some c) : Accounted policy id ts r c := by
  obtain ⟨⟨gone, hline, hgone⟩, -, hkept⟩ := h.account id c hc
  have hitems := h.line id
  refine ⟨hitems, ?_, ?_, fun halive => ?_, fun halive hp => ?_, fun halive => ?_⟩
  · rw [← hitems]
    exact (acceptedOf_sublist _).trans (List.sublist_append_left _ _)
  · rw [accepted, hline, List.append_assoc]
    exact List.prefix_append _ _
  · rw [accepted, hline, hgone halive, List.append_nil]
  · rw [accepted, acceptedOf_eq_of_patient (hkept halive) (h.patient hp id), hitems]
  · rw [← hitems, List.length_append, List.length_map, length_acceptedOf (hkept halive),
      h.warned]
    rfl

/-- **A subscriber is skipped only after it had no room for the whole time limit**, counted from
the moment at which the broadcast came to it. -/
def WaitedFull (policy : DeliveryPolicy) (id : SubscriberId) (a : α) (front : List (Step τ α))
    (t : Step τ α) : Prop :=
  ∃ timeout d early u late, policy = .dropAfter timeout ∧ d.item = a ∧
    t.before.holder = some d ∧ t.out = [.event (.snapshotSkipped id timeout)] ∧
    front = early ++ u :: late ∧ Reaches id d u ∧ u.now + timeout.nanos ≤ t.now ∧
    ∀ v ∈ u :: late, v.after.holder = some d ∧ v.after.IsFull id a

theorem Running.waitedFull {front : List (Step τ α)} {t : Step τ α}
    (h : Running policy front t.before) (he : t.before.Effect t.now t.move t.after t.out)
    {id : SubscriberId} {a : α} (hs : t.before.served? id t.move = some (a, .skipped)) :
    WaitedFull policy id a front t := by
  obtain ⟨timeout, d, hskip⟩ := skips_of_effect he hs
  obtain ⟨hd, hr, rfl⟩ := hskip.waits
  obtain ⟨early, u, late, hfront, hreach, hheld, hfull⟩ := h.waited id d hd hr
  refine ⟨timeout, d, early, u, late, h.asPolicy.symm.trans hskip.policy, rfl, hd, hskip.warning,
    hfront, hreach, ?_, fun v hv => ⟨hheld v hv, hfull hskip.full v hv⟩⟩
  rw [hreach.now]
  exact hskip.overdue

/-- **Every broadcast serves every subscriber.** Whoever subscribes, leaves, broadcasts, receives,
stops the registry or drops a receiver, and in whatever order the tasks get the lock: if no
broadcast is cancelled, then the items of each subscriber are accounted for as `Accounted` says,
and a subscriber misses an item only as `WaitedFull` says. -/
theorem broadcasts_accounted
    (h : Course Registry.step start (Registry.new buffer policy) ts now r)
    (hkeep : ∀ t ∈ ts, t.before.cancelsBroadcast t.move = false) :
    (∀ id c, r.channel? id = some c → Accounted policy id ts r c) ∧
      ∀ front t back, ts = front ++ t :: back → ∀ id a,
        t.before.served? id t.move = some (a, .skipped) → WaitedFull policy id a front t := by
  refine ⟨fun id c hc => (running_of_course h hkeep).accounted hc, fun front t back e id a hs => ?_⟩
  obtain ⟨hfront, hstep⟩ := h.split e
  have hrunning := running_of_course hfront fun u hu => hkeep u (e ▸ List.mem_append_left _ hu)
  exact hrunning.waitedFull (effect_of_step hstep) hs

end Runs

/-- A course on which the one subscriber has no room for the second of two broadcasts, and misses
it after five nanoseconds. -/
theorem broadcasts_accounted_one_skipped :
    ∃ (ts : List (Step String Nat)) (now : Nat) (r : Registry String Nat) (c : Channel Nat),
      Course Registry.step 0 (Registry.new 1 (.dropAfter ⟨5, by decide⟩)) ts now r ∧
      (∀ t ∈ ts, t.before.cancelsBroadcast t.move = false) ∧ r.channel? 1 = some c ∧
      begun 1 ts = [10, 20] ∧ taken 1 ts = [10] ∧
      accepted 1 ts = taken 1 ts ++ c.items ∧ warnings 1 ts = 1 := by
  have h : Course Registry.step 0
      (Registry.new 1 (.dropAfter ⟨5, by decide⟩) : Registry String Nat) _ _ _ :=
    course_of_drive [(0, .draw), (0, .ask "reader" (.subscribe 1)), (0, .grant),
      (1, .ask "first" (.broadcast 10)), (1, .grant), (1, .deliver), (1, .finish),
      (2, .ask "second" (.broadcast 20)), (2, .grant), (7, .skip), (7, .finish),
      (8, .receive 1)] rfl
  have hkeep : ∀ {ts : List (Step String Nat)},
      (ts.all fun t => !t.before.cancelsBroadcast t.move) = true →
      ∀ t ∈ ts, t.before.cancelsBroadcast t.move = false := fun hall t ht => by
    simpa using List.all_eq_true.mp hall t ht
  have haccounted := (broadcasts_accounted h (hkeep rfl)).1 1 _ rfl
  exact ⟨_, _, _, _, h, hkeep rfl, rfl, rfl, rfl, haccounted.buffered rfl, rfl⟩

end Vitals.Registry
