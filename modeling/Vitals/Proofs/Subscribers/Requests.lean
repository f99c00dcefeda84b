import Vitals.Proofs.Subscribers.Step

/-!
# What a task has asked for

A task asks for the lock, waits, and has what it asked for done under the lock. Of a registry, the
task sees only its own requests that are not answered yet. This file fixes

* `Registry.requestsOf`, these requests, the first one to be answered in front;
* `Request.IsAnsweredBy`, the answers that a request can get.

Main statement: whatever the other tasks and the registry itself do, the requests of a task stay as
they are, or the first of them is answered and is done with (`requestsOf_of_effect`).
-/

namespace Vitals.Registry

variable {τ α : Type} [DecidableEq τ]

/-- The broadcast of a task that holds the lock, and its requests that wait for the lock. -/
def requestsOf (r : Registry τ α) (task : τ) : List (Request α) :=
  (r.holder.filter fun d => decide (d.task = task)).toList.map (fun d => .broadcast d.item)
    ++ (r.waiters.filter fun w => decide (w.1 = task)).map Prod.snd

/-- The answers to a request. -/
inductive Request.IsAnsweredBy : Request α → Answer → Prop where
  | subscribe (id : SubscriberId) : IsAnsweredBy (.subscribe id) (.subscribed id)
  | remove (id : SubscriberId) (wasRegistered : Bool) :
      IsAnsweredBy (.remove id) (.removed wasRegistered)
  | broadcast (item : α) : IsAnsweredBy (.broadcast item) .delivered
  | stopAll : IsAnsweredBy .stopAll .stopped
  | count (n : Nat) : IsAnsweredBy .count (.counted n)

section

variable {now : Nat} {r r' : Registry τ α} {move : Move τ α} {os : List (Outcome τ)} {task : τ}

theorem requestsOf_congr (hw : r'.waiters = r.waiters) (hh : r'.holder = r.holder) :
    r'.requestsOf task = r.requestsOf task := by
  rw [requestsOf, requestsOf, hw, hh]

theorem requestsOf_modifyChannel (id : SubscriberId) (f : Channel α → Channel α) :
    (r.modifyChannel id f).requestsOf task = r.requestsOf task :=
  requestsOf_congr (waiters_modifyChannel ..) (holder_modifyChannel ..)

/-- A broadcast goes on. -/
theorem requestsOf_of_holder {d d' : Delivery τ α} (hd : r.holder = some d)
    (hd' : r'.holder = some d') (hw : r'.waiters = r.waiters) (ht : d'.task = d.task)
    (hi : d'.item = d.item) : r'.requestsOf task = r.requestsOf task := by
  rw [requestsOf, requestsOf, hw, hd, hd', Option.filter_some, Option.filter_some, ht]
  split
  · simp only [Option.toList_some, List.map_cons, List.map_nil, hi]
  · rfl

theorem requestsOf_ask {other : τ} {request : Request α} (h : r.ask other request = some r') :
    r'.requestsOf task = r.requestsOf task ++ if other = task then [request] else [] := by
  have hr : r'.holder = r.holder ∧ r'.waiters = r.waiters ++ [(other, request)] := by
    unfold ask at h
    split at h
    · split at h
      · cases h
        exact ⟨rfl, rfl⟩
      · cases h
    · cases h
      exact ⟨rfl, rfl⟩
  rw [requestsOf, requestsOf, hr.1, hr.2, List.filter_append, List.map_append, List.append_assoc]
  by_cases ho : other = task
  · simp [ho]
  · simp [ho]

theorem requestsOf_cancel_of_ne {other : τ} (hne : other ≠ task) :
    (r.cancel other).requestsOf task = r.requestsOf task := by
  obtain ⟨hw, hh⟩ := cancel_frame r other
  have hwaiters : (r.waiters.filter fun w => !decide (w.1 = other)).filter
      (fun w => decide (w.1 = task)) = r.waiters.filter fun w => decide (w.1 = task) := by
    rw [List.filter_filter]
    refine List.filter_congr fun w _ => ?_
    by_cases hwt : w.1 = task
    · simp [hwt, hne.symm]
    · simp [hwt]
  rw [requestsOf, requestsOf, hw, hh, hwaiters]
  cases r.holder with
  | none => rfl
  | some d =>
    by_cases hd : d.task = task
    · simp [Option.filter_some, hd, hne.symm]
    · by_cases hd' : d.task = other <;> simp [Option.filter_some, hd, hd', hne]

omit [DecidableEq τ] in
/-- The task that gets the lock is answered at once, unless it broadcasts. -/
theorem requestsOf_perform {other : τ} {request : Request α} (hh : r.holder = none)
    (h : r.perform now other request = (r', os)) :
    (∃ item, request = .broadcast item ∧ os = [] ∧ r'.waiters = r.waiters ∧
      ∃ d, r'.holder = some d ∧ d.task = other ∧ d.item = item) ∨
    ∃ answer, request.IsAnsweredBy answer ∧ os = [.done other answer] ∧
      r'.waiters = r.waiters ∧ r'.holder = none := by
  cases request with
  | subscribe id =>
    cases h
    refine .inr ⟨_, .subscribe id, rfl, ?_, ?_⟩
    · split
      · exact waiters_modifyChannel r id _
      · rfl
    · split
      · exact (holder_modifyChannel r id _).trans hh
      · exact hh
  | remove id =>
    unfold perform at h
    simp only at h
    split at h
    · cases h
      exact .inr ⟨_, .remove id true, rfl, (unregister_frame r [id]).1,
        (unregister_frame r [id]).2.trans hh⟩
    · cases h
      exact .inr ⟨_, .remove id false, rfl, rfl, hh⟩
  | broadcast item =>
    cases h
    exact .inl ⟨item, rfl, rfl, rfl, _, rfl, rfl, rfl⟩
  | stopAll =>
    cases h
    exact .inr ⟨_, .stopAll, rfl, (unregister_frame r r.registered).1,
      (unregister_frame r r.registered).2.trans hh⟩
  | count =>
    cases h
    exact .inr ⟨_, .count _, rfl, rfl, hh⟩

/-- The lock goes to the first task in the queue. -/
theorem requestsOf_grant {other : τ} {request : Request α} {waiters : List (τ × Request α)}
    (hh : r.holder = none) (hw : r.waiters = (other, request) :: waiters)
    (h : { r with waiters }.perform now other request = (r', os)) :
    ((∀ answer, .done task answer ∉ os) ∧ r'.requestsOf task = r.requestsOf task) ∨
    ∃ request answer, os = [.done task answer] ∧ request.IsAnsweredBy answer ∧
      r.requestsOf task = request :: r'.requestsOf task := by
  have hr : r.requestsOf task = (if other = task then [request] else []) ++
      (waiters.filter fun w => decide (w.1 = task)).map Prod.snd := by
    rw [requestsOf, hh, hw, List.filter_cons]
    by_cases ho : other = task <;> simp [ho]
  rcases requestsOf_perform (r := { r with waiters }) hh h with
    ⟨item, rfl, rfl, hw', d, hd, hdt, hdi⟩ | ⟨answer, ha, rfl, hw', hh'⟩
  · refine .inl ⟨fun _ => List.not_mem_nil, ?_⟩
    rw [hr, requestsOf, hd, hw', Option.filter_some, hdt]
    by_cases ho : other = task <;> simp [ho, hdi]
  · have hr' : r'.requestsOf task = (waiters.filter fun w => decide (w.1 = task)).map Prod.snd := by
      rw [requestsOf, hh', hw']
      rfl
    by_cases ho : other = task
    · refine .inr ⟨request, answer, by rw [ho], ha, ?_⟩
      rw [hr, hr', if_pos ho]
      rfl
    · refine .inl ⟨fun answer' hmem => ?_, ?_⟩
      · cases List.mem_singleton.mp hmem
        exact ho rfl
      · rw [hr, hr', if_neg ho]
        rfl

/-- **A task's requests wait until they are answered, one after another.** -/
theorem requestsOf_of_effect (he : r.Effect now move r' os) (hask : ∀ q, move ≠ .ask task q)
    (hcancel : move ≠ .cancel task) :
    ((∀ answer, .done task answer ∉ os) ∧ r'.requestsOf task = r.requestsOf task) ∨
    ∃ request answer, os = [.done task answer] ∧ request.IsAnsweredBy answer ∧
      r.requestsOf task = request :: r'.requestsOf task := by
  cases he with
  | draw => exact .inl ⟨fun _ => List.not_mem_nil, rfl⟩
  | ask other request r' h =>
    have hne : other ≠ task := fun e => hask request (e ▸ rfl)
    refine .inl ⟨fun _ => List.not_mem_nil, ?_⟩
    rw [requestsOf_ask h, if_neg hne, List.append_nil]
  | grant other request waiters r' os hh hw hp => exact requestsOf_grant hh hw hp
  | deliver d id c c' hd hr hc ho =>
    refine .inl ⟨fun _ => List.not_mem_nil, requestsOf_of_holder hd rfl ?_ rfl rfl⟩
    exact waiters_modifyChannel r id _
  | lose d id c hd hr hc ho =>
    exact .inl ⟨fun _ => List.not_mem_nil, requestsOf_of_holder hd rfl rfl rfl rfl⟩
  | skip timeout d id c hp hd hr hc ho ht =>
    refine .inl ⟨fun answer hmem => ?_, requestsOf_of_holder hd rfl rfl rfl rfl⟩
    cases List.mem_singleton.mp hmem
  | finish d hd hr =>
    have hw : ({ r.unregister d.lost with holder := none } : Registry τ α).waiters = r.waiters :=
      (unregister_frame r d.lost).1
    by_cases ht : d.task = task
    · refine .inr ⟨.broadcast d.item, .delivered, by rw [ht], .broadcast d.item, ?_⟩
      rw [requestsOf, requestsOf, hw, hd, Option.filter_some, decide_eq_true ht]
      rfl
    · refine .inl ⟨fun answer hmem => ?_, ?_⟩
      · cases List.mem_singleton.mp hmem
        exact ht rfl
      · rw [requestsOf, requestsOf, hw, hd, Option.filter_some, decide_eq_false ht]
        rfl
  | cancel other =>
    have hne : other ≠ task := fun e => hcancel (e ▸ rfl)
    exact .inl ⟨fun _ => List.not_mem_nil, requestsOf_cancel_of_ne hne⟩
  | receive id | drop id =>
    exact .inl ⟨fun _ => List.not_mem_nil, requestsOf_modifyChannel id _⟩

end

end Vitals.Registry
