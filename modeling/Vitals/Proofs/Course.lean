/-!
# Courses

A machine is a function that gives the effect of a move at an instant, if the move is possible. Its
states forget what happened: which items were handed on, what was lost, which calls have ended. A
*course* is a run with every step on record, so that a statement about the past can be compared
with the state that was reached. This file fixes

* `Transition`, one step with the states on either side of it;
* `Course`, the runs of a machine with their transitions, the oldest first;
* `PromptCourse`, the runs on which time passes only while the machine has nothing to do;
* `drive`, which makes given moves at given instants.

Main statements: a course can be cut at each of its transitions (`Course.split`), and moves that
can be driven make a course (`course_of_drive`).
-/

namespace Vitals

/-! ## 1. Transitions and courses -/

/-- One step of a machine, with the states on either side of it and what it brought. -/
structure Transition (σ μ ε : Type) where
  now : Nat
  before : σ
  move : μ
  after : σ
  out : List ε

variable {σ μ ε : Type}

/-- The courses of a machine from a state at an instant, with the instant and the state that they
lead to. -/
inductive Course (step : Nat → σ → μ → Option (σ × List ε)) (start : Nat) (s₀ : σ) :
    List (Transition σ μ ε) → Nat → σ → Prop where
  | start : Course step start s₀ [] start s₀
  | step {ts : List (Transition σ μ ε)} {now : Nat} {s t : σ} {move : μ} {out : List ε} :
      Course step start s₀ ts now s → step now s move = some (t, out) →
      Course step start s₀ (ts ++ [⟨now, s, move, t, out⟩]) now t
  | wait {ts : List (Transition σ μ ε)} {now later : Nat} {s : σ} :
      Course step start s₀ ts now s → now ≤ later → Course step start s₀ ts later s

/-- A history with one more step is cut at that step, or at an earlier one. -/
theorem snoc_eq_append_cons {α : Type} {l front back : List α} {a b : α}
    (e : l ++ [a] = front ++ b :: back) :
    (front = l ∧ b = a ∧ back = []) ∨ ∃ rest, back = rest ++ [a] ∧ l = front ++ b :: rest := by
  rcases List.eq_nil_or_concat back with rfl | ⟨rest, last, rfl⟩
  · obtain ⟨rfl, elast⟩ := List.append_inj' e rfl
    cases elast
    exact .inl ⟨rfl, rfl, rfl⟩
  · rw [List.concat_eq_append, ← List.cons_append, ← List.append_assoc] at e
    obtain ⟨el, elast⟩ := List.append_inj' e rfl
    cases elast
    exact .inr ⟨rest, List.concat_eq_append, el⟩

section

variable {step : Nat → σ → μ → Option (σ × List ε)} {start : Nat} {s₀ : σ}

/-- A course that begins with a step. -/
theorem Course.cons {now later : Nat} {move : μ} {t s : σ} {out : List ε}
    {ts : List (Transition σ μ ε)} (hs : step now s₀ move = some (t, out)) (hle : start ≤ now)
    (h : Course step now t ts later s) :
    Course step start s₀ (⟨now, s₀, move, t, out⟩ :: ts) later s := by
  induction h with
  | start => exact .step (.wait .start hle) hs
  | step _ hs' ih => exact .step ih hs'
  | wait _ hle' ih => exact .wait ih hle'

/-- **A course can be cut at each of its transitions**: what came before is a course to the state
before it, and the step is one of the machine. -/
theorem Course.split {ts : List (Transition σ μ ε)} {now : Nat} {s : σ}
    (h : Course step start s₀ ts now s) {front back : List (Transition σ μ ε)}
    {t : Transition σ μ ε} (e : ts = front ++ t :: back) :
    Course step start s₀ front t.now t.before ∧
      step t.now t.before t.move = some (t.after, t.out) := by
  induction h generalizing back with
  | start => simp at e
  | wait _ _ ih => exact ih e
  | step h hs ih =>
    rcases snoc_eq_append_cons e with ⟨rfl, rfl, rfl⟩ | ⟨rest, rfl, efront⟩
    · exact ⟨h, hs⟩
    · exact ih efront

/-- No transition is later than the instant that a course leads to. -/
theorem Course.le_now {ts : List (Transition σ μ ε)} {now : Nat} {s : σ}
    (h : Course step start s₀ ts now s) : ∀ t ∈ ts, t.now ≤ now := by
  induction h with
  | start => exact fun t ht => absurd ht List.not_mem_nil
  | step _ _ ih =>
    intro t ht
    rcases List.mem_append.mp ht with ht | ht
    · exact ih t ht
    · cases List.mem_singleton.mp ht
      exact Nat.le_refl _
  | wait _ hle ih => exact fun t ht => Nat.le_trans (ih t ht) hle

/-- A course is still in its first state, or in the one that its last transition led to. -/
theorem Course.last {ts : List (Transition σ μ ε)} {now : Nat} {s : σ}
    (h : Course step start s₀ ts now s) :
    ts = [] ∧ s = s₀ ∨ ∃ front t, ts = front ++ [t] ∧ t.after = s := by
  induction h with
  | start => exact .inl ⟨rfl, rfl⟩
  | step _ _ _ => exact .inr ⟨_, _, rfl, rfl⟩
  | wait _ _ ih => exact ih

end

/-- The courses on which time passes only while a machine has nothing to do: at no instant before
the later one is it `busy`. -/
inductive PromptCourse (step : Nat → σ → μ → Option (σ × List ε)) (busy : Nat → σ → Prop)
    (start : Nat) (s₀ : σ) : List (Transition σ μ ε) → Nat → σ → Prop where
  | start : PromptCourse step busy start s₀ [] start s₀
  | step {ts : List (Transition σ μ ε)} {now : Nat} {s t : σ} {move : μ} {out : List ε} :
      PromptCourse step busy start s₀ ts now s → step now s move = some (t, out) →
      PromptCourse step busy start s₀ (ts ++ [⟨now, s, move, t, out⟩]) now t
  | wait {ts : List (Transition σ μ ε)} {now later : Nat} {s : σ} :
      PromptCourse step busy start s₀ ts now s → now ≤ later →
      (∀ at_, now ≤ at_ → at_ < later → ¬busy at_ s) →
      PromptCourse step busy start s₀ ts later s

/-- A prompt course can be cut at each of its transitions. -/
theorem PromptCourse.split {step : Nat → σ → μ → Option (σ × List ε)} {busy : Nat → σ → Prop}
    {start : Nat} {s₀ : σ} {ts : List (Transition σ μ ε)} {now : Nat} {s : σ}
    (h : PromptCourse step busy start s₀ ts now s) {front back : List (Transition σ μ ε)}
    {t : Transition σ μ ε} (e : ts = front ++ t :: back) :
    PromptCourse step busy start s₀ front t.now t.before := by
  induction h generalizing back with
  | start => simp at e
  | wait _ _ _ ih => exact ih e
  | step h hs ih =>
    rcases snoc_eq_append_cons e with ⟨rfl, rfl, rfl⟩ | ⟨rest, rfl, efront⟩
    · exact h
    · exact ih efront

/-- A prompt course is a course. -/
theorem PromptCourse.course {step : Nat → σ → μ → Option (σ × List ε)} {busy : Nat → σ → Prop}
    {start : Nat} {s₀ : σ} {ts : List (Transition σ μ ε)} {now : Nat} {s : σ}
    (h : PromptCourse step busy start s₀ ts now s) : Course step start s₀ ts now s := by
  induction h with
  | start => exact .start
  | step _ hs ih => exact .step ih hs
  | wait _ hle _ ih => exact .wait ih hle

/-- What a further step adds to a history that is read off a course. -/
theorem filterMap_snoc {α β : Type} (f : α → Option β) (l : List α) (a : α) :
    (l ++ [a]).filterMap f = l.filterMap f ++ (f a).toList := by
  rw [List.filterMap_append]
  cases h : f a <;> simp [h]

/-! ## 2. Driving a machine -/

/-- Makes moves one after another, each at its instant; there is no result if one of them is not
possible or time would go back. -/
def drive (step : Nat → σ → μ → Option (σ × List ε)) :
    Nat → σ → List (Nat × μ) → Option (List (Transition σ μ ε) × Nat × σ)
  | now, s, [] => some ([], now, s)
  | now, s, (at_, move) :: moves =>
    if now ≤ at_ then
      match step at_ s move with
      | none => none
      | some (t, out) =>
        (drive step at_ t moves).map fun (ts, reached) => (⟨at_, s, move, t, out⟩ :: ts, reached)
    else none

/-- **Moves that can be driven make a course.** -/
theorem course_of_drive {step : Nat → σ → μ → Option (σ × List ε)} (moves : List (Nat × μ))
    {start now : Nat} {s₀ s : σ} {ts : List (Transition σ μ ε)}
    (h : drive step start s₀ moves = some (ts, now, s)) : Course step start s₀ ts now s := by
  induction moves generalizing start s₀ ts with
  | nil =>
    cases h
    exact .start
  | cons m moves ih =>
    unfold drive at h
    split at h
    · rename_i hle
      split at h
      · cases h
      · rename_i t out hs
        obtain ⟨⟨ts', now', s'⟩, hd, e⟩ := Option.map_eq_some_iff.mp h
        cases e
        exact .cons hs hle (ih hd)
    · cases h

/-- Moves that are made without a pause go on with a prompt course. -/
theorem PromptCourse.drive {step : Nat → σ → μ → Option (σ × List ε)} {busy : Nat → σ → Prop}
    {start now later : Nat} {s₀ s t : σ} {ts ts' : List (Transition σ μ ε)}
    (h : PromptCourse step busy start s₀ ts now s) (moves : List μ)
    (hd : Vitals.drive step now s (moves.map fun move => (now, move)) = some (ts', later, t)) :
    PromptCourse step busy start s₀ (ts ++ ts') later t := by
  induction moves generalizing s ts ts' with
  | nil =>
    cases hd
    rw [List.append_nil]
    exact h
  | cons move moves ih =>
    rw [List.map_cons, Vitals.drive, if_pos (Nat.le_refl now)] at hd
    split at hd
    · cases hd
    · rename_i u out hs
      obtain ⟨⟨ts'', now', s'⟩, hd', e⟩ := Option.map_eq_some_iff.mp hd
      cases e
      rw [List.append_cons]
      exact ih (h.step hs) hd'

end Vitals
