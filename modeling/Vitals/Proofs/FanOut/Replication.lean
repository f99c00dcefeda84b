import Mathlib.Data.List.Nodup
import Vitals.Proofs.Course
import Vitals.Proofs.FanOut.Step

/-!
# Every branch gets the input

A fan-out offers an item to all branches at once; they answer in any order, and receivers may go
away before, between and after their answers. This file follows a branch through a whole run. It
fixes

* the histories of a course: the items sent into the input, those read from it, and for each
  branch those it accepted, those whose sending to it failed, and those received from it;
* `Branch.Answers`, the invariant: a branch has answered to every item read but perhaps the one
  under way, and after one refusal it answers to nothing;
* `Replicates`, what a course says of a branch.

Main statement: every branch that keeps its receiver gets the items read in their order, in step
with the others, and one that loses it is removed after the first item that cannot be sent to it,
with one warning (`branches_replicate`).
-/

namespace Vitals

namespace FanOut

/-! ## 1. Histories -/

abbrev Step (α : Type) := Transition (FanOut α) (Move α) Event

section

variable {α : Type}

/-- The item that the fan-out reads. -/
def Step.read? (t : Step α) : Option α :=
  match t.move, t.after.phase with
  | .read, .sending a => some a
  | _, _ => none

/-- The item under way, if branch `i` answers to it and then stands as given. -/
def Step.answered? (how : Standing) (i : Nat) (t : Step α) : Option α :=
  match t.move, t.before.phase with
  | .offer j, .sending a =>
    if j = i ∧ (t.after.branches[i]?).any (fun b => b.standing == how) then some a else none
  | _, _ => none

/-- The items sent into the input so far. -/
def sent (ts : List (Step α)) : List α :=
  ts.filterMap fun t => sent? t.move

/-- The items read from the input so far. -/
def reads (ts : List (Step α)) : List α :=
  ts.filterMap Step.read?

/-- The items received from a branch so far. -/
def taken (i : Nat) (ts : List (Step α)) : List α :=
  ts.filterMap fun t => t.before.taken? i t.move

/-- The items that a branch accepted so far. -/
def accepted (i : Nat) (ts : List (Step α)) : List α :=
  ts.filterMap (Step.answered? .accepted i)

/-- The items that could not be sent to a branch. -/
def failed (i : Nat) (ts : List (Step α)) : List α :=
  ts.filterMap (Step.answered? .refused i)

/-- The number of warnings so far that a branch was removed. -/
def warnings (name : String) (ts : List (Step α)) : Nat :=
  (ts.flatMap Transition.out).count (.branchRemoved name)

section

variable (ts : List (Step α)) (t : Step α) (i : Nat)

theorem sent_snoc : sent (ts ++ [t]) = sent ts ++ (sent? t.move).toList :=
  filterMap_snoc _ ts t

theorem reads_snoc : reads (ts ++ [t]) = reads ts ++ t.read?.toList :=
  filterMap_snoc _ ts t

theorem taken_snoc : taken i (ts ++ [t]) = taken i ts ++ (t.before.taken? i t.move).toList :=
  filterMap_snoc _ ts t

theorem accepted_snoc :
    accepted i (ts ++ [t]) = accepted i ts ++ (t.answered? .accepted i).toList :=
  filterMap_snoc _ ts t

theorem failed_snoc : failed i (ts ++ [t]) = failed i ts ++ (t.answered? .refused i).toList :=
  filterMap_snoc _ ts t

theorem warnings_snoc (name : String) :
    warnings name (ts ++ [t]) = warnings name ts + t.out.count (.branchRemoved name) := by
  rw [warnings, List.flatMap_append, List.flatMap_singleton, List.count_append]
  rfl

end

end

end FanOut

/-! ## 2. The answers of a branch -/

/-- **How a branch stands with the items read**, given those it accepted and those whose sending to
it failed. -/
structure Branch.Answers {α : Type} (b : Branch α) (phase : FanOut.Phase α)
    (reads accepted failed : List α) : Prop where
  line : b.standing ≠ .removed → reads = accepted ++ failed ++ b.owed phase
  inOrder : accepted ++ failed <+: reads
  once : failed.length ≤ 1
  found : failed ≠ [] ↔ b.standing = .refused ∨ b.standing = .removed
  idle : (∀ a, phase ≠ .sending a) → b.standing = .ready ∨ b.standing = .removed

namespace Branch.Answers

variable {α : Type} {b b' : Branch α} {phase : FanOut.Phase α} {reads accepted failed : List α}
  {a : α}

theorem failed_eq_nil (h : b.Answers phase reads accepted failed) (hr : b.standing ≠ .refused)
    (hm : b.standing ≠ .removed) : failed = [] := by
  have hnot : ¬failed ≠ [] := fun hne => (h.found.mp hne).elim hr hm
  exact Classical.byContradiction hnot

/-- What a branch answered does not depend on its buffer. -/
theorem of_standing_eq (h : b.Answers phase reads accepted failed)
    (hs : b'.standing = b.standing) : b'.Answers phase reads accepted failed := by
  have howed : b'.owed phase = b.owed phase := by
    cases phase <;> simp only [Branch.owed, hs]
  exact ⟨by rw [hs, howed]; exact h.line, h.inOrder, h.once, by rw [hs]; exact h.found,
    by rw [hs]; exact h.idle⟩

/-- A further item is read: the branch owes an answer, unless it was removed. -/
theorem read (h : b.Answers .reading reads accepted failed) (a : α) :
    b.begin.Answers (.sending a) (reads ++ [a]) accepted failed := by
  have hmore : accepted ++ failed <+: reads ++ [a] := h.inOrder.trans (List.prefix_append _ _)
  rcases h.idle (fun _ e => by cases e) with hs | hs
  · rw [Branch.begin_of_ready hs]
    have hnone : failed = [] := h.failed_eq_nil (by simp [hs]) (by simp [hs])
    have hline := h.line (by simp [hs])
    rw [Branch.owed_reading, List.append_nil] at hline
    refine ⟨fun _ => ?_, hmore, h.once, ?_, fun hp => absurd rfl (hp a)⟩
    · rw [Branch.owed_of_eq rfl, hline]
    · simp [hnone]
  · have hb : b.begin = b := if_pos hs
    rw [hb]
    exact ⟨fun hne => absurd hs hne, hmore, h.once, h.found, fun hp => absurd rfl (hp a)⟩

/-- The input has ended. -/
theorem finish (h : b.Answers .reading reads accepted failed) :
    b.close.Answers .finished reads accepted failed :=
  ⟨h.line, h.inOrder, h.once, h.found, fun _ => h.idle fun _ e => by cases e⟩

theorem accept (h : b.Answers (.sending a) reads accepted failed) (hs : b.standing = .offered)
    (c : Channel α) :
    Answers { b with output := c, standing := .accepted } (.sending a) reads (accepted ++ [a])
      failed := by
  have hnone : failed = [] := h.failed_eq_nil (by simp [hs]) (by simp [hs])
  have hline := h.line (by simp [hs])
  rw [Branch.owed_of_eq hs, hnone, List.append_nil] at hline
  refine ⟨fun _ => ?_, ?_, h.once, by simp [hnone], fun hp => absurd rfl (hp a)⟩
  · rw [hnone, Branch.owed_of_ne (by simp), List.append_nil, List.append_nil, hline]
  · exact ⟨[], by rw [hnone, List.append_nil, List.append_nil, hline]⟩

theorem refuse (h : b.Answers (.sending a) reads accepted failed) (hs : b.standing = .offered) :
    Answers { b with standing := .refused } (.sending a) reads accepted (failed ++ [a]) := by
  have hnone : failed = [] := h.failed_eq_nil (by simp [hs]) (by simp [hs])
  have hline := h.line (by simp [hs])
  rw [Branch.owed_of_eq hs, hnone, List.append_nil] at hline
  refine ⟨fun _ => ?_, ?_, by simp [hnone], by simp [hnone], fun hp => absurd rfl (hp a)⟩
  · rw [hnone, Branch.owed_of_ne (by simp), List.nil_append, List.append_nil, hline]
  · exact ⟨[], by rw [hnone, List.nil_append, List.append_nil, hline]⟩

/-- The item is dealt with: a branch that refused it is removed. -/
theorem settle (h : b.Answers (.sending a) reads accepted failed) (hs : b.standing ≠ .offered) :
    b.conclude.Answers .reading reads accepted failed := by
  have hline : b.standing ≠ .removed → reads = accepted ++ failed ++ [] := by
    intro hm
    rw [← Branch.owed_of_ne hs a]
    exact h.line hm
  unfold Branch.conclude
  split
  · rename_i hm
    exact ⟨fun hne => absurd hm hne, h.inOrder, h.once, h.found, fun _ => .inr hm⟩
  · rename_i hr
    refine ⟨fun hne => absurd rfl hne, h.inOrder, h.once, ?_, fun _ => .inr rfl⟩
    exact h.found.trans ⟨fun _ => .inr rfl, fun _ => .inl hr⟩
  · rename_i hm hr
    have hnone : failed = [] := h.failed_eq_nil hr hm
    refine ⟨fun _ => ?_, h.inOrder, h.once, by simp [hnone], fun _ => .inl rfl⟩
    exact hline hm

/-- **Between two items a branch has accepted all that was read, or was found without receiver and
is removed.** -/
theorem caught_up (h : b.Answers phase reads accepted failed) (hp : ∀ a, phase ≠ .sending a) :
    (b.standing = .removed ↔ failed ≠ []) ∧ (b.standing ≠ .removed → accepted = reads) := by
  rcases h.idle hp with hs | hs
  · have hnone : failed = [] := h.failed_eq_nil (by simp [hs]) (by simp [hs])
    refine ⟨by simp [hs, hnone], fun hm => ?_⟩
    have hline := h.line hm
    have howed : b.owed phase = [] := by
      cases phase with
      | sending a => exact absurd rfl (hp a)
      | reading | finished => rfl
    rw [hnone, howed, List.append_nil, List.append_nil] at hline
    exact hline.symm
  · exact ⟨⟨fun _ => h.found.mpr (.inr hs), fun _ => hs⟩, fun hm => absurd hs hm⟩

end Branch.Answers

namespace FanOut

variable {α : Type}

/-! ## 3. Runs -/

section Step

variable {now : Nat} {f g : FanOut α} {move : Move α} {es : List Event} {ts : List (Step α)}
  {i : Nat} {b : Branch α}

/-- What a step reads comes off the input. -/
theorem input_of_effect (he : f.Effect move g es) (h : sent ts = reads ts ++ f.input.items) :
    sent (ts ++ [⟨now, f, move, g, es⟩]) = reads (ts ++ [⟨now, f, move, g, es⟩]) ++
      g.input.items := by
  rw [sent_snoc, reads_snoc, h]
  cases he with
  | read a rest hp hi =>
    have hitems := Channel.items_eq_of_poll hi
    simp only [sent?, Step.read?, hitems, Option.toList_none, Option.toList_some, List.append_nil,
      List.append_assoc, List.singleton_append]
  | send a c hs ho =>
    have hitems := Channel.items_of_offer ho
    simp only [sent?, Step.read?, hitems, Option.toList_none, Option.toList_some, List.append_nil,
      List.append_assoc]
  | finish | accept | refuse | settle | close | receive | drop =>
    simp [sent?, Step.read?, Channel.closeSender, FanOut.modify]

/-- A branch after one of them was replaced. -/
theorem branch_of_set {j : Nat} {b₀ b' : Branch α} (hj : f.branches[j]? = some b₀)
    (hb : (f.branches.set j b')[i]? = some b) :
    j = i ∧ b = b' ∨ j ≠ i ∧ f.branches[i]? = some b := by
  by_cases hij : j = i
  · have hlt : j < f.branches.length := (List.getElem?_eq_some_iff.mp hj).1
    rw [← hij, List.getElem?_set_self hlt] at hb
    exact .inl ⟨hij, (Option.some.inj hb).symm⟩
  · rw [List.getElem?_set_ne hij] at hb
    exact .inr ⟨hij, hb⟩

/-- A branch after the output of one of them was changed. -/
theorem branch_of_modify {j : Nat} {u : Branch α → Branch α}
    (hb : (f.modify j u).branches[i]? = some b)
    (hu : ∀ b, (u b).standing = b.standing ∧ (u b).name = b.name) :
    ∃ b₀, f.branches[i]? = some b₀ ∧ b.standing = b₀.standing ∧ b.name = b₀.name := by
  rw [FanOut.modify, List.getElem?_modify] at hb
  obtain ⟨b₀, hb₀, rfl⟩ := Option.map_eq_some_iff.mp hb
  refine ⟨b₀, hb₀, ?_⟩
  show (if j = i then u b₀ else b₀).standing = _ ∧ (if j = i then u b₀ else b₀).name = _
  split
  · exact hu b₀
  · exact ⟨rfl, rfl⟩

/-- An answer of another branch is no answer of this one. -/
theorem answered?_of_ne {j : Nat} (hij : j ≠ i) (how : Standing) :
    Step.answered? how i ⟨now, f, .offer j, g, es⟩ = none := by
  unfold Step.answered?
  split
  · rename_i k a hk _
    cases hk
    exact if_neg fun h => hij h.1
  · rfl

/-- The item under way when a branch answers to it. -/
theorem answered?_self {a : α} (hp : f.phase = .sending a) (hb : g.branches[i]? = some b)
    (how : Standing) : Step.answered? how i ⟨now, f, .offer i, g, es⟩ =
      if b.standing = how then some a else none := by
  simp [Step.answered?, hp, hb]

/-- **A step keeps account of the answers of every branch.** -/
theorem answers_of_effect (he : f.Effect move g es) (hb : g.branches[i]? = some b)
    (h : ∀ b, f.branches[i]? = some b →
      b.Answers f.phase (reads ts) (accepted i ts) (failed i ts)) :
    b.Answers g.phase (reads (ts ++ [⟨now, f, move, g, es⟩]))
      (accepted i (ts ++ [⟨now, f, move, g, es⟩])) (failed i (ts ++ [⟨now, f, move, g, es⟩])) := by
  rw [reads_snoc, accepted_snoc, failed_snoc]
  cases he with
  | read a rest hp hi =>
    rw [List.getElem?_map, Option.map_eq_some_iff] at hb
    obtain ⟨b₀, hb₀, rfl⟩ := hb
    have hA := h b₀ hb₀
    rw [hp] at hA
    simpa [Step.read?, Step.answered?] using hA.read a
  | finish hp hi =>
    rw [List.getElem?_map, Option.map_eq_some_iff] at hb
    obtain ⟨b₀, hb₀, rfl⟩ := hb
    have hA := h b₀ hb₀
    rw [hp] at hA
    simpa [Step.read?, Step.answered?] using hA.finish
  | accept j a b₀ c hp hj hs ho =>
    rcases branch_of_set hj hb with ⟨rfl, rfl⟩ | ⟨hij, hb'⟩
    · have hA := h b₀ hj
      rw [hp] at hA
      rw [answered?_self hp hb, answered?_self hp hb]
      simpa [Step.read?, hp] using hA.accept hs c
    · rw [answered?_of_ne hij, answered?_of_ne hij]
      simpa [Step.read?] using h b hb'
  | refuse j a b₀ hp hj hs ho =>
    rcases branch_of_set hj hb with ⟨rfl, rfl⟩ | ⟨hij, hb'⟩
    · have hA := h b₀ hj
      rw [hp] at hA
      rw [answered?_self hp hb, answered?_self hp hb]
      simpa [Step.read?, hp] using hA.refuse hs
    · rw [answered?_of_ne hij, answered?_of_ne hij]
      simpa [Step.read?] using h b hb'
  | settle a hp ho =>
    rw [List.getElem?_map, Option.map_eq_some_iff] at hb
    obtain ⟨b₀, hb₀, rfl⟩ := hb
    have hA := h b₀ hb₀
    rw [hp] at hA
    simpa [Step.read?, Step.answered?] using hA.settle (ho b₀ (List.mem_of_getElem? hb₀))
  | send a c hs ho => simpa [Step.read?, Step.answered?] using h b hb
  | close => simpa [Step.read?, Step.answered?] using h b hb
  | receive j | drop j =>
    obtain ⟨b₁, hb₁, hs, -⟩ := branch_of_modify hb fun _ => ⟨rfl, rfl⟩
    simpa [Step.read?, Step.answered?, FanOut.modify] using (h b₁ hb₁).of_standing_eq hs

/-- Ending with an item warns of each branch that refused it, once. -/
theorem count_removed {bs : List (Branch α)} (hn : (bs.map Branch.name).Nodup) (hb : b ∈ bs) :
    ((bs.filter fun b => b.standing == .refused).map fun b => Event.branchRemoved b.name).count
      (.branchRemoved b.name) = if b.standing = .refused then 1 else 0 := by
  have hnames : ((bs.filter fun b => b.standing == .refused).map Branch.name).Nodup :=
    (List.filter_sublist.map Branch.name).nodup hn
  have hevents : ((bs.filter fun b => b.standing == .refused).map fun b =>
      Event.branchRemoved b.name).Nodup := by
    have h := hnames.map (f := Event.branchRemoved) fun x y e => Event.branchRemoved.inj e
    rw [List.map_map] at h
    exact h
  by_cases hs : b.standing = .refused
  · rw [if_pos hs]
    have hmem : b ∈ bs.filter fun b => b.standing == .refused :=
      List.mem_filter.mpr ⟨hb, beq_iff_eq.mpr hs⟩
    exact List.count_eq_one_of_mem hevents (List.mem_map_of_mem hmem)
  · rw [if_neg hs]
    refine List.count_eq_zero_of_not_mem fun hmem => hs ?_
    obtain ⟨b', hb', e⟩ := List.mem_map.mp hmem
    obtain ⟨hmem', hs'⟩ := List.mem_filter.mp hb'
    have hbb : b' = b := List.inj_on_of_nodup_map hn hmem' hb (Event.branchRemoved.inj e)
    rw [← hbb]
    exact beq_iff_eq.mp hs'

/-- **A step warns of a branch exactly if it removes it.** -/
theorem warned_of_effect (he : f.Effect move g es) (hn : (f.branches.map Branch.name).Nodup)
    (hb : g.branches[i]? = some b)
    (h : ∀ b, f.branches[i]? = some b →
      warnings b.name ts = if b.standing = .removed then 1 else 0) :
    warnings b.name (ts ++ [⟨now, f, move, g, es⟩]) = if b.standing = .removed then 1 else 0 := by
  rw [warnings_snoc]
  cases he with
  | read a rest hp hi =>
    rw [List.getElem?_map, Option.map_eq_some_iff] at hb
    obtain ⟨b₀, hb₀, rfl⟩ := hb
    have hw := h b₀ hb₀
    unfold Branch.begin
    split <;> simp_all
  | finish hp hi =>
    rw [List.getElem?_map, Option.map_eq_some_iff] at hb
    obtain ⟨b₀, hb₀, rfl⟩ := hb
    exact h b₀ hb₀
  | accept j a b₀ c hp hj hs ho =>
    rcases branch_of_set hj hb with ⟨rfl, rfl⟩ | ⟨-, hb⟩
    · simpa [hs] using h b₀ hj
    · exact h b hb
  | refuse j a b₀ hp hj hs ho =>
    rcases branch_of_set hj hb with ⟨rfl, rfl⟩ | ⟨-, hb⟩
    · simpa [hs] using h b₀ hj
    · exact h b hb
  | settle a hp ho =>
    rw [List.getElem?_map, Option.map_eq_some_iff] at hb
    obtain ⟨b₀, hb₀, rfl⟩ := hb
    have hw := h b₀ hb₀
    have hcount := count_removed hn (List.mem_of_getElem? hb₀)
    unfold Branch.conclude
    split <;> simp_all
  | send a c hs ho => exact h b hb
  | close => exact h b hb
  | receive j | drop j =>
    obtain ⟨b₁, hb₁, hs, hname⟩ := branch_of_modify hb fun _ => ⟨rfl, rfl⟩
    rw [hs, hname]
    exact h b₁ hb₁

/-- Branches keep their names and their places. -/
theorem name_of_effect (he : f.Effect move g es) (i : Nat) :
    (g.branches[i]?).map Branch.name = (f.branches[i]?).map Branch.name := by
  have hmap (u : Branch α → Branch α) (hu : ∀ b, (u b).name = b.name) :
      ((f.branches.map u)[i]?).map Branch.name = (f.branches[i]?).map Branch.name := by
    rw [List.getElem?_map, Option.map_map]
    exact Option.map_congr fun b _ => hu b
  have hset (j : Nat) (b b' : Branch α) (hj : f.branches[j]? = some b) (hb' : b'.name = b.name) :
      ((f.branches.set j b')[i]?).map Branch.name = (f.branches[i]?).map Branch.name := by
    by_cases hij : j = i
    · have hlt : j < f.branches.length := (List.getElem?_eq_some_iff.mp hj).1
      rw [← hij, List.getElem?_set_self hlt, hj, Option.map_some, Option.map_some, hb']
    · rw [List.getElem?_set_ne hij]
  have hmodify (j : Nat) (u : Branch α → Branch α) (hu : ∀ b, (u b).name = b.name) :
      ((f.modify j u).branches[i]?).map Branch.name = (f.branches[i]?).map Branch.name := by
    rw [FanOut.modify, List.getElem?_modify]
    show ((f.branches[i]?).map fun b => if j = i then u b else b).map Branch.name = _
    rw [Option.map_map]
    refine Option.map_congr fun b _ => ?_
    show (if j = i then u b else b).name = b.name
    split
    · exact hu b
    · rfl
  cases he with
  | read => exact hmap _ fun b => by unfold Branch.begin; split <;> rfl
  | finish => exact hmap _ fun b => rfl
  | accept j a b c hp hj => exact hset j b _ hj rfl
  | refuse j a b hp hj => exact hset j b _ hj rfl
  | settle => exact hmap _ fun b => by unfold Branch.conclude; split <;> rfl
  | send | close => rfl
  | receive j => exact hmodify j _ fun b => rfl
  | drop j => exact hmodify j _ fun b => rfl

end Step

/-- **What the runs of a fan-out keep.** -/
structure Running (names : List String) (ts : List (Step α)) (f : FanOut α) : Prop where
  names : f.branches.map Branch.name = names
  input : sent ts = reads ts ++ f.input.items
  carries : ∀ i l, f.lane i = some l → l.Carries (sent ts) (taken i ts)
  answers : ∀ (i : Nat) (b : Branch α), f.branches[i]? = some b →
    b.Answers f.phase (reads ts) (accepted i ts) (failed i ts)
  warned : ∀ (i : Nat) (b : Branch α), f.branches[i]? = some b →
    warnings b.name ts = if b.standing = .removed then 1 else 0

section Runs

variable {buffer capacity start now : Nat} {names : List String} {f₀ f : FanOut α}
  {ts : List (Step α)} {i : Nat} {b : Branch α}

theorem running_start (buffer capacity : Nat) (names : List String) :
    Running names [] (⟨Channel.new capacity, names.map (freshBranch buffer), .reading⟩ : FanOut α)
    where
  names := by
    rw [List.map_map]
    exact List.map_id names
  input := rfl
  carries i l hl := by
    obtain ⟨hi, hp, hb⟩ := lane_eq_some_iff.mp hl
    rw [List.getElem?_map, Option.map_eq_some_iff] at hb
    obtain ⟨name, -, hb⟩ := hb
    obtain ⟨input, phase, branch⟩ := l
    cases hi
    cases hp
    cases hb
    exact Lane.carries_fresh capacity buffer name
  answers i b hb := by
    rw [List.getElem?_map, Option.map_eq_some_iff] at hb
    obtain ⟨name, -, rfl⟩ := hb
    exact ⟨fun _ => rfl, List.prefix_rfl, Nat.zero_le 1, by simp [freshBranch, failed],
      fun _ => .inl rfl⟩
  warned i b hb := by
    rw [List.getElem?_map, Option.map_eq_some_iff] at hb
    obtain ⟨name, -, rfl⟩ := hb
    rfl

theorem running_step {g : FanOut α} {move : Move α} {es : List Event} (hn : names.Nodup)
    (hI : Running names ts f) (hs : f.step move = some (g, es)) :
    Running names (ts ++ [⟨now, f, move, g, es⟩]) g := by
  have he := effect_of_step hs
  refine ⟨?_, input_of_effect he hI.input, fun i l hl => ?_,
    fun i b hb => answers_of_effect he hb (hI.answers i),
    fun i b hb => warned_of_effect he (by rw [hI.names]; exact hn) hb (hI.warned i)⟩
  · rw [← hI.names]
    refine List.ext_getElem? fun i => ?_
    rw [List.getElem?_map, List.getElem?_map]
    exact name_of_effect he i
  · obtain ⟨-, -, hb⟩ := lane_eq_some_iff.mp hl
    have hname := name_of_effect he i
    rw [hb, Option.map_some, eq_comm, Option.map_eq_some_iff] at hname
    obtain ⟨b₀, hb₀, -⟩ := hname
    have hl₀ : f.lane i = some ⟨f.input, f.phase, b₀⟩ := lane_eq_some_iff.mpr ⟨rfl, rfl, hb₀⟩
    obtain ⟨l', hl', heff⟩ := lane_of_step hs hl₀
    have hll : l' = l := Option.some.inj (hl'.symm.trans hl)
    rw [sent_snoc, taken_snoc, ← hll]
    exact Lane.carries_of_effect (hI.carries i _ hl₀) heff

theorem running_of_course (hnew : FanOut.new buffer (Channel.new capacity) names = .ok f₀)
    (h : Course (fun _ => FanOut.step) start f₀ ts now f) : Running names ts f := by
  obtain ⟨rfl, hn⟩ := branches_of_new hnew
  induction h with
  | start => exact running_start buffer capacity names
  | step _ hs ih => exact running_step hn ih hs
  | wait _ _ ih => exact ih

/-! ## 4. What becomes of a branch -/

/-- **What a course says of a branch.** -/
structure Replicates (i : Nat) (ts : List (Step α)) (f : FanOut α) (b : Branch α) : Prop where
  /-- What was received from a branch with a receiver and what is buffered in it are the items
  read, or all of them but the last. -/
  replica : b.output.receiverAlive = true →
    taken i ts ++ b.output.items <+: reads ts ∧
      (reads ts).length ≤ (taken i ts ++ b.output.items).length + 1
  /-- A branch accepts the items read one after another, and none after the first failure. -/
  inOrder : accepted i ts ++ failed i ts <+: reads ts
  once : (failed i ts).length ≤ 1
  /-- Nothing fails while the receiver is there. -/
  spared : b.output.receiverAlive = true → failed i ts = [] ∧ b.standing ≠ .removed
  /-- A branch is removed as soon as the sends of an item are over of which one failed. -/
  removed : (∀ a, f.phase ≠ .sending a) → (b.standing = .removed ↔ failed i ts ≠ [])
  warned : warnings b.name ts = if b.standing = .removed then 1 else 0
  /-- At the end, a branch with a receiver was given the whole input. -/
  complete : f.isFinished = true → b.output.receiverAlive = true →
    taken i ts ++ b.output.items = sent ts ∧ f.input.senderAlive = false
  /-- A branch reports its end only after the last item. -/
  ended : b.output.receiverAlive = true → b.output.poll = .ended →
    taken i ts = sent ts ∧ f.isFinished = true

theorem phase_of_isFinished (h : f.isFinished = true) : f.phase = .finished := by
  unfold isFinished at h
  split at h
  · assumption
  · cases h

theorem Running.replicates (h : Running names ts f) (hb : f.branches[i]? = some b) :
    Replicates i ts f b := by
  have hl : f.lane i = some ⟨f.input, f.phase, b⟩ := lane_eq_some_iff.mpr ⟨rfl, rfl, hb⟩
  have hC := h.carries i _ hl
  have hA := h.answers i b hb
  refine ⟨fun hr => ?_, hA.inOrder, hA.once, fun hr => ?_, fun hp => (hA.caught_up hp).1,
    h.warned i b hb, fun hf hr => ?_, fun hr he => ?_⟩
  · -- the items that wait in the input were not read
    have hline := hC.line hr
    rw [h.input] at hline
    have hreads : reads ts = taken i ts ++ b.output.items ++ b.owed f.phase :=
      List.append_cancel_right hline
    have howed := b.length_owed_le f.phase
    refine ⟨?_, ?_⟩
    · rw [hreads]
      exact List.prefix_append _ _
    · rw [hreads, List.length_append]
      omega
  · obtain ⟨hr₁, hr₂⟩ := hC.present hr
    exact ⟨hA.failed_eq_nil hr₁ hr₂, hr₂⟩
  · have hphase := phase_of_isFinished hf
    obtain ⟨hempty, hclosed⟩ := hC.ended hphase
    have hline := hC.line hr
    have hempty : f.input.items = [] := hempty
    simp only [hphase, Branch.owed_finished, hempty, List.append_nil] at hline
    exact ⟨hline.symm, hclosed⟩
  · obtain ⟨-, hs⟩ := (Channel.poll_eq_ended_iff _).mp he
    have hphase : f.phase = .finished := hC.sealed hr hs
    refine ⟨(hC.eq_of_ended hr he).1, ?_⟩
    rw [isFinished, hphase]

/-! ## 5. In step -/

/-- **What a course says of a step, given what came before.** -/
structure InStep (front : List (Step α)) (t : Step α) : Prop where
  /-- The next item is read when every branch still registered has accepted all items so far; the
  others were found without receiver. -/
  waits : t.read? ≠ none → ∀ (i : Nat) (b : Branch α), t.before.branches[i]? = some b →
    b.standing ≠ .removed ∧ accepted i front = reads front ∨
      b.standing = .removed ∧ failed i front ≠ []
  /-- The item under way is sent to a branch only if no send to it has failed, and it fails exactly
  if the receiver is gone. -/
  sends : ∀ i, t.move = .offer i → failed i front = [] ∧
    ∃ b a, t.before.branches[i]? = some b ∧ t.before.phase = .sending a ∧
      t.answered? .accepted i = (if b.output.receiverAlive then some a else none) ∧
      t.answered? .refused i = (if b.output.receiverAlive then none else some a)

theorem Running.inStep {g : FanOut α} {move : Move α} {es : List Event} (h : Running names ts f)
    (hs : f.step move = some (g, es)) : InStep ts ⟨now, f, move, g, es⟩ := by
  have he := effect_of_step hs
  refine ⟨fun hread i b hb => ?_, fun i hi => ?_⟩
  · have hphase : f.phase = .reading := by
      cases he with
      | read a rest hp hi => exact hp
      | finish | accept | refuse | settle | send | close | receive | drop =>
        exact absurd rfl hread
    have hidle : ∀ a, f.phase ≠ .sending a := fun a e => by
      rw [hphase] at e
      cases e
    obtain ⟨hremoved, hall⟩ := (h.answers i b hb).caught_up hidle
    by_cases hm : b.standing = .removed
    · exact .inr ⟨hm, hremoved.mp hm⟩
    · exact .inl ⟨hm, hall hm⟩
  · cases hi
    cases he with
    | accept _ a b c hp hb hst ho =>
      have hlt : i < f.branches.length := (List.getElem?_eq_some_iff.mp hb).1
      have hr : b.output.receiverAlive = true := (Channel.eq_of_offer ho).1
      refine ⟨(h.answers i b hb).failed_eq_nil (by simp [hst]) (by simp [hst]), b, a, hb, hp, ?_⟩
      rw [answered?_self hp (List.getElem?_set_self hlt),
        answered?_self hp (List.getElem?_set_self hlt), hr]
      exact ⟨rfl, rfl⟩
    | refuse _ a b hp hb hst ho =>
      have hlt : i < f.branches.length := (List.getElem?_eq_some_iff.mp hb).1
      have hr : b.output.receiverAlive = false := (Channel.offer_eq_refused_iff _ _).mp ho
      refine ⟨(h.answers i b hb).failed_eq_nil (by simp [hst]) (by simp [hst]), b, a, hb, hp, ?_⟩
      rw [answered?_self hp (List.getElem?_set_self hlt),
        answered?_self hp (List.getElem?_set_self hlt), hr]
      exact ⟨rfl, rfl⟩

/-- **The branches of a fan-out replicate its input in step.** For any number of branches, any
buffers, whatever is sent into the input and when it is closed, and however the branches are
received from and dropped: every branch keeps its place and gets what `Replicates` says, and every
step waits for the branches as `InStep` says. -/
theorem branches_replicate (hnew : FanOut.new buffer (Channel.new capacity) names = .ok f₀)
    (h : Course (fun _ => FanOut.step) start f₀ ts now f) :
    f.branches.map Branch.name = names ∧
      (∀ (i : Nat) (b : Branch α), f.branches[i]? = some b → Replicates i ts f b) ∧
      ∀ front t back, ts = front ++ t :: back → InStep front t := by
  have hI := running_of_course hnew h
  refine ⟨hI.names, fun i b hb => hI.replicates hb, fun front t back e => ?_⟩
  obtain ⟨hfront, hs⟩ := h.split e
  exact (running_of_course hnew hfront).inStep hs

end Runs

/-- A course on which the first of two branches loses its receiver before the second item: it is
removed with one warning, and the other is given the whole input. -/
theorem branches_replicate_one_dropped :
    ∃ (f₀ f : FanOut Nat) (ts : List (Step Nat)) (now : Nat),
      FanOut.new 1 (Channel.new 4) ["storage", "streaming"] = .ok f₀ ∧
      Course (fun _ => FanOut.step) 0 f₀ ts now f ∧
      failed 0 ts = [2] ∧ warnings "storage" ts = 1 ∧ taken 1 ts = [1, 2] := by
  have h : Course (fun _ => FanOut.step) 0
      (⟨Channel.new 4, [freshBranch 1 "storage", freshBranch 1 "streaming"], .reading⟩ : FanOut Nat)
      _ _ _ :=
    course_of_drive [(0, .send 1), (0, .send 2), (0, .read), (0, .offer 1), (0, .offer 0),
      (0, .settle), (1, .drop 0), (1, .read), (1, .offer 0), (2, .receive 1), (2, .offer 1),
      (2, .settle), (3, .close), (3, .read), (4, .receive 1)] rfl
  have hnew : FanOut.new 1 (Channel.new 4) ["storage", "streaming"] = .ok
      (⟨Channel.new 4, [freshBranch 1 "storage", freshBranch 1 "streaming"], .reading⟩ :
        FanOut Nat) := rfl
  obtain ⟨-, hbranches, -⟩ := branches_replicate hnew h
  exact ⟨_, _, _, _, hnew, h, rfl, (hbranches 0 _ rfl).warned,
    ((hbranches 1 _ rfl).ended rfl rfl).1⟩

end FanOut

end Vitals
