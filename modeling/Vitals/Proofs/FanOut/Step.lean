import Vitals.Proofs.FanOut.Lane

/-!
# What a step of a fan-out can do

This file says once everything that a step of a fan-out can do (`FanOut.Effect`,
`effect_of_step`), and what a new fan-out is (`branches_of_new`); all that is proved about whole
runs of a fan-out goes through it. Beside it stands what a step looks like on the lane of one
branch (`lane_of_step`), so that the invariant of lanes carries over to every branch.
-/

namespace Vitals

/-- How a branch can answer. -/
theorem Branch.answer_eq_some {α : Type} {b b' : Branch α} {a : α} (h : b.answer a = some b') :
    b.standing = .offered ∧
      ((∃ c, b.output.offer a = .accepted c ∧ b' = { b with output := c, standing := .accepted }) ∨
        b.output.offer a = .refused ∧ b' = { b with standing := .refused }) := by
  unfold Branch.answer at h
  split at h
  · rename_i hs
    split at h
    · rename_i c ho
      cases h
      exact ⟨hs, .inl ⟨c, ho, rfl⟩⟩
    · cases h
    · rename_i ho
      cases h
      exact ⟨hs, .inr ⟨ho, rfl⟩⟩
  · cases h

namespace FanOut

variable {α : Type}

/-! ## 1. Steps -/

/-- **Everything that a step can do.** -/
inductive Effect (f : FanOut α) : Move α → FanOut α → List Event → Prop where
  | read (a : α) (rest : Channel α) (hp : f.phase = .reading) (hi : f.input.poll = .item a rest) :
      Effect f .read { input := rest, branches := f.branches.map Branch.begin, phase := .sending a }
        []
  /-- The input has ended. -/
  | finish (hp : f.phase = .reading) (hi : f.input.poll = .ended) :
      Effect f .read { f with branches := f.branches.map Branch.close, phase := .finished } []
  | accept (i : Nat) (a : α) (b : Branch α) (c : Channel α) (hp : f.phase = .sending a)
      (hb : f.branches[i]? = some b) (hs : b.standing = .offered)
      (ho : b.output.offer a = .accepted c) :
      Effect f (.offer i)
        { f with branches := f.branches.set i { b with output := c, standing := .accepted } } []
  | refuse (i : Nat) (a : α) (b : Branch α) (hp : f.phase = .sending a)
      (hb : f.branches[i]? = some b) (hs : b.standing = .offered)
      (ho : b.output.offer a = .refused) :
      Effect f (.offer i) { f with branches := f.branches.set i { b with standing := .refused } } []
  | settle (a : α) (hp : f.phase = .sending a) (ho : ∀ b ∈ f.branches, b.standing ≠ .offered) :
      Effect f .settle { f with branches := f.branches.map Branch.conclude, phase := .reading }
        ((f.branches.filter fun b => b.standing == .refused).map fun b => .branchRemoved b.name)
  | send (a : α) (c : Channel α) (hs : f.input.senderAlive = true)
      (ho : f.input.offer a = .accepted c) : Effect f (.send a) { f with input := c } []
  | close : Effect f .close { f with input := f.input.closeSender } []
  | receive (i : Nat) (b : Branch α) (a : α) (c : Channel α) (hb : f.branches[i]? = some b)
      (ho : b.output.poll = .item a c) :
      Effect f (.receive i) (f.modify i fun b => { b with output := c }) []
  | drop (i : Nat) :
      Effect f (.drop i) (f.modify i fun b => { b with output := b.output.dropReceiver }) []

section

variable {f g : FanOut α} {move : Move α} {es : List Event}

/-- **A step does nothing else.** -/
theorem effect_of_step (h : f.step move = some (g, es)) : f.Effect move g es := by
  cases move with
  | read =>
    obtain ⟨f', hr, e⟩ := Option.map_eq_some_iff.mp h
    cases e
    unfold FanOut.read at hr
    split at hr
    · rename_i hp
      split at hr
      · rename_i a rest hi
        cases hr
        exact .read a rest hp hi
      · cases hr
      · rename_i hi
        cases hr
        exact .finish hp hi
    · cases hr
  | offer i =>
    obtain ⟨f', ho, e⟩ := Option.map_eq_some_iff.mp h
    cases e
    unfold FanOut.offer at ho
    split at ho
    · rename_i a hp
      simp only [Option.bind_eq_bind, Option.bind_eq_some_iff, Option.pure_def] at ho
      obtain ⟨b, hb, b', ha, e⟩ := ho
      cases e
      obtain ⟨hs, ⟨c, hc, rfl⟩ | ⟨hc, rfl⟩⟩ := Branch.answer_eq_some ha
      · exact .accept i a b c hp hb hs hc
      · exact .refuse i a b hp hb hs hc
    · cases ho
  | settle =>
    have h : f.settle = some (g, es) := h
    unfold FanOut.settle at h
    split at h
    · rename_i a hp
      split at h
      · cases h
      · rename_i hopen
        cases h
        refine .settle a hp fun b hb hs => hopen ?_
        have hbopen : b.isOpen = true := by rw [Branch.isOpen, hs]; rfl
        exact List.any_eq_true.mpr ⟨b, hb, hbopen⟩
    · cases h
  | send a =>
    simp only [FanOut.step] at h
    split at h
    · rename_i c hs ho
      cases h
      exact .send a c hs ho
    · cases h
  | close =>
    cases h
    exact .close
  | receive i =>
    simp only [FanOut.step, Option.bind_eq_bind, Option.bind_eq_some_iff] at h
    obtain ⟨b, hb, h⟩ := h
    split at h
    · rename_i a c ho
      cases h
      exact .receive i b a c hb ho
    · cases h
  | drop i =>
    cases h
    exact .drop i

end

/-! ## 2. New fan-outs -/

/-- A branch that nothing was sent to. -/
def freshBranch (buffer : Nat) (name : String) : Branch α :=
  { name, output := Channel.new buffer }

theorem branches_of_register {buffer : Nat} {names : List String} {bs bs' : List (Branch α)}
    (h : names.foldlM (Branch.register buffer) bs = .ok bs') (hn : (bs.map Branch.name).Nodup) :
    bs' = bs ++ names.map (freshBranch buffer) ∧ (bs'.map Branch.name).Nodup := by
  induction names generalizing bs with
  | nil =>
    cases h
    exact ⟨(List.append_nil _).symm, hn⟩
  | cons name names ih =>
    rw [List.foldlM_cons, Branch.register] at h
    split at h
    · cases h
    · rename_i hnew
      have hfree : name ∉ bs.map Branch.name := by
        intro hmem
        obtain ⟨b, hb, e⟩ := List.mem_map.mp hmem
        exact hnew (List.any_eq_true.mpr ⟨b, hb, beq_iff_eq.mpr e⟩)
      have hn' : ((bs ++ [freshBranch buffer name]).map Branch.name).Nodup := by
        rw [List.map_append, List.nodup_append]
        refine ⟨hn, by simp, fun x hx y hy e => ?_⟩
        rw [List.map_singleton, List.mem_singleton] at hy
        exact hfree (by rw [← show x = name from e.trans hy]; exact hx)
      obtain ⟨hbs, hnodup⟩ := ih h hn'
      refine ⟨?_, hnodup⟩
      rw [hbs, List.append_assoc]
      rfl

/-- **A new fan-out has one fresh branch for each name**, and the names differ. -/
theorem branches_of_new {buffer : Nat} {input : Channel α} {names : List String} {f : FanOut α}
    (h : FanOut.new buffer input names = .ok f) :
    f = { input, branches := names.map (freshBranch buffer), phase := .reading } ∧
      names.Nodup := by
  unfold FanOut.new at h
  cases hr : names.foldlM (Branch.register buffer) ([] : List (Branch α)) with
  | error fault =>
    rw [hr] at h
    cases h
  | ok bs =>
    rw [hr] at h
    cases h
    obtain ⟨rfl, hnodup⟩ := branches_of_register hr List.nodup_nil
    refine ⟨rfl, ?_⟩
    rw [List.nil_append, List.map_map] at hnodup
    have hid : (Branch.name ∘ freshBranch (α := α) buffer) = id := rfl
    rw [hid, List.map_id] at hnodup
    exact hnodup

/-! ## 3. Steps on a lane -/

/-- The item that is received from a branch with a move. -/
def taken? (f : FanOut α) (i : Nat) : Move α → Option α
  | .receive j =>
    if j = i then
      (f.branches[i]?).bind fun b =>
        match b.output.poll with
        | .item a _ => some a
        | _ => none
    else none
  | _ => none

/-- The item that the world sends with a move. -/
def sent? : Move α → Option α
  | .send a => some a
  | _ => none

/-- **What a step looks like from one branch**: the branch is still there, and its lane undergoes
one of the effects of lanes. -/
theorem lane_of_step {f g : FanOut α} {move : Move α} {es : List Event} {i : Nat} {l : Lane α}
    (h : f.step move = some (g, es)) (hl : f.lane i = some l) :
    ∃ l', g.lane i = some l' ∧ l.Effect l' (sent? move).toList (f.taken? i move).toList := by
  obtain ⟨hi, hp, hb⟩ := lane_eq_some_iff.mp hl
  cases move with
  | read =>
    obtain ⟨f', hr, e⟩ := Option.map_eq_some_iff.mp h
    cases e
    obtain ⟨l', hl', hrel⟩ := relay_of_read hr hl
    exact ⟨l', hl', .relay l' hrel⟩
  | offer j =>
    obtain ⟨f', ho, e⟩ := Option.map_eq_some_iff.mp h
    cases e
    obtain ⟨l', hl', hrel⟩ := relay_of_offer ho hl
    exact ⟨l', hl', .relay l' hrel⟩
  | settle =>
    obtain ⟨l', hl', hrel⟩ := relay_of_settle h hl
    exact ⟨l', hl', .relay l' hrel⟩
  | send a =>
    cases effect_of_step h with
    | send _ c hs ho =>
      refine ⟨{ l with input := c }, lane_eq_some_iff.mpr ⟨rfl, hp, hb⟩, ?_⟩
      rw [hi] at hs ho
      exact .send a c hs ho
  | close =>
    cases h
    refine ⟨{ l with input := l.input.closeSender }, lane_eq_some_iff.mpr ⟨?_, hp, hb⟩, .close⟩
    rw [hi]
  | receive j =>
    cases effect_of_step h with
    | receive _ b a c hj ho =>
      by_cases hij : j = i
      · rw [hij] at hj ⊢
        have hbl : b = l.branch := Option.some.inj (hj.symm.trans hb)
        have htaken : f.taken? i (.receive i) = some a := by
          simp only [taken?, if_pos, hj, Option.bind_some, ho]
        rw [htaken]
        exact ⟨_, lane_modify_self hl _, .receive a c (hbl ▸ ho)⟩
      · have htaken : f.taken? i (.receive j) = none := if_neg hij
        rw [htaken]
        exact ⟨l, (lane_modify_of_ne f hij _).trans hl, .relay l .elsewhere⟩
  | drop j =>
    cases h
    by_cases hij : j = i
    · rw [hij]
      exact ⟨_, lane_modify_self hl _, .drop⟩
    · exact ⟨l, (lane_modify_of_ne f hij _).trans hl, .relay l .elsewhere⟩

end FanOut

end Vitals
