import Vitals.FanOut

/-!
# The way of items to one branch

Seen from one branch, a fan-out is a row of places: the input, the item under way, and the buffer
of the branch. This file fixes

* `FanOut.Lane`, this view, with `Lane.Relay`, what the fan-out itself does to it, and
  `Lane.Effect`, everything that can happen to it, with what is sent into the input and what is
  taken out of the branch; what happens to other branches does not show;
* `Lane.Carries`, the invariant: as long as the branch has a receiver, what was sent is what was
  taken, what is buffered, the item the fan-out still owes to the branch, and what waits in the
  input, in this order.

Main statements: every effect keeps the invariant (`carries_of_effect`), and a branch that has
ended while its receiver stayed has been given everything (`Carries.eq_of_ended`).
-/

namespace Vitals

/-! ## 1. Lanes -/

/-- A fan-out as one of its branches sees it. -/
structure FanOut.Lane (α : Type) where
  input : Channel α
  phase : FanOut.Phase α
  branch : Branch α

namespace FanOut

variable {α : Type}

/-- The lane of a branch. -/
def lane (f : FanOut α) (i : Nat) : Option (Lane α) :=
  (f.branches[i]?).map fun branch => ⟨f.input, f.phase, branch⟩

theorem lane_eq_some_iff {f : FanOut α} {i : Nat} {l : Lane α} : f.lane i = some l ↔
    f.input = l.input ∧ f.phase = l.phase ∧ f.branches[i]? = some l.branch := by
  unfold lane
  rw [Option.map_eq_some_iff]
  constructor
  · rintro ⟨b, hb, rfl⟩
    exact ⟨rfl, rfl, hb⟩
  · rintro ⟨hi, hp, hb⟩
    exact ⟨l.branch, hb, by rw [hi, hp]⟩

/-- A change of one branch shows on its own lane. -/
theorem lane_modify_self {f : FanOut α} {i : Nat} {l : Lane α} (h : f.lane i = some l)
    (u : Branch α → Branch α) : (f.modify i u).lane i = some { l with branch := u l.branch } := by
  obtain ⟨hi, hp, hb⟩ := lane_eq_some_iff.mp h
  rw [lane_eq_some_iff, FanOut.modify, List.getElem?_modify_eq, hb]
  exact ⟨hi, hp, rfl⟩

theorem lane_modify_of_ne (f : FanOut α) {i j : Nat} (h : j ≠ i) (u : Branch α → Branch α) :
    (f.modify j u).lane i = f.lane i := by
  simp only [lane, FanOut.modify, List.getElem?_modify_ne _ _ h]

/-- What the fan-out itself can do to a lane. -/
inductive Lane.Relay (l : Lane α) : Lane α → Prop where
  /-- It does something to another branch. -/
  | elsewhere : Relay l l
  | read (a : α) (rest : Channel α) (hp : l.phase = .reading) (hi : l.input.poll = .item a rest) :
      Relay l ⟨rest, .sending a, l.branch.begin⟩
  /-- The input has ended. -/
  | finish (hp : l.phase = .reading) (hi : l.input.poll = .ended) :
      Relay l { l with phase := .finished, branch := l.branch.close }
  | answer (a : α) (b : Branch α) (hp : l.phase = .sending a) (hb : l.branch.answer a = some b) :
      Relay l { l with branch := b }
  | settle (a : α) (hp : l.phase = .sending a) (hb : l.branch.standing ≠ .offered) :
      Relay l { l with phase := .reading, branch := l.branch.conclude }

/-- **Everything that can happen to a lane**, with what it sends and what it takes. -/
inductive Lane.Effect (l : Lane α) : Lane α → List α → List α → Prop where
  | relay (l' : Lane α) (h : l.Relay l') : Effect l l' [] []
  | send (a : α) (c : Channel α) (hs : l.input.senderAlive = true)
      (ho : l.input.offer a = .accepted c) : Effect l { l with input := c } [a] []
  | close : Effect l { l with input := l.input.closeSender } [] []
  | receive (a : α) (c : Channel α) (ho : l.branch.output.poll = .item a c) :
      Effect l { l with branch := { l.branch with output := c } } [] [a]
  | drop : Effect l { l with branch := { l.branch with output := l.branch.output.dropReceiver } }
      [] []

section

variable {f g : FanOut α} {i : Nat} {l : Lane α}

theorem relay_of_read (h : f.read = some g) (hl : f.lane i = some l) :
    ∃ l', g.lane i = some l' ∧ l.Relay l' := by
  obtain ⟨hi, hp, hb⟩ := lane_eq_some_iff.mp hl
  unfold FanOut.read at h
  split at h
  · rename_i hph
    split at h
    · rename_i a rest hpoll
      cases h
      refine ⟨⟨rest, .sending a, l.branch.begin⟩, ?_, .read a rest (hp ▸ hph) (hi ▸ hpoll)⟩
      rw [lane_eq_some_iff, List.getElem?_map, hb]
      exact ⟨rfl, rfl, rfl⟩
    · cases h
    · rename_i hpoll
      cases h
      refine ⟨_, ?_, .finish (hp ▸ hph) (hi ▸ hpoll)⟩
      rw [lane_eq_some_iff, List.getElem?_map, hb]
      exact ⟨hi, rfl, rfl⟩
  · cases h

theorem relay_of_offer {j : Nat} (h : f.offer j = some g) (hl : f.lane i = some l) :
    ∃ l', g.lane i = some l' ∧ l.Relay l' := by
  obtain ⟨hi, hp, hb⟩ := lane_eq_some_iff.mp hl
  unfold FanOut.offer at h
  split at h
  · rename_i a hph
    simp only [Option.bind_eq_bind, Option.bind_eq_some_iff, Option.pure_def] at h
    obtain ⟨b, hj, b', ha, e⟩ := h
    cases e
    by_cases hij : j = i
    · rw [hij, hb] at hj
      cases hj
      refine ⟨{ l with branch := b' }, ?_, .answer a b' (hp ▸ hph) ha⟩
      have hlt : i < f.branches.length := (List.getElem?_eq_some_iff.mp hb).1
      rw [lane_eq_some_iff, hij, List.getElem?_set_self hlt]
      exact ⟨hi, hp, rfl⟩
    · refine ⟨l, ?_, .elsewhere⟩
      rw [lane_eq_some_iff, List.getElem?_set_ne hij]
      exact ⟨hi, hp, hb⟩
  · cases h

theorem relay_of_settle {es : List Event} (h : f.settle = some (g, es))
    (hl : f.lane i = some l) : ∃ l', g.lane i = some l' ∧ l.Relay l' := by
  obtain ⟨hi, hp, hb⟩ := lane_eq_some_iff.mp hl
  unfold FanOut.settle at h
  split at h
  · rename_i a hph
    split at h
    · cases h
    · rename_i hopen
      cases h
      have hstand : l.branch.standing ≠ .offered := by
        intro e
        refine hopen (List.any_eq_true.mpr ⟨l.branch, List.mem_of_getElem? hb, ?_⟩)
        rw [Branch.isOpen, e]
        rfl
      refine ⟨_, ?_, .settle a (hp ▸ hph) hstand⟩
      rw [lane_eq_some_iff, List.getElem?_map, hb]
      exact ⟨hi, rfl, rfl⟩
  · cases h

end

end FanOut

namespace FanOut.Lane

variable {α : Type} {l l' : Lane α}

/-- The fan-out leaves the sender of its input alone. -/
theorem Relay.senderAlive_input (h : l.Relay l') :
    l'.input.senderAlive = l.input.senderAlive := by
  cases h with
  | read a rest hp hi =>
    show rest.senderAlive = l.input.senderAlive
    rw [Channel.eq_of_poll hi]
  | elsewhere | finish | answer | settle => rfl

/-- The fan-out leaves the receivers of its branches alone. -/
theorem Relay.receiverAlive_branch (h : l.Relay l') :
    l'.branch.output.receiverAlive = l.branch.output.receiverAlive := by
  cases h with
  | elsewhere | finish => rfl
  | read a rest hp hi =>
    unfold Branch.begin
    split <;> rfl
  | answer a b hp hb =>
    unfold Branch.answer at hb
    split at hb
    · split at hb
      · rename_i c ho
        cases hb
        show c.receiverAlive = l.branch.output.receiverAlive
        rw [(Channel.eq_of_offer ho).2]
      · cases hb
      · cases hb
        rfl
    · cases hb
  | settle a hp hb =>
    unfold Branch.conclude
    split <;> rfl

end FanOut.Lane

/-! ## 2. The invariant -/

/-- The item that the fan-out still owes to a branch. -/
def Branch.owed {α : Type} (b : Branch α) : FanOut.Phase α → List α
  | .sending a => if b.standing = .offered then [a] else []
  | _ => []

section

variable {α : Type} (b : Branch α)

@[simp] theorem Branch.owed_reading : b.owed .reading = [] := rfl

@[simp] theorem Branch.owed_finished : b.owed .finished = [] := rfl

theorem Branch.owed_of_eq {b : Branch α} (h : b.standing = .offered) (a : α) :
    b.owed (.sending a) = [a] :=
  if_pos h

theorem Branch.owed_of_ne {b : Branch α} (h : b.standing ≠ .offered) (a : α) :
    b.owed (.sending a) = [] :=
  if_neg h

theorem Branch.length_owed_le (phase : FanOut.Phase α) : (b.owed phase).length ≤ 1 := by
  unfold Branch.owed
  split
  · split <;> simp
  · exact Nat.zero_le 1

/-- Beginning an item does not touch the buffer. -/
theorem Branch.output_begin : b.begin.output = b.output := by
  unfold Branch.begin
  split <;> rfl

theorem Branch.begin_of_ready {b : Branch α} (h : b.standing = .ready) :
    b.begin = { b with standing := .offered } :=
  if_neg (by rw [h]; exact fun e => by cases e)

end

namespace FanOut.Lane

variable {α : Type}

/-- **Where what was sent into a lane is**, and what the places of the lane know of each other. -/
structure Carries (l : Lane α) (sent taken : List α) : Prop where
  line : l.branch.output.receiverAlive = true →
    sent = taken ++ l.branch.output.items ++ l.branch.owed l.phase ++ l.input.items
  inOrder : taken <+: sent
  idle : l.phase = .reading → l.branch.standing = .ready ∨ l.branch.standing = .removed
  /-- Only a branch without receiver refuses an item or is removed. -/
  present : l.branch.output.receiverAlive = true →
    l.branch.standing ≠ .refused ∧ l.branch.standing ≠ .removed
  gone : l.branch.output.receiverAlive = false → l.branch.output.items = []
  /-- A branch with a receiver is closed only at the end. -/
  sealed : l.branch.output.receiverAlive = true → l.branch.output.senderAlive = false →
    l.phase = .finished
  ended : l.phase = .finished → l.input.items = [] ∧ l.input.senderAlive = false

section

variable {l l' : Lane α} {sent taken s t : List α}

theorem Carries.ready (h : l.Carries sent taken) (hp : l.phase = .reading)
    (hr : l.branch.output.receiverAlive = true) : l.branch.standing = .ready := by
  rcases h.idle hp with he | he
  · exact he
  · exact absurd he (h.present hr).2

theorem Carries.answer {a : α} {b : Branch α} (h : l.Carries sent taken)
    (hp : l.phase = .sending a) (hb : l.branch.answer a = some b) :
    { l with branch := b }.Carries sent taken := by
  unfold Branch.answer at hb
  split at hb
  · rename_i hoffered
    split at hb
    · rename_i c ho
      obtain ⟨hr, rfl⟩ := Channel.eq_of_offer ho
      cases hb
      refine ⟨fun _ => ?_, h.inOrder, fun e => ?_, fun _ => ?_, fun hg => ?_, h.sealed, h.ended⟩
      · have hline := h.line hr
        rw [hp, Branch.owed_of_eq hoffered] at hline
        rw [hline, hp, Branch.owed_of_ne (by simp)]
        simp only [List.append_assoc, List.append_nil]
      · rw [hp] at e
        cases e
      · exact ⟨nofun, nofun⟩
      · rw [hr] at hg
        cases hg
    · cases hb
    · rename_i ho
      have hgone := (Channel.offer_eq_refused_iff _ _).mp ho
      cases hb
      refine ⟨fun hr => ?_, h.inOrder, fun e => ?_, fun hr => ?_, h.gone, h.sealed, h.ended⟩
      · rw [hgone] at hr
        cases hr
      · rw [hp] at e
        cases e
      · rw [hgone] at hr
        cases hr
  · cases hb

theorem Carries.settle {a : α} (h : l.Carries sent taken) (hp : l.phase = .sending a)
    (hb : l.branch.standing ≠ .offered) :
    { l with phase := .reading, branch := l.branch.conclude }.Carries sent taken := by
  have hline : l.branch.output.receiverAlive = true →
      sent = taken ++ l.branch.output.items ++ [] ++ l.input.items := by
    intro hr
    rw [h.line hr, hp, Branch.owed_of_ne hb]
  have hsealed : l.branch.output.receiverAlive = true → l.branch.output.senderAlive ≠ false := by
    intro hr hs
    have hfin := h.sealed hr hs
    rw [hp] at hfin
    cases hfin
  unfold Branch.conclude
  split
  · rename_i hst
    exact ⟨hline, h.inOrder, fun _ => .inr hst, h.present, h.gone,
      fun hr hs => absurd hs (hsealed hr), nofun⟩
  · rename_i hst
    exact ⟨fun hr => absurd hst (h.present hr).1, h.inOrder, fun _ => .inr rfl,
      fun hr => absurd hst (h.present hr).1, h.gone, fun hr => absurd hst (h.present hr).1, nofun⟩
  · exact ⟨hline, h.inOrder, fun _ => .inl rfl, fun _ => ⟨nofun, nofun⟩, h.gone,
      fun hr hs => absurd hs (hsealed hr), nofun⟩

/-- What the fan-out does keeps the invariant. -/
theorem carries_of_relay (h : l.Carries sent taken) (hr : l.Relay l') : l'.Carries sent taken := by
  cases hr with
  | elsewhere => exact h
  | read a rest hp hi =>
    have hitems := Channel.items_eq_of_poll hi
    have hout := Branch.output_begin l.branch
    refine ⟨fun hr => ?_, h.inOrder, nofun, fun hr => ?_, fun hr => ?_, fun hr hs => ?_, nofun⟩
    · rw [hout] at hr
      have hline := h.line hr
      rw [hp, Branch.owed_reading, List.append_nil, hitems] at hline
      rw [hline, Branch.begin_of_ready (h.ready hp hr), Branch.owed_of_eq rfl]
      simp only [List.append_assoc, List.singleton_append]
    · rw [hout] at hr
      rw [Branch.begin_of_ready (h.ready hp hr)]
      exact ⟨nofun, nofun⟩
    · rw [hout] at hr ⊢
      exact h.gone hr
    · rw [hout] at hr hs
      have hfin := h.sealed hr hs
      rw [hp] at hfin
      cases hfin
  | finish hp hi =>
    rw [Channel.poll_eq_ended_iff] at hi
    refine ⟨fun hr => ?_, h.inOrder, nofun, h.present, h.gone, fun _ _ => rfl, fun _ => hi⟩
    have hline := h.line hr
    rw [hp] at hline
    exact hline
  | answer a b hp hb => exact h.answer hp hb
  | settle a hp hb => exact h.settle hp hb

/-- **Every effect keeps the invariant.** -/
theorem carries_of_effect (h : l.Carries sent taken) (he : l.Effect l' s t) :
    l'.Carries (sent ++ s) (taken ++ t) := by
  cases he with
  | relay _ hr =>
    rw [List.append_nil, List.append_nil]
    exact carries_of_relay h hr
  | send a c hs ho =>
    obtain ⟨-, rfl⟩ := Channel.eq_of_offer ho
    rw [List.append_nil]
    refine ⟨fun hr => ?_, h.inOrder.trans (List.prefix_append _ _), h.idle, h.present, h.gone,
      h.sealed, fun hp => ?_⟩
    · rw [h.line hr]
      simp only [List.append_assoc]
    · rw [(h.ended hp).2] at hs
      cases hs
  | close =>
    rw [List.append_nil, List.append_nil]
    exact ⟨h.line, h.inOrder, h.idle, h.present, h.gone, h.sealed, fun hp => ⟨(h.ended hp).1, rfl⟩⟩
  | receive a c ho =>
    have hitems := Channel.items_eq_of_poll ho
    have hc := Channel.eq_of_poll ho
    have hr : l.branch.output.receiverAlive = true := by
      cases hr : l.branch.output.receiverAlive with
      | true => rfl
      | false =>
        rw [h.gone hr] at hitems
        cases hitems
    have hline := h.line hr
    rw [hitems] at hline
    have hsent : sent = (taken ++ [a]) ++ c.items ++ l.branch.owed l.phase ++ l.input.items := by
      rw [hline]
      simp only [List.append_assoc, List.singleton_append]
    rw [List.append_nil]
    have hc' : c.receiverAlive = l.branch.output.receiverAlive := by rw [hc]
    have hs' : c.senderAlive = l.branch.output.senderAlive := by rw [hc]
    refine ⟨fun _ => hsent, ?_, h.idle, fun _ => h.present hr, fun hg => ?_, fun _ hs => ?_,
      h.ended⟩
    · rw [hsent, List.append_assoc, List.append_assoc]
      exact List.prefix_append _ _
    · rw [hc', hr] at hg
      cases hg
    · exact h.sealed hr (hs' ▸ hs)
  | drop =>
    rw [List.append_nil, List.append_nil]
    exact ⟨nofun, h.inOrder, h.idle, nofun, fun _ => rfl, nofun, h.ended⟩

/-- A branch whose channel is closed was given everything: what it has not taken is buffered. -/
theorem Carries.eq_of_closed (h : l.Carries sent taken)
    (hr : l.branch.output.receiverAlive = true) (hs : l.branch.output.senderAlive = false) :
    sent = taken ++ l.branch.output.items ∧ l.input.senderAlive = false := by
  have hfin := h.sealed hr hs
  obtain ⟨hempty, hclosed⟩ := h.ended hfin
  have hline := h.line hr
  rw [hfin, Branch.owed_finished, hempty, List.append_nil, List.append_nil] at hline
  exact ⟨hline, hclosed⟩

/-- **A branch that finds its channel at an end has taken everything**, and no more is sent. -/
theorem Carries.eq_of_ended (h : l.Carries sent taken)
    (hr : l.branch.output.receiverAlive = true) (he : l.branch.output.poll = .ended) :
    taken = sent ∧ l.input.senderAlive = false := by
  obtain ⟨hitems, hsender⟩ := (Channel.poll_eq_ended_iff _).mp he
  obtain ⟨hall, hclosed⟩ := h.eq_of_closed hr hsender
  rw [hitems, List.append_nil] at hall
  exact ⟨hall.symm, hclosed⟩

/-- A lane that nothing was sent into. -/
theorem carries_fresh (capacity buffer : Nat) (name : String) :
    Carries (⟨Channel.new capacity, .reading, { name, output := Channel.new buffer }⟩ : Lane α)
      [] [] where
  line _ := rfl
  inOrder := List.prefix_refl _
  idle _ := .inl rfl
  present _ := ⟨nofun, nofun⟩
  gone _ := rfl
  sealed := nofun
  ended := nofun

end

end FanOut.Lane

end Vitals
