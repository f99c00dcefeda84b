import Vitals.Proofs.Subscribers.Step

/-!
# What a subscriber sees of the registry

Of everything that happens to a registry, a subscriber sees what happens to its channel: an item of
a broadcast comes in, an item is received, or one of the ends goes away. This file fixes

* `Channel.Fades`, what is left of a channel when one of its ends may have gone away;
* `Registry.Fate`, what becomes of an item when a broadcast is through with a subscriber, with
  `served?`, and `taken?`, what the subscriber receives;
* `Passes`, everything that a step can do to the channel of a subscriber, with
  `passes_of_effect`.
-/

namespace Vitals

/-! ## 1. Channels that lose an end -/

namespace Channel

variable {α : Type}

/-- A channel when one of its ends, or none, has gone away. -/
def Fades (c c' : Channel α) : Prop :=
  c'.capacity = c.capacity ∧
    (c'.items = c.items ∧ c'.receiverAlive = c.receiverAlive ∨
      c'.items = [] ∧ c'.receiverAlive = false)

theorem Fades.refl (c : Channel α) : c.Fades c :=
  ⟨rfl, .inl ⟨rfl, rfl⟩⟩

theorem fades_closeSender (c : Channel α) : c.Fades c.closeSender :=
  ⟨rfl, .inl ⟨rfl, rfl⟩⟩

theorem fades_dropReceiver (c : Channel α) : c.Fades c.dropReceiver :=
  ⟨rfl, .inr ⟨rfl, rfl⟩⟩

theorem Fades.trans {a b c : Channel α} (h : a.Fades b) (h' : b.Fades c) : a.Fades c := by
  refine ⟨h'.1.trans h.1, ?_⟩
  rcases h'.2 with ⟨hi, hr⟩ | hgone
  · rw [hi, hr]
    exact h.2
  · exact .inr hgone

theorem offer_eq_full_iff (c : Channel α) (a : α) :
    c.offer a = .full ↔ c.receiverAlive = true ∧ c.capacity ≤ c.items.length := by
  unfold offer
  split
  · rename_i hr
    split
    · simp only [reduceCtorEq, hr, true_and, false_iff]
      omega
    · simp only [hr, true_and, true_iff]
      omega
  · rename_i hr
    simp [hr]

/-- A channel with room has room when an end has gone away. -/
theorem Fades.full {c c' : Channel α} (h : c.Fades c') {a : α} (hf : c'.offer a = .full) :
    c.offer a = .full := by
  obtain ⟨hr, hlen⟩ := (offer_eq_full_iff c' a).mp hf
  rcases h.2 with ⟨hi, halive⟩ | ⟨-, hgone⟩
  · rw [offer_eq_full_iff, ← halive, ← hi, ← h.1]
    exact ⟨hr, hlen⟩
  · rw [hgone] at hr
    cases hr

end Channel

namespace Registry

variable {τ α : Type}

/-! ## 2. Channels under the moves -/

section

variable (r : Registry τ α) (id : SubscriberId)

/-- A subscriber's channel in `r'` is what is left of its channel in `r`. -/
def FadesTo (r' : Registry τ α) : Prop :=
  ∀ c', r'.channel? id = some c' → ∃ c, r.channel? id = some c ∧ c.Fades c'

variable {r}

theorem FadesTo.trans {r₁ r₂ : Registry τ α} (h : r.FadesTo id r₁) (h' : r₁.FadesTo id r₂) :
    r.FadesTo id r₂ := by
  intro c₂ hc₂
  obtain ⟨c₁, hc₁, hf'⟩ := h' c₂ hc₂
  obtain ⟨c, hc, hf⟩ := h c₁ hc₁
  exact ⟨c, hc, hf.trans hf'⟩

theorem fadesTo_of_channels {r' : Registry τ α} (h : r'.channels = r.channels) :
    r.FadesTo id r' := by
  intro c hc
  refine ⟨c, ?_, .refl c⟩
  rw [channel?, ← h]
  exact hc

theorem fadesTo_modifyChannel (i : SubscriberId) {f : Channel α → Channel α}
    (hf : ∀ c : Channel α, c.Fades (f c)) : r.FadesTo id (r.modifyChannel i f) := by
  intro c' hc'
  rw [channel?_modifyChannel] at hc'
  split at hc'
  · obtain ⟨c, hc, rfl⟩ := Option.map_eq_some_iff.mp hc'
    exact ⟨c, hc, hf c⟩
  · exact ⟨c', hc', .refl c'⟩

theorem fadesTo_unregister (ids : List SubscriberId) : r.FadesTo id (r.unregister ids) := by
  induction ids generalizing r with
  | nil => exact fadesTo_of_channels id rfl
  | cons i ids ih =>
    have hfirst : r.FadesTo id ({ r with registered := r.registered.erase i }.modifyChannel i
        Channel.closeSender) :=
      fadesTo_modifyChannel (r := { r with registered := r.registered.erase i }) id i
        Channel.fades_closeSender
    exact hfirst.trans id ih

theorem fadesTo_forget (request : Request α) : r.FadesTo id (request.forget r) := by
  cases request with
  | subscribe i =>
    exact fadesTo_modifyChannel id i fun c =>
      (Channel.fades_closeSender c).trans (Channel.fades_dropReceiver c.closeSender)
  | remove | broadcast | stopAll | count => exact fadesTo_of_channels id rfl

theorem fadesTo_forgetAll (out : List (τ × Request α)) :
    r.FadesTo id (out.foldl (fun r w => w.2.forget r) r) := by
  induction out generalizing r with
  | nil => exact fadesTo_of_channels id rfl
  | cons w out ih => exact (fadesTo_forget id w.2).trans id ih

theorem fadesTo_cancel [DecidableEq τ] (task : τ) : r.FadesTo id (r.cancel task) := by
  unfold cancel
  simp only
  split <;> exact fadesTo_forgetAll (r := { r with waiters := _ }) id _

/-- A task that gets the lock adds no channel and fills none. -/
theorem fadesTo_perform {now : Nat} {task : τ} {request : Request α} {r' : Registry τ α}
    {os : List (Outcome τ)} (h : r.perform now task request = (r', os)) : r.FadesTo id r' := by
  cases request with
  | subscribe i =>
    cases h
    split
    · exact fadesTo_modifyChannel id i Channel.fades_closeSender
    · exact fadesTo_of_channels id rfl
  | remove i =>
    unfold perform at h
    simp only at h
    split at h <;> cases h
    · exact fadesTo_unregister id [i]
    · exact fadesTo_of_channels id rfl
  | broadcast item =>
    cases h
    exact fadesTo_of_channels id rfl
  | stopAll =>
    cases h
    exact (fadesTo_unregister id r.registered).trans id (fadesTo_of_channels id rfl)
  | count =>
    cases h
    exact fadesTo_of_channels id rfl

theorem channel?_draw : r.draw.channel? id =
    if id = r.nextId then some (Channel.new r.buffer) else r.channel? id := by
  unfold channel? draw nextId
  cases id with
  | zero => simp
  | succ n =>
    show (r.channels ++ [Channel.new r.buffer])[n]? =
      if n + 1 = r.channels.length + 1 then some (Channel.new r.buffer) else r.channels[n]?
    rw [List.getElem?_append, List.getElem?_singleton]
    by_cases hlt : n < r.channels.length
    · rw [if_pos hlt, if_neg (by omega)]
    · rw [if_neg hlt, List.getElem?_eq_none (Nat.le_of_not_lt hlt)]
      by_cases hn : n = r.channels.length
      · rw [if_pos (by omega), if_pos (by omega)]
      · rw [if_neg (by omega), if_neg (by omega)]

theorem channel?_eq_none_iff {id : SubscriberId} :
    r.channel? id = none ↔ id = 0 ∨ r.nextId ≤ id := by
  unfold channel? nextId
  cases id with
  | zero => simp
  | succ n => simp

theorem channel?_nextId : r.channel? r.nextId = none :=
  channel?_eq_none_iff.mpr (.inr (Nat.le_refl _))

end

/-! ## 3. What passes through a channel -/

/-- What becomes of an item when a broadcast is through with a subscriber. -/
inductive Fate where
  | accepted
  /-- The subscriber had no room for too long. -/
  | skipped
  /-- The receiver was gone. -/
  | refused
  deriving DecidableEq

/-- The fate of an item, if a broadcast gets through with a subscriber by a move. -/
def Move.fate? : Move τ α → Channel.Offer α → Option Fate
  | .deliver, .accepted _ => some .accepted
  | .deliver, .refused => some .refused
  | .skip, .full => some .skipped
  | _, _ => none

/-- The item of the broadcast that gets through with a subscriber by a move, and its fate. -/
def served? (r : Registry τ α) (id : SubscriberId) (move : Move τ α) : Option (α × Fate) :=
  match r.holder, r.channel? id with
  | some d, some c =>
    if d.remaining.head? = some id then (move.fate? (c.offer d.item)).map fun f => (d.item, f)
    else none
  | _, _ => none

/-- The item that a subscriber receives with a move. -/
def taken? (r : Registry τ α) (id : SubscriberId) : Move τ α → Option α
  | .receive i =>
    if i = id then
      (r.channel? id).bind fun c =>
        match c.poll with
        | .item item _ => some item
        | _ => none
    else none
  | _ => none

section

variable {r : Registry τ α} {id : SubscriberId} {move : Move τ α} {d : Delivery τ α}
  {c : Channel α}

theorem served?_of_waiting (hd : r.holder = some d) (hr : d.remaining.head? = some id)
    (hc : r.channel? id = some c) :
    r.served? id move = (move.fate? (c.offer d.item)).map fun f => (d.item, f) := by
  simp only [served?, hd, hc, hr, if_true]

/-- A broadcast gets through with no subscriber but the one it waits for. -/
theorem served?_of_ne (h : ∀ d, r.holder = some d → d.remaining.head? ≠ some id) :
    r.served? id move = none := by
  unfold served?
  split
  · rename_i d c hd hc
    exact if_neg (h d hd)
  · rfl

theorem served?_of_fate (h : ∀ o, move.fate? o = none) : r.served? id move = none := by
  unfold served?
  split
  · rw [h, Option.map_none, ite_self]
  · rfl

/-- **Everything that a step can do to the channel of a subscriber**, with the item that a
broadcast is through with there, and the item that is received. -/
inductive Passes (r : Registry τ α) (id : SubscriberId) :
    Channel α → Option (α × Fate) → Option α → Prop where
  /-- The id is drawn. -/
  | drawn (h : r.channel? id = none) : Passes r id (Channel.new r.buffer) none none
  | fade (c c' : Channel α) (hc : r.channel? id = some c) (hf : c.Fades c') :
      Passes r id c' none none
  | accept (c c' : Channel α) (a : α) (hc : r.channel? id = some c)
      (ho : c.offer a = .accepted c') : Passes r id c' (some (a, .accepted)) none
  | refuse (c : Channel α) (a : α) (hc : r.channel? id = some c) (ho : c.offer a = .refused) :
      Passes r id c (some (a, .refused)) none
  | skip (c : Channel α) (a : α) (timeout : Duration) (hc : r.channel? id = some c)
      (hp : r.policy = .dropAfter timeout) (ho : c.offer a = .full) :
      Passes r id c (some (a, .skipped)) none
  | take (c c' : Channel α) (a : α) (hc : r.channel? id = some c) (hi : c.poll = .item a c') :
      Passes r id c' none (some a)

theorem Passes.of_fadesTo {r' : Registry τ α} {c' : Channel α} (h : r.FadesTo id r')
    (hc : r'.channel? id = some c') : Passes r id c' none none := by
  obtain ⟨c, hc', hf⟩ := h c' hc
  exact .fade c c' hc' hf

/-- A broadcast that waits at one subscriber is through with no other. -/
theorem served?_of_head_ne {i : SubscriberId} (hd : r.holder = some d)
    (hr : d.remaining.head? = some i) (hi : i ≠ id) : r.served? id move = none := by
  refine served?_of_ne fun e he he' => ?_
  rw [hd] at he
  cases he
  exact hi (Option.some.inj (hr.symm.trans he'))

/-- The item of a broadcast that gets through with the subscriber that it waits for. -/
theorem served?_of_through {c : Channel α} {i : SubscriberId} {fate : Fate}
    (hd : r.holder = some d) (hr : d.remaining.head? = some i) (hc : r.channel? i = some c)
    (hf : move.fate? (c.offer d.item) = some fate) :
    r.served? id move = if i = id then some (d.item, fate) else none := by
  by_cases hi : i = id
  · subst hi
    rw [served?_of_waiting hd hr hc, hf, if_pos rfl]
    rfl
  · rw [served?_of_head_ne hd hr hi, if_neg hi]

/-- **Nothing else happens to a channel.** -/
theorem passes_of_effect [DecidableEq τ] {now : Nat} {r' : Registry τ α} {os : List (Outcome τ)}
    {c' : Channel α} (he : r.Effect now move r' os) (hc' : r'.channel? id = some c') :
    Passes r id c' (r.served? id move) (r.taken? id move) := by
  cases he with
  | draw =>
    rw [served?_of_fate fun _ => rfl]
    rw [channel?_draw] at hc'
    split at hc'
    · rename_i hid
      cases hc'
      exact .drawn (hid ▸ channel?_nextId)
    · exact .fade c' c' hc' (.refl c')
  | ask task request _ h =>
    rw [served?_of_fate fun _ => rfl]
    refine .of_fadesTo (fadesTo_of_channels id ?_) hc'
    unfold ask at h
    split at h
    · split at h <;> cases h
      rfl
    · cases h
      rfl
  | grant task request waiters _ _ hh hw hp =>
    rw [served?_of_fate fun _ => rfl]
    exact .of_fadesTo (fadesTo_perform (r := { r with waiters }) id hp) hc'
  | deliver d i c c₁ hd hr hc ho =>
    have hc' : (r.modifyChannel i fun _ => c₁).channel? id = some c' := hc'
    rw [channel?_modifyChannel] at hc'
    by_cases hi : i = id
    · subst hi
      rw [if_pos rfl, hc] at hc'
      cases hc'
      rw [served?_of_waiting hd hr hc, ho]
      exact .accept c c₁ d.item hc ho
    · rw [if_neg hi] at hc'
      rw [served?_of_head_ne hd hr hi]
      exact .fade c' c' hc' (.refl c')
  | lose d i c hd hr hc ho =>
    have hc' : r.channel? id = some c' := hc'
    by_cases hi : i = id
    · subst hi
      rw [hc] at hc'
      cases hc'
      rw [served?_of_waiting hd hr hc, ho]
      exact .refuse _ d.item hc ho
    · rw [served?_of_head_ne hd hr hi]
      exact .fade c' c' hc' (.refl c')
  | skip timeout d i c hp hd hr hc ho ht =>
    have hc' : r.channel? id = some c' := hc'
    by_cases hi : i = id
    · subst hi
      rw [hc] at hc'
      cases hc'
      rw [served?_of_waiting hd hr hc, ho]
      exact .skip _ d.item timeout hc hp ho
    · rw [served?_of_head_ne hd hr hi]
      exact .fade c' c' hc' (.refl c')
  | finish d hd hr =>
    rw [served?_of_fate fun _ => rfl]
    exact .of_fadesTo ((fadesTo_unregister id d.lost).trans id (fadesTo_of_channels id rfl)) hc'
  | cancel task =>
    rw [served?_of_fate fun _ => rfl]
    exact .of_fadesTo (fadesTo_cancel id task) hc'
  | receive i c rest item hc hi =>
    rw [served?_of_fate fun _ => rfl]
    rw [channel?_modifyChannel] at hc'
    by_cases hid : i = id
    · subst hid
      rw [if_pos rfl, hc] at hc'
      cases hc'
      have htaken : r.taken? i (.receive i) = some item := by
        rw [taken?, if_pos rfl, hc, Option.bind_some, hi]
      rw [htaken]
      exact .take c _ item hc hi
    · rw [if_neg hid] at hc'
      rw [show r.taken? id (.receive i) = none from if_neg hid]
      exact .fade c' c' hc' (.refl c')
  | drop i =>
    rw [served?_of_fate fun _ => rfl]
    exact .of_fadesTo (fadesTo_modifyChannel id i Channel.fades_dropReceiver) hc'

/-- A channel that is full was full before, if no broadcast got through in between. -/
theorem Passes.full_before {c' : Channel α} {taken : Option α} (h : Passes r id c' none taken)
    {a : α} (hf : c'.offer a = .full) : ∃ c, r.channel? id = some c ∧ c.offer a = .full := by
  cases h with
  | drawn h =>
    obtain ⟨-, hlen⟩ := (Channel.offer_eq_full_iff _ a).mp hf
    simp only [Channel.new, List.length_nil] at hlen
    omega
  | fade c c' hc hfade => exact ⟨c, hc, hfade.full hf⟩
  | take c c' b hc hi =>
    refine ⟨c, hc, ?_⟩
    have hitems := Channel.items_eq_of_poll hi
    rw [Channel.eq_of_poll hi, Channel.offer_eq_full_iff] at hf
    rw [Channel.offer_eq_full_iff, hitems]
    exact ⟨hf.1, Nat.le_succ_of_le hf.2⟩

end

end Registry

end Vitals
