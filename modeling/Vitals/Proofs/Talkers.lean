import Mathlib.Data.List.Nodup
import Vitals.Talkers

/-!
# What a ranking keeps

A ranking keeps the first five talkers of each direction. This file fixes

* `Talker.Outranks` and `Talker.ties`, the order of a ranking by itself: who has more bytes comes
  first, among equals who has the smaller name, and those that agree in both are tied;
* `TopTalkers.Heaviest`, what it takes to be the top of a list of talkers: the length, who is kept
  and who is left out, the order, and which of the tied ones are kept.

Main statement: both lists of a ranking are the top of the talkers, and if no two talkers have one
name, the order that they come in makes no difference (`talkers_ranked`).
-/

namespace Vitals

/-! ## 1. The order -/

namespace Talker

/-- Whether `a` comes strictly before `b` in the ranking by `bytes`. -/
def Outranks (bytes : Talker → UInt64) (a b : Talker) : Prop :=
  bytes b < bytes a ∨ bytes a = bytes b ∧ a.nameBytes < b.nameBytes

/-- Whether the ranking by `bytes` does not tell two talkers apart. -/
def ties (bytes : Talker → UInt64) (a b : Talker) : Bool :=
  bytes a == bytes b && a.name == b.name

section

variable {bytes : Talker → UInt64} {a b : Talker}

theorem nameBytes_inj (h : a.nameBytes = b.nameBytes) : a.name = b.name :=
  String.toByteArray_inj.mp (ByteArray.ext (Array.toList_inj.mp h))

theorem ties_iff : ties bytes a b = true ↔ bytes a = bytes b ∧ a.name = b.name := by
  simp [ties]

theorem before_iff :
    before bytes a b = true ↔
      bytes b < bytes a ∨ bytes a = bytes b ∧ a.nameBytes ≤ b.nameBytes := by
  simp [before]

/-- A talker may stand in front of those that it outranks, and of those that it is tied with. -/
theorem before_iff_outranks :
    before bytes a b = true ↔ Outranks bytes a b ∨ ties bytes a b = true := by
  rw [before_iff, ties_iff, Outranks, or_assoc, ← and_or_left, List.le_iff_lt_or_eq]
  refine or_congr_right (and_congr_right fun _ => or_congr_right ?_)
  exact ⟨nameBytes_inj, fun h => by rw [nameBytes, nameBytes, h]⟩

/-- It may not stand in front of one that outranks it. -/
theorem not_outranks_of_before (h : before bytes a b = true) : ¬Outranks bytes b a := by
  rintro (hlt | ⟨heq, hname⟩)
  all_goals rcases before_iff.mp h with hlt' | ⟨heq', hname'⟩
  · exact UInt64.lt_asymm hlt hlt'
  · exact UInt64.lt_irrefl _ (heq' ▸ hlt)
  · exact UInt64.lt_irrefl _ (heq ▸ hlt')
  · exact hname' hname

theorem before_total (a b : Talker) : (before bytes a b || before bytes b a) = true := by
  rw [Bool.or_eq_true, before_iff, before_iff]
  rcases UInt64.le_total (bytes a) (bytes b) with h | h
  all_goals rcases UInt64.lt_or_eq_of_le h with hlt | heq
  · exact .inr (.inl hlt)
  · exact (List.le_total a.nameBytes b.nameBytes).imp (.inr ⟨heq, ·⟩) (.inr ⟨heq.symm, ·⟩)
  · exact .inl (.inl hlt)
  · exact (List.le_total a.nameBytes b.nameBytes).imp (.inr ⟨heq.symm, ·⟩) (.inr ⟨heq, ·⟩)

theorem before_trans (a b c : Talker) (hab : before bytes a b = true)
    (hbc : before bytes b c = true) : before bytes a c = true := by
  rw [before_iff] at *
  rcases hab with hab | ⟨hab, hname⟩ <;> rcases hbc with hbc | ⟨hbc, hname'⟩
  · exact .inl (UInt64.lt_trans hbc hab)
  · exact .inl (hbc ▸ hab)
  · exact .inl (hab ▸ hbc)
  · exact .inr ⟨hab.trans hbc, List.le_trans hname hname'⟩

/-- Two talkers that may stand in front of each other have one name. -/
theorem name_eq_of_before (hab : before bytes a b = true) (hba : before bytes b a = true) :
    a.name = b.name := by
  rcases before_iff_outranks.mp hab with h | h
  · exact absurd h (not_outranks_of_before hba)
  · exact (ties_iff.mp h).2

/-- Talkers that are tied with the same one may stand in any order. -/
theorem before_of_ties {t : Talker} (ha : ties bytes t a = true) (hb : ties bytes t b = true) :
    before bytes a b = true := by
  obtain ⟨hbytes, hname⟩ := ties_iff.mp ha
  obtain ⟨hbytes', hname'⟩ := ties_iff.mp hb
  exact before_iff_outranks.mpr
    (.inr (ties_iff.mpr ⟨hbytes.symm.trans hbytes', hname.symm.trans hname'⟩))

end

end Talker

/-! ## 2. The top of a list -/

namespace TopTalkers

open Talker

/-- **`kept` is the top of the talkers `ts` by `bytes`.** -/
structure Heaviest (bytes : Talker → UInt64) (ts kept : List Talker) : Prop where
  length : kept.length = min 5 ts.length
  /-- Everyone is kept or left out, and no one who is left out outranks one who is kept. -/
  parts : ∃ left, (kept ++ left).Perm ts ∧ ∀ l ∈ left, ∀ k ∈ kept, ¬Outranks bytes l k
  ordered : kept.Pairwise fun a b => Outranks bytes a b ∨ ties bytes a b = true
  /-- Of those that are tied the first ones are kept, in the order they came in. -/
  stable : ∀ t, kept.filter (ties bytes t) <+: ts.filter (ties bytes t)

section

variable (bytes : Talker → UInt64) (ts : List Talker)

theorem pairwise_sorted :
    (ts.mergeSort (before bytes)).Pairwise fun a b => before bytes a b = true :=
  List.pairwise_mergeSort before_trans before_total ts

/-- Sorting leaves those that are tied in their order. -/
theorem filter_sorted (t : Talker) :
    (ts.mergeSort (before bytes)).filter (ties bytes t) = ts.filter (ties bytes t) := by
  have hpairwise : (ts.filter (ties bytes t)).Pairwise fun a b => before bytes a b = true :=
    List.pairwise_of_forall_mem_list fun a ha b hb =>
      before_of_ties (List.mem_filter.mp ha).2 (List.mem_filter.mp hb).2
  -- what is in order already is found again in that order
  have hsub : (ts.filter (ties bytes t)).Sublist (ts.mergeSort (before bytes)) :=
    List.sublist_mergeSort before_trans before_total hpairwise List.filter_sublist
  have hsub' := hsub.filter (ties bytes t)
  simp only [List.filter_filter, Bool.and_self] at hsub'
  have hlength := ((List.mergeSort_perm ts (before bytes)).filter (ties bytes t)).length_eq
  exact (hsub'.eq_of_length hlength.symm).symm

/-- **The first five in order are the top.** -/
theorem heaviest_spec : Heaviest bytes ts (heaviest bytes ts) where
  length := length_heaviest bytes ts
  parts := by
    refine ⟨(ts.mergeSort (before bytes)).drop limit, ?_, fun l hl k hk => ?_⟩
    · rw [heaviest, List.take_append_drop]
      exact List.mergeSort_perm ts (before bytes)
    · have h := pairwise_sorted bytes ts
      rw [← List.take_append_drop limit (ts.mergeSort _), List.pairwise_append] at h
      exact not_outranks_of_before (h.2.2 k hk l hl)
  ordered := ((pairwise_sorted bytes ts).sublist (List.take_sublist _ _)).imp
    before_iff_outranks.mp
  stable t := by
    rw [← filter_sorted bytes ts]
    exact (List.take_prefix limit _).filter (ties bytes t)

variable {ts}

/-- Talkers with names of their own have one order only. -/
theorem heaviest_perm {us : List Talker} (hname : (ts.map Talker.name).Nodup) (h : us.Perm ts) :
    heaviest bytes us = heaviest bytes ts := by
  have hperm : (us.mergeSort (before bytes)).Perm (ts.mergeSort (before bytes)) :=
    (List.mergeSort_perm us _).trans (h.trans (List.mergeSort_perm ts _).symm)
  rw [heaviest, heaviest]
  refine congrArg (List.take limit) (hperm.eq_of_pairwise ?_ (pairwise_sorted bytes us)
    (pairwise_sorted bytes ts))
  intro a b ha hb hab hba
  have ha : a ∈ ts := h.mem_iff.mp (List.mem_mergeSort.mp ha)
  exact List.inj_on_of_nodup_map hname ha (List.mem_mergeSort.mp hb) (name_eq_of_before hab hba)

end

/-- **Talkers are ranked.** Of any talkers each list of the ranking holds the top by the bytes of
its direction, and if no two talkers have one name, the ranking is the same in whatever order they
come. -/
theorem talkers_ranked (ts : List Talker) :
    Heaviest (·.bytesIn) ts (rank ts).byBytesIn ∧ Heaviest (·.bytesOut) ts (rank ts).byBytesOut ∧
      ((ts.map Talker.name).Nodup → ∀ us : List Talker, us.Perm ts → rank us = rank ts) := by
  refine ⟨heaviest_spec _ ts, heaviest_spec _ ts, fun hname us h => ?_⟩
  rw [rank, rank, heaviest_perm _ hname h, heaviest_perm _ hname h]

/-- Six interfaces that have received the same. -/
def rivals : List Talker :=
  [⟨"wlan0", 9, 7⟩, ⟨"usb0", 9, 2⟩, ⟨"tun0", 9, 3⟩, ⟨"lo", 9, 0⟩, ⟨"eth1", 9, 1⟩, ⟨"eth0", 9, 4⟩]

/-- The one that is left out is left out from either end. -/
theorem talkers_ranked_tied :
    (rivals.map Talker.name).Nodup ∧ rivals.reverse.Perm rivals ∧
      (rank rivals.reverse).byBytesIn.length = 5 ∧ rank rivals.reverse = rank rivals := by
  have hname : (rivals.map Talker.name).Nodup := by decide
  have hperm : rivals.reverse.Perm rivals := List.reverse_perm rivals
  exact ⟨hname, hperm, (talkers_ranked rivals.reverse).1.length,
    (talkers_ranked rivals).2.2 hname rivals.reverse hperm⟩

end TopTalkers

end Vitals
