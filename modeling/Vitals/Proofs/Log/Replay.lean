import Vitals.Proofs.Log.Volume

/-!
# Reading a log back

A reader of the log has the files of its directory and their names. This file proves that this is
enough: as long as the clock moves forward and nothing fails, the files put in the order of their
creation hold the lines of all records in the order in which they were saved
(`replay_carryOut`), no matter where files were put aside and where a new log took over.

It fixes

* `Deed` and `carryOut`, what is done to a log and what comes of it;
* `Disk.replay`, what a reader makes of the directory;
* `Ordered`, the invariant: the volumes stand in the order of their creation.
-/

namespace Vitals.Log

/-! ## 1. What is done to a log, and what is read -/

/-- What is done to a log. -/
inductive Deed where
  | save (record : List UInt8) (time : Moment)
  /-- A new log takes over the directory. -/
  | restart (maxSize : Nat)
  deriving DecidableEq, Repr

namespace Deed

def record? : Deed → Option (List UInt8)
  | save record _ => some record
  | restart _ => none

def time? : Deed → Option Moment
  | save _ time => some time
  | restart _ => none

/-- The records that are saved, in order. -/
def records (deeds : List Deed) : List (List UInt8) :=
  deeds.filterMap record?

/-- The times of the saves, in order. -/
def times (deeds : List Deed) : List Moment :=
  deeds.filterMap time?

end Deed

/-- What deeds lead to: what the saves answered, and the log and the disk after them. -/
structure Aftermath where
  answers : List (Except Fault Unit)
  log : RotatingLog
  disk : Disk

/-- Does one deed after another. -/
def RotatingLog.carryOut (log : RotatingLog) (disk : Disk) : List Deed → Aftermath
  | [] => ⟨[], log, disk⟩
  | .save record time :: deeds =>
    let (answer, log, disk) := log.save record time disk
    let rest := carryOut log disk deeds
    { rest with answers := answer :: rest.answers }
  | .restart maxSize :: deeds => carryOut (.new log.dir maxSize) disk deeds

theorem RotatingLog.carryOut_save {log log' : RotatingLog} {disk disk' : Disk}
    {record : List UInt8} {time : Moment} {answer : Except Fault Unit}
    (h : log.save record time disk = (answer, log', disk')) (deeds : List Deed) :
    log.carryOut disk (.save record time :: deeds) =
      { log'.carryOut disk' deeds with
        answers := answer :: (log'.carryOut disk' deeds).answers } := by
  rw [carryOut, h]

/-- The time of creation that a file's name tells. -/
def createdOf (file : String × List UInt8) : Option Nat :=
  FileName.createdAt? file.1.toList

/-- The contents of the files of a directory, one behind the other in the order of their
creation. -/
def Disk.replay (d : Disk) (dir : Place) : List UInt8 :=
  ((d.filesIn dir).mergeSort fun f g =>
    decide ((createdOf f).getD 0 ≤ (createdOf g).getD 0)).flatMap Prod.snd

/-! ## 2. Volumes in order -/

/-- **Volumes in the order of their creation** that hold given records, all begun before an
instant from which on time goes on. -/
structure Ordered (volumes : List Volume) (records : List (List UInt8)) (next : Nat) : Prop where
  order : volumes.Pairwise fun v w => v.created < w.created
  past : ∀ v ∈ volumes, v.created < next
  small : ∀ v ∈ volumes, v.created < Unsigned.bound128
  holds : volumes.flatMap Volume.records = records

section

variable {volumes closed closed' : List Volume} {current : Option Volume} {v' : Volume}
  {records : List (List UInt8)} {record : List UInt8} {next now maxSize : Nat}

theorem ordered_nil (next : Nat) : Ordered [] [] next where
  order := .nil
  past _ h := absurd h List.not_mem_nil
  small _ h := absurd h List.not_mem_nil
  holds := rfl

/-- A volume begun now comes behind all others. -/
theorem Ordered.snoc (h : Ordered volumes records next) (hnow : next ≤ now)
    (hsmall : now < Unsigned.bound128) {v : Volume} (hv : v.created = now) :
    Ordered (volumes ++ [v]) (records ++ v.records) (now + 1) := by
  refine ⟨?_, fun w hw => ?_, fun w hw => ?_, ?_⟩
  · rw [List.pairwise_append]
    refine ⟨h.order, List.pairwise_singleton _ _, fun w hw x hx => ?_⟩
    rw [List.mem_singleton.mp hx, hv]
    exact Nat.lt_of_lt_of_le (h.past w hw) hnow
  · rcases List.mem_append.mp hw with hw | hw
    · have := h.past w hw
      omega
    · rw [List.mem_singleton.mp hw, hv]
      exact Nat.lt_succ_self now
  · rcases List.mem_append.mp hw with hw | hw
    · exact h.small w hw
    · rw [List.mem_singleton.mp hw, hv]
      exact hsmall
  · rw [List.flatMap_append, h.holds, List.flatMap_singleton]

theorem Ordered.mono (h : Ordered volumes records next) (hle : next ≤ now) :
    Ordered volumes records now where
  order := h.order
  past v hv := Nat.lt_of_lt_of_le (h.past v hv) hle
  small := h.small
  holds := h.holds

/-- The last volume may change in everything but the time of its creation. -/
theorem Ordered.replace {v w : Volume} (h : Ordered (closed ++ [v]) records next)
    (hc : w.created = v.created) :
    Ordered (closed ++ [w]) (closed.flatMap Volume.records ++ w.records) next := by
  have horder := List.pairwise_append.mp h.order
  refine ⟨?_, fun x hx => ?_, fun x hx => ?_, ?_⟩
  · rw [List.pairwise_append]
    refine ⟨horder.1, List.pairwise_singleton _ _, fun x hx y hy => ?_⟩
    rw [List.mem_singleton.mp hy, hc]
    exact horder.2.2 x hx v List.mem_cons_self
  · rcases List.mem_append.mp hx with hx | hx
    · exact h.past x (List.mem_append_left _ hx)
    · rw [List.mem_singleton.mp hx, hc]
      exact h.past v (by simp)
  · rcases List.mem_append.mp hx with hx | hx
    · exact h.small x (List.mem_append_left _ hx)
    · rw [List.mem_singleton.mp hx, hc]
      exact h.small v (by simp)
  · rw [List.flatMap_append, List.flatMap_singleton]

/-- **A save keeps the volumes in order**: no name is used twice, so that nothing is lost. -/
theorem ordered_of_saved (h : Ordered (closed ++ current.toList) records next)
    (hs : Saved maxSize now record closed current closed' v') (hnow : next ≤ now)
    (hsmall : now < Unsigned.bound128) :
    Ordered (closed' ++ [v']) (records ++ [record]) (now + 1) := by
  cases hs with
  | begin id =>
    rw [Option.toList_none, List.append_nil] at h
    exact h.snoc hnow hsmall rfl
  | append v hroom =>
    rw [Option.toList_some] at h
    have hholds := h.holds
    rw [List.flatMap_append, List.flatMap_singleton] at hholds
    have h' := (h.replace (w := v.add record) rfl).mono (Nat.le_succ_of_le hnow)
    rw [Volume.add, ← List.append_assoc, hholds] at h'
    exact h'
  | rotate v id hfull =>
    rw [Option.toList_some] at h
    have hholds := h.holds
    rw [List.flatMap_append, List.flatMap_singleton] at hholds
    -- no volume was begun at the time when this one was
    have hkeep : (closed.filter fun w => w.name != (v.putAside now).name) = closed := by
      refine List.filter_eq_self.mpr fun w hw => bne_iff_ne.mpr fun e => ?_
      have hlt := (List.pairwise_append.mp h.order).2.2 w hw v List.mem_cons_self
      have heq : w.created = v.created := (Volume.name_eq_iff.mp e).1
      omega
    have h' := h.replace (w := v.putAside now) rfl
    rw [Volume.putAside, hholds] at h'
    rw [hkeep]
    exact h'.snoc hnow hsmall rfl

/-- No volume has the name that one begun from now on would get. -/
theorem Ordered.name_ne (h : Ordered volumes records next) (hnow : next ≤ now) {v : Volume}
    (hv : v ∈ volumes) : v.name ≠ FileName.active now := by
  intro e
  have hc : v.created = now := (Volume.name_eq_iff (w := ⟨now, none, 0, []⟩).mp e).1
  have := h.past v hv
  omega

end

/-! ## 3. Reading back -/

section

variable {dir : Path} {disk : Disk}

theorem createdOf_file {v : Volume} (h : v.created < Unsigned.bound128) :
    createdOf (v.file.name, v.file.bytes) = some v.created := by
  rw [createdOf, Volume.file, String.toList_ofList]
  exact Volume.createdAt?_name h

/-- **What a reader makes of volumes in order.** -/
theorem replay_of_ordered {volumes : List Volume} {records : List (List UInt8)} {next : Nat}
    (h : disk.Holds dir.place (volumes.map Volume.file)) (ho : Ordered volumes records next) :
    (disk.filesIn dir.place).map createdOf = volumes.map (fun v => some v.created) ∧
      disk.replay dir.place = records.flatMap RotatingLog.line := by
  have hfiles : disk.filesIn dir.place = volumes.map fun v => (v.file.name, v.file.bytes) := by
    rw [h.filesIn, List.map_map]
    rfl
  refine ⟨?_, ?_⟩
  · rw [hfiles, List.map_map]
    exact List.map_congr_left fun v hv => createdOf_file (ho.small v hv)
  · have hsorted : (disk.filesIn dir.place).Pairwise fun f g =>
        decide ((createdOf f).getD 0 ≤ (createdOf g).getD 0) = true := by
      rw [hfiles, List.pairwise_map]
      refine ho.order.imp_of_mem fun {v w} hv hw hlt => ?_
      rw [createdOf_file (ho.small v hv), createdOf_file (ho.small w hw)]
      exact decide_eq_true (Nat.le_of_lt hlt)
    rw [Disk.replay, List.mergeSort_of_pairwise hsorted, hfiles, List.flatMap_map, ← ho.holds,
      List.flatMap_assoc]
    rfl

/-- **From a log whose volumes are in order, deeds lead to such a log**, and every save succeeds. -/
theorem carryOut_of_keeps {log : RotatingLog} {closed : List Volume} {current : Option Volume}
    {records : List (List UInt8)} {next : Nat} (hk : log.Keeps disk closed current)
    (ho : Ordered (closed ++ current.toList) records next) (hdir : log.dir = dir)
    {deeds : List Deed} (hnext : ∀ t ∈ Deed.times deeds, next ≤ t.unixNanos)
    (htimes : (Deed.times deeds).Pairwise fun s t => s.unixNanos < t.unixNanos)
    (hsmall : ∀ t ∈ Deed.times deeds, t.unixNanos < Unsigned.bound128) :
    (∀ a ∈ (log.carryOut disk deeds).answers, a = .ok ()) ∧
      ∃ volumes later,
        (log.carryOut disk deeds).disk.Holds dir.place (volumes.map Volume.file) ∧
        Ordered volumes (records ++ Deed.records deeds) later := by
  induction deeds generalizing log disk closed current records next with
  | nil =>
    refine ⟨fun a ha => absurd ha List.not_mem_nil, closed ++ current.toList, next, ?_, ?_⟩
    · rw [← hdir]
      exact hk.holds
    · rw [Deed.records, List.filterMap_nil, List.append_nil]
      exact ho
  | cons deed deeds ih =>
    cases deed with
    | save record time =>
      have hmem : time ∈ Deed.times (.save record time :: deeds) := List.mem_cons_self
      have htail := List.pairwise_cons.mp htimes
      have hfree : ∀ w ∈ closed, w.name ≠ FileName.active time.unixNanos :=
        fun w hw => ho.name_ne (hnext time hmem) (List.mem_append_left _ hw)
      obtain ⟨log', disk', closed', v', hs, hdir', -, hk', hsaved⟩ :=
        RotatingLog.save_of_keeps hk record time hfree
      have ho' := ordered_of_saved ho hsaved (hnext time hmem) (hsmall time hmem)
      obtain ⟨hanswers, volumes, later, hholds, hordered⟩ :=
        ih hk' ho' (hdir'.trans hdir) htail.1 htail.2
          fun t ht => hsmall t (List.mem_cons_of_mem _ ht)
      rw [RotatingLog.carryOut_save hs]
      refine ⟨fun a ha => ?_, volumes, later, hholds, ?_⟩
      · rcases List.mem_cons.mp ha with rfl | ha
        · rfl
        · exact hanswers a ha
      · rw [List.append_assoc, List.singleton_append] at hordered
        exact hordered
    | restart maxSize =>
      have hk' : (RotatingLog.new log.dir maxSize).Keeps disk (closed ++ current.toList) none :=
        RotatingLog.keeps_new hk.holds maxSize
      exact ih hk' (by simpa using ho) hdir hnext htimes hsmall

/-- **A log can be read back.** On a disk without faults and in a directory that is empty or still
to be made, with any size limits, any records, a clock that moves forward, at times that a name can
tell (their nanoseconds fit 128 bits, which no clock exceeds), and new logs taking the directory
over at any points: every save succeeds, each file tells when it was created, no two tell the same,
and in the order of their creation the files hold the lines of all records as they were saved. -/
theorem replay_carryOut (dir : Path) (hdisk : disk.Holds dir.place []) (maxSize : Nat)
    (deeds : List Deed)
    (hepoch : ∀ t ∈ Deed.times deeds, 0 ≤ t.sinceEpoch)
    (hsmall : ∀ t ∈ Deed.times deeds, t.unixNanos < Unsigned.bound128)
    (hclock : (Deed.times deeds).Pairwise fun s t => s.sinceEpoch < t.sinceEpoch) :
    let after := (RotatingLog.new dir maxSize).carryOut disk deeds
    let files := after.disk.filesIn dir.place
    (∀ a ∈ after.answers, a = .ok ()) ∧
      (∀ f ∈ files, (createdOf f).isSome) ∧ (files.map createdOf).Nodup ∧
      after.disk.replay dir.place = (Deed.records deeds).flatMap RotatingLog.line := by
  have hk : (RotatingLog.new dir maxSize).Keeps disk [] none := RotatingLog.keeps_new hdisk maxSize
  have htimes : (Deed.times deeds).Pairwise fun s t => s.unixNanos < t.unixNanos := by
    refine hclock.imp_of_mem fun {s t} hs ht hlt => ?_
    have := hepoch s hs
    simp only [Moment.unixNanos]
    omega
  have hdir : (RotatingLog.new dir maxSize).dir = dir := rfl
  obtain ⟨hanswers, volumes, later, hholds, hordered⟩ :=
    carryOut_of_keeps hk (ordered_nil 0) hdir (fun t _ => Nat.zero_le _) htimes hsmall
  rw [List.nil_append] at hordered
  obtain ⟨hcreated, hreplay⟩ := replay_of_ordered hholds hordered
  refine ⟨hanswers, fun f hf => ?_, ?_, hreplay⟩
  · have hmem := List.mem_map_of_mem (f := createdOf) hf
    rw [hcreated] at hmem
    obtain ⟨v, -, hv⟩ := List.mem_map.mp hmem
    rw [← hv, Option.isSome_some]
  · rw [hcreated, List.nodup_iff_pairwise_ne, List.pairwise_map]
    refine hordered.order.imp fun {v w} hlt e => ?_
    have := Option.some.inj e
    omega

/-- Three records, a full file between the first two, and another log for the third. -/
theorem replay_carryOut_across_restart :
    (((RotatingLog.new ⟨"/data", ["", "data"]⟩ 2).carryOut {}
      [.save [97] ⟨5⟩, .save [98] ⟨7⟩, .restart 1, .save [99] ⟨9⟩]).disk.replay ["", "data"]) =
      [97, 10, 98, 10, 99, 10] :=
  (replay_carryOut ⟨"/data", ["", "data"]⟩ (Disk.holds_empty _) 2
    [.save [97] ⟨5⟩, .save [98] ⟨7⟩, .restart 1, .save [99] ⟨9⟩]
    (by decide) (by decide) (by decide)).2.2.2

end

end Vitals.Log
