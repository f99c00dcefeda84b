import Vitals.Proofs.Log.Replay

/-!
# What a rotation can destroy

A file that is put aside is renamed after the times at which it was begun and put aside, and a
rename replaces what bears that name already. Times come from the callers: when the clock stands
still or is set back, a pair of times can come up again, and an earlier file is gone. This file
proves that nothing else loses a record:

* `rotations` gives the pairs of times that a row of saves puts files aside under, computed from
  the saves alone;
* `saveAll_lines`: the lines of the directory are the records saved exactly if no pair comes up
  twice; otherwise some are missing, and none is ever added;
* `equal_times_lose_a_record`: three saves at one time lose the first record.
-/

namespace Vitals.Log

/-! ## 1. Lines -/

/-- The lines of a text; `part` is the line read so far, backwards. -/
def linesFrom (part : List UInt8) : List UInt8 → List (List UInt8)
  | [] => if part = [] then [] else [part.reverse]
  | b :: bs => if b = 10 then part.reverse :: linesFrom [] bs else linesFrom (b :: part) bs

/-- The lines of a text, without their ends. -/
def linesOf (bytes : List UInt8) : List (List UInt8) :=
  linesFrom [] bytes

theorem linesFrom_line {record : List UInt8} (h : 10 ∉ record) (part rest : List UInt8) :
    linesFrom part (RotatingLog.line record ++ rest) =
      (part.reverse ++ record) :: linesOf rest := by
  induction record generalizing part with
  | nil =>
    rw [List.append_nil]
    rfl
  | cons b record ih =>
    have hb : b ≠ 10 := fun e => h (e ▸ List.mem_cons_self)
    have hrec : 10 ∉ record := fun hm => h (List.mem_cons_of_mem _ hm)
    have := ih hrec (b :: part)
    simp only [RotatingLog.line, List.cons_append, linesFrom, if_neg hb] at this ⊢
    rw [this, List.reverse_cons, List.append_assoc, List.singleton_append]

/-- **The lines of records without newlines are the records.** -/
theorem linesOf_flatMap_line {records : List (List UInt8)} (h : ∀ r ∈ records, 10 ∉ r) :
    linesOf (records.flatMap RotatingLog.line) = records := by
  induction records with
  | nil => rfl
  | cons r records ih =>
    rw [List.flatMap_cons, linesOf, linesFrom_line (h r List.mem_cons_self), List.reverse_nil,
      List.nil_append, ih fun s hs => h s (List.mem_cons_of_mem _ hs)]

/-- The lines of all files of a directory. -/
def Disk.linesIn (d : Disk) (dir : Place) : List (List UInt8) :=
  (d.filesIn dir).flatMap fun f => linesOf f.2

/-! ## 2. Rotations -/

/-- The times, begun and put aside, of the files that saves put aside; `current` is when the file
was begun that records go to, and its size. -/
def rotationsFrom (maxSize : Nat) :
    Option (Nat × Nat) → List (List UInt8 × Moment) → List (Nat × Nat)
  | _, [] => []
  | none, (record, time) :: saves =>
    rotationsFrom maxSize (some (time.unixNanos, (RotatingLog.line record).length)) saves
  | some (created, size), (record, time) :: saves =>
    if maxSize ≤ size then
      (created, time.unixNanos) ::
        rotationsFrom maxSize (some (time.unixNanos, (RotatingLog.line record).length)) saves
    else rotationsFrom maxSize (some (created, size + (RotatingLog.line record).length)) saves

/-- The rotations of a log with a given size limit. -/
def rotations (maxSize : Nat) (saves : List (List UInt8 × Moment)) : List (Nat × Nat) :=
  rotationsFrom (max maxSize 1) none saves

/-- The rotation that a save at `now` makes, if it makes one. -/
def rotationAt (maxSize now : Nat) (current : Option Volume) : Option (Nat × Nat) :=
  match current with
  | none => none
  | some v => if maxSize ≤ v.bytes.length then some (v.created, now) else none

/-- When the current volume was begun, and its size. -/
def standOf (current : Option Volume) : Option (Nat × Nat) :=
  current.map fun v => (v.created, v.bytes.length)

theorem rotationsFrom_of_saved {maxSize : Nat} {record : List UInt8} {time : Moment}
    {closed closed' : List Volume} {current : Option Volume} {v' : Volume}
    (hs : Saved maxSize time.unixNanos record closed current closed' v')
    (saves : List (List UInt8 × Moment)) :
    rotationsFrom maxSize (standOf current) ((record, time) :: saves) =
      (rotationAt maxSize time.unixNanos current).toList ++
        rotationsFrom maxSize (standOf (some v')) saves := by
  have hnew (id : FileId) :
      (Volume.mk time.unixNanos none id [record]).bytes = RotatingLog.line record := by
    simp [Volume.bytes]
  cases hs with
  | begin id =>
    simp only [standOf, Option.map_none, Option.map_some, rotationsFrom, rotationAt, hnew,
      Option.toList_none, List.nil_append]
  | append v h =>
    have h : ¬maxSize ≤ v.bytes.length := Nat.not_le.mpr h
    simp only [standOf, Option.map_some, rotationsFrom, rotationAt, if_neg h, Volume.bytes_add,
      List.length_append, Option.toList_none, List.nil_append]
    rfl
  | rotate v id h =>
    simp only [standOf, Option.map_some, rotationsFrom, rotationAt, if_pos h, hnew,
      Option.toList_some, List.singleton_append]

/-! ## 3. The invariant -/

/-- **Where saved records are**: in the volumes, or lost with a volume that was replaced. `done`
are the rotations so far; a record is lost exactly if one of them came up twice. -/
structure Tallied (closed : List Volume) (current : Option Volume) (records : List (List UInt8))
    (done : List (Nat × Nat)) (lost : List (List UInt8)) : Prop where
  aside : ∀ v ∈ closed, v.put ≠ none
  filled : ∀ v ∈ closed ++ current.toList, v.records ≠ []
  total : ((closed ++ current.toList).flatMap Volume.records ++ lost).Perm records
  turns : ∀ c p, (c, p) ∈ done ↔ ∃ v ∈ closed, v.created = c ∧ v.put = some p
  spared : lost = [] ↔ done.Nodup

section

variable {closed closed' : List Volume} {current : Option Volume} {v v' : Volume}
  {records : List (List UInt8)} {record : List UInt8} {done : List (Nat × Nat)}
  {lost : List (List UInt8)} {maxSize now : Nat}

theorem tallied_nil : Tallied [] none [] [] [] where
  aside _ h := absurd h List.not_mem_nil
  filled _ h := absurd h List.not_mem_nil
  total := .refl _
  turns _ _ := ⟨fun h => absurd h List.not_mem_nil, fun ⟨_, h, _⟩ => absurd h List.not_mem_nil⟩
  spared := ⟨fun _ => .nil, fun _ => rfl⟩

/-- A record goes to the current volume, or to one begun for it. -/
theorem Tallied.add (h : Tallied closed current records done lost)
    (hv : v'.records = current.toList.flatMap Volume.records ++ [record]) :
    Tallied closed (some v') (records ++ [record]) done lost where
  aside := h.aside
  filled v hmem := by
    rcases List.mem_append.mp hmem with hmem | hmem
    · exact h.filled v (List.mem_append_left _ hmem)
    · rw [List.mem_singleton.mp hmem, hv]
      simp
  total := by
    refine List.Perm.trans ?_ (h.total.append_right [record])
    rw [List.perm_iff_count]
    intro r
    simp only [List.flatMap_append, Option.toList_some, List.flatMap_singleton, hv,
      List.count_append]
    omega
  turns := h.turns
  spared := h.spared

/-- The volumes that a rename replaces. -/
def replaced (closed : List Volume) (v : Volume) : List Volume :=
  closed.filter fun w => w.name == v.name

theorem mem_replaced_iff {w : Volume} : w ∈ replaced closed (v.putAside now) ↔
    w ∈ closed ∧ w.created = v.created ∧ w.put = some now := by
  rw [replaced, List.mem_filter, beq_iff_eq, Volume.name_eq_iff]
  rfl

theorem Tallied.flatMap_replaced_eq_nil_iff (h : Tallied closed (some v) records done lost)
    (now : Nat) : (replaced closed (v.putAside now)).flatMap Volume.records = [] ↔
      (v.created, now) ∉ done := by
  rw [List.flatMap_eq_nil_iff, h.turns]
  refine ⟨fun hnil => ?_, fun hnot w hw => ?_⟩
  · rintro ⟨w, hw, hc, hp⟩
    exact h.filled w (List.mem_append_left _ hw) (hnil w (mem_replaced_iff.mpr ⟨hw, hc, hp⟩))
  · exact absurd ⟨w, mem_replaced_iff.mp hw⟩ hnot

/-- **A rotation loses the records of a volume exactly if its times came up before.** -/
theorem Tallied.rotate (h : Tallied closed (some v) records done lost) (now : Nat) :
    Tallied ((closed.filter fun w => w.name != (v.putAside now).name) ++ [v.putAside now]) none
      records (done ++ [(v.created, now)])
      (lost ++ (replaced closed (v.putAside now)).flatMap Volume.records) where
  aside w hw := by
    rcases List.mem_append.mp hw with hw | hw
    · exact h.aside w (List.mem_filter.mp hw).1
    · rw [List.mem_singleton.mp hw]
      exact fun e => by cases e
  filled w hw := by
    rw [Option.toList_none, List.append_nil] at hw
    rcases List.mem_append.mp hw with hw | hw
    · exact h.filled w (List.mem_append_left _ (List.mem_filter.mp hw).1)
    · rw [List.mem_singleton.mp hw]
      exact h.filled v (by simp)
  total := by
    refine List.Perm.trans ?_ h.total
    have hsplit := (List.filter_append_perm (fun w => w.name == (v.putAside now).name)
      closed).flatMap_right Volume.records
    rw [List.perm_iff_count] at hsplit ⊢
    intro r
    have hr := hsplit r
    simp only [List.flatMap_append, List.count_append, Option.toList_some, Option.toList_none,
      List.flatMap_singleton, List.flatMap_nil, List.count_nil, replaced, bne] at hr ⊢
    have hv : (v.putAside now).records = v.records := rfl
    rw [hv]
    omega
  turns c p := by
    rw [List.mem_append, h.turns, List.mem_singleton]
    constructor
    · rintro (⟨w, hw, hc, hp⟩ | e)
      · by_cases hn : w.name = (v.putAside now).name
        · obtain ⟨hc', hp'⟩ := Volume.name_eq_iff.mp hn
          exact ⟨v.putAside now, by simp, hc'.symm.trans hc, hp'.symm.trans hp⟩
        · have hne : (w.name != (v.putAside now).name) = true := bne_iff_ne.mpr hn
          exact ⟨w, List.mem_append_left _ (List.mem_filter.mpr ⟨hw, hne⟩), hc, hp⟩
      · cases e
        exact ⟨v.putAside now, by simp, rfl, rfl⟩
    · rintro ⟨w, hw, hc, hp⟩
      rcases List.mem_append.mp hw with hw | hw
      · exact .inl ⟨w, (List.mem_filter.mp hw).1, hc, hp⟩
      · rw [List.mem_singleton.mp hw] at hc hp
        cases hc
        cases hp
        exact .inr rfl
  spared := by
    rw [List.append_eq_nil_iff, h.spared, h.flatMap_replaced_eq_nil_iff, List.nodup_append]
    refine ⟨fun ⟨hn, hk⟩ => ⟨hn, by simp, fun a ha b hb e => ?_⟩, fun ⟨hn, _, hk⟩ => ⟨hn, ?_⟩⟩
    · rw [e, List.mem_singleton.mp hb] at ha
      exact hk ha
    · exact fun hmem => hk _ hmem _ List.mem_cons_self rfl

/-- **A save keeps the tally.** -/
theorem tallied_of_saved (h : Tallied closed current records done lost)
    (hs : Saved maxSize now record closed current closed' v') :
    ∃ lost', Tallied closed' (some v') (records ++ [record])
      (done ++ (rotationAt maxSize now current).toList) lost' := by
  cases hs with
  | begin id =>
    refine ⟨lost, ?_⟩
    rw [rotationAt, Option.toList_none, List.append_nil]
    exact h.add rfl
  | append v hroom =>
    refine ⟨lost, ?_⟩
    rw [rotationAt, if_neg (Nat.not_le.mpr hroom), Option.toList_none, List.append_nil]
    refine h.add ?_
    rw [Option.toList_some, List.flatMap_singleton, Volume.add]
  | rotate v id hfull =>
    rw [rotationAt, if_pos hfull, Option.toList_some]
    exact ⟨_, (h.rotate now).add rfl⟩

end

/-! ## 4. What the files hold -/

/-- Saves records one after another. -/
def RotatingLog.saveAll (log : RotatingLog) (disk : Disk) (saves : List (List UInt8 × Moment)) :
    Aftermath :=
  log.carryOut disk (saves.map fun s => .save s.1 s.2)

section

variable {disk : Disk} {dir : Path}

/-- **From a log whose records are tallied, saves lead to such a log**, and every save succeeds. -/
theorem saveAll_of_keeps {log : RotatingLog} {closed : List Volume} {current : Option Volume}
    {records : List (List UInt8)} {done : List (Nat × Nat)} {lost : List (List UInt8)}
    (hk : log.Keeps disk closed current) (ht : Tallied closed current records done lost)
    (saves : List (List UInt8 × Moment)) :
    (∀ a ∈ (log.saveAll disk saves).answers, a = .ok ()) ∧
      ∃ closed' current' lost',
        (log.saveAll disk saves).disk.Holds log.dir.place
          ((closed' ++ current'.toList).map Volume.file) ∧
        Tallied closed' current' (records ++ saves.map Prod.fst)
          (done ++ rotationsFrom log.maxSize (standOf current) saves) lost' := by
  induction saves generalizing log disk closed current records done lost with
  | nil =>
    refine ⟨fun a ha => absurd ha List.not_mem_nil, closed, current, lost, hk.holds, ?_⟩
    rw [List.map_nil, rotationsFrom, List.append_nil, List.append_nil]
    exact ht
  | cons s saves ih =>
    obtain ⟨record, time⟩ := s
    have hfree : ∀ w ∈ closed, w.name ≠ FileName.active time.unixNanos := by
      intro w hw e
      have hput := Volume.name_eq_iff (w := ⟨time.unixNanos, none, 0, []⟩).mp e
      exact ht.aside w hw hput.2
    obtain ⟨log', disk', closed', v', hs, hdir, hmax, hk', hsaved⟩ :=
      RotatingLog.save_of_keeps hk record time hfree
    obtain ⟨lost', ht'⟩ := tallied_of_saved ht hsaved
    obtain ⟨hanswers, closed₂, current₂, lost₂, hholds, htallied⟩ := ih hk' ht'
    rw [RotatingLog.saveAll, List.map_cons, RotatingLog.carryOut_save hs]
    refine ⟨fun a ha => ?_, closed₂, current₂, lost₂, ?_, ?_⟩
    · rcases List.mem_cons.mp ha with rfl | ha
      · rfl
      · exact hanswers a ha
    · rw [← hdir]
      exact hholds
    · rw [hmax, List.append_assoc, List.append_assoc, List.singleton_append] at htallied
      rw [rotationsFrom_of_saved hsaved, List.map_cons]
      exact htallied

/-- The lines of a tallied log. -/
theorem Tallied.linesIn {closed : List Volume} {current : Option Volume}
    {records : List (List UInt8)} {done : List (Nat × Nat)} {lost : List (List UInt8)}
    (h : Tallied closed current records done lost)
    (hd : disk.Holds dir.place ((closed ++ current.toList).map Volume.file))
    (hr : ∀ r ∈ records, 10 ∉ r) :
    disk.linesIn dir.place = (closed ++ current.toList).flatMap Volume.records := by
  rw [Disk.linesIn, hd.filesIn, List.map_map, List.flatMap_map]
  refine List.flatMap_congr fun v hv => linesOf_flatMap_line fun r hmem => hr r ?_
  exact h.total.subset (List.mem_append_left _ (List.mem_flatMap.mpr ⟨v, hv, hmem⟩))

/-- **A record is missing exactly if a rotation came up twice.** On a disk without faults and in a
directory that is empty or still to be made, with any size limit and records without newlines, and
with times in any order, repeated or before the epoch: every save succeeds, and the lines of the
files are the records saved, in some order, exactly if no two files were put aside under the same
two times. Otherwise some are lost, but none is added. -/
theorem saveAll_lines (dir : Path) (hdisk : disk.Holds dir.place []) (maxSize : Nat)
    (saves : List (List UInt8 × Moment)) (hrecords : ∀ s ∈ saves, 10 ∉ s.1) :
    let after := (RotatingLog.new dir maxSize).saveAll disk saves
    (∀ a ∈ after.answers, a = .ok ()) ∧
      ((after.disk.linesIn dir.place).Perm (saves.map Prod.fst) ↔ (rotations maxSize saves).Nodup) ∧
      ∃ lost, (after.disk.linesIn dir.place ++ lost).Perm (saves.map Prod.fst) := by
  have hk : (RotatingLog.new dir maxSize).Keeps disk [] none := RotatingLog.keeps_new hdisk maxSize
  obtain ⟨hanswers, closed, current, lost, hholds, htallied⟩ :=
    saveAll_of_keeps hk tallied_nil saves
  rw [List.nil_append, List.nil_append] at htallied
  have hnew : ∀ r ∈ saves.map Prod.fst, 10 ∉ r := by
    intro r hr
    obtain ⟨s, hs, rfl⟩ := List.mem_map.mp hr
    exact hrecords s hs
  have hlines : ((RotatingLog.new dir maxSize).saveAll disk saves).disk.linesIn dir.place =
      (closed ++ current.toList).flatMap Volume.records := htallied.linesIn hholds hnew
  have htotal := htallied.total
  rw [← hlines] at htotal
  refine ⟨hanswers, Iff.trans ⟨fun hperm => ?_, fun hnil => ?_⟩ htallied.spared, lost, htotal⟩
  · have h₁ := hperm.length_eq
    have h₂ := htotal.length_eq
    rw [List.length_append] at h₂
    exact List.eq_nil_of_length_eq_zero (by omega)
  · rw [hnil, List.append_nil] at htotal
    exact htotal

/-- Times that stand still and go back, but no two rotations with the same two times. -/
theorem saveAll_lines_backwards :
    (((RotatingLog.new ⟨"/data", ["", "data"]⟩ 1).saveAll {}
      [([97], ⟨5⟩), ([98], ⟨5⟩), ([99], ⟨4⟩)]).disk.linesIn ["", "data"]).Perm
        [[97], [98], [99]] :=
  (saveAll_lines ⟨"/data", ["", "data"]⟩ (Disk.holds_empty _) 1
    [([97], ⟨5⟩), ([98], ⟨5⟩), ([99], ⟨4⟩)] (by decide)).2.1.mpr (by decide)

/-- **Three saves at one time lose the first record**: the second file is put aside in the place
of the first. -/
theorem equal_times_lose_a_record :
    ¬(((RotatingLog.new ⟨"/data", ["", "data"]⟩ 1).saveAll {}
      [([97], ⟨5⟩), ([98], ⟨5⟩), ([99], ⟨5⟩)]).disk.linesIn ["", "data"]).Perm
        [[97], [98], [99]] := by
  decide +kernel

end

end Vitals.Log
