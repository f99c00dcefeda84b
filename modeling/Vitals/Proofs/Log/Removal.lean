import Vitals.Proofs.Log.Volume

/-!
# A log that others remove files from

The directory of a log often lies where others tidy up: files of the log are removed under its
hands, or the directory is. This file fixes

* `Disk.Willing`, a disk that never refuses a call of the log but the renaming of a file that is
  not there, and `Disk.finds`, whether a file is there;
* `Act`, what the log and others do, and `attempts`, the saves among it with what they found and
  how they ended;
* `RotatingLog.bereft`: the file that records go to is full, and no longer there.

A save that finds the log bereft fails, and leaves the log as it was, so that the next one finds
the same (`save_of_willing`). Main statement: all saves succeed until one finds the log bereft, and
from then on all fail (`saves_fail_once_bereft`); `removed_file_blocks_the_log` is such a row.
-/

namespace Vitals.Log

namespace Disk

/-! ## 1. Removing entries -/

/-- The second disk is the first one after entries were removed. -/
def Thinned (d d' : Disk) : Prop :=
  d'.plan = d.plan ∧ ∃ keep : Place → Bool, d'.entries = d.entries.filter fun x => keep x.1

section

variable {d d' : Disk} {p dir : Place} {name source target : String}

theorem thinned_removeFile (d : Disk) (p : Place) : d.Thinned (d.removeFile p).2 := by
  have hsame : d.Thinned d := ⟨rfl, fun _ => true, by simp⟩
  unfold removeFile
  split
  · exact ⟨rfl, fun q => q != p, rfl⟩
  · exact hsame

theorem thinned_removeTree (d : Disk) (p : Place) : d.Thinned (d.removeTree p).2 := by
  have hsame : d.Thinned d := ⟨rfl, fun _ => true, by simp⟩
  unfold removeTree
  split
  · exact ⟨rfl, fun q => q != p && !isBelow p q, rfl⟩
  · exact hsame

/-- What is there was there before. -/
theorem Thinned.of_entry?_eq_some (h : d.Thinned d') {e : Entry} (he : d'.entry? p = some e) :
    d.entry? p = some e := by
  obtain ⟨-, keep, hentries⟩ := h
  unfold Disk.entry? at he ⊢
  split at he
  · rename_i hp
    rw [if_pos hp]
    exact he
  · rename_i hp
    rw [if_neg hp]
    rw [hentries, lookup_filter_key] at he
    split at he
    · exact he
    · cases he

/-! ## 2. Disks that do not refuse -/

/-- A name that the log gives a file. -/
def IsLogName (name : String) : Prop :=
  ∃ created, name = String.ofList (FileName.active created) ∨
    ∃ put, name = String.ofList (FileName.rotated created put)

/-- **A disk that refuses the log nothing but the renaming of a file that is not there**: it has no
fault in store, no file is in the way of the directory, and no directory in the way of a file. -/
structure Willing (d : Disk) (dir : Place) : Prop where
  plan : d.plan = {}
  way : d.Passable dir
  clear : ∀ x ∈ listing dir d.entries, IsLogName x.1 → x.2 ≠ .directory

/-- Whether a file is found at a place. -/
def finds (d : Disk) (p : Place) : Bool :=
  match d.checkWay p, d.entry? p with
  | .ok (), some (.file _) => true
  | _, _ => false

theorem IsLogName.ne_empty (h : IsLogName name) : name ≠ "" := by
  obtain ⟨created, rfl | ⟨put, rfl⟩⟩ := h
  · exact Volume.ofList_name_ne ⟨created, none, 0, []⟩
  · exact Volume.ofList_name_ne ⟨created, some put, 0, []⟩

theorem finds_eq_true_iff :
    d.finds p = true ↔ d.checkWay p = .ok () ∧ ∃ id, d.entry? p = some (.file id) := by
  unfold finds
  split
  · rename_i id hw he
    exact iff_of_true rfl ⟨hw, id, he⟩
  · rename_i hno
    refine iff_of_false nofun ?_
    rintro ⟨hw, id, he⟩
    exact hno id hw he

/-- A file of the directory is found only if the directory is there. -/
theorem hasDir_of_finds (h : d.finds (dir ++ [name]) = true) : d.HasDir dir := by
  obtain ⟨hw, -⟩ := finds_eq_true_iff.mp h
  refine hasDir_of_le fun n hn => ?_
  have hlt : n < (dir ++ [name]).length := by
    rw [List.length_append, List.length_singleton]
    omega
  have hdir := directory_of_checkWay hw n hlt
  rw [List.take_append_of_le_length hn] at hdir
  exact hdir

/-- Entering a directory whose way is free fails only because something is not there. -/
theorem Passable.checkWay (h : d.Passable dir) (name : String) :
    d.checkWay (dir ++ [name]) = .ok () ∨ d.checkWay (dir ++ [name]) = .error notFound := by
  rcases checkWay_cases d (dir ++ [name]) with ⟨hok, -⟩ | ⟨n, hn, id, hfile, -⟩ | ⟨-, -, -, herror⟩
  · exact .inl hok
  · rw [List.length_append, List.length_singleton] at hn
    rw [List.take_append_of_le_length (by omega)] at hfile
    exact absurd hfile (h n id)
  · exact .inr herror

/-- What was removed cannot be found any more. -/
theorem Thinned.finds (h : d.Thinned d') (hf : d'.finds p = true) : d.finds p = true := by
  obtain ⟨hw, id, he⟩ := finds_eq_true_iff.mp hf
  refine finds_eq_true_iff.mpr ⟨?_, id, h.of_entry?_eq_some he⟩
  refine forM_eq_ok fun n hn => ?_
  rw [h.of_entry?_eq_some (directory_of_checkWay hw n (List.mem_range.mp hn))]

theorem Thinned.willing (h : d.Thinned d') (hd : d.Willing dir) : d'.Willing dir := by
  obtain ⟨hplan, keep, hentries⟩ := id h
  refine ⟨hplan.trans hd.plan, fun n id he => hd.way n id (h.of_entry?_eq_some he), fun x hx => ?_⟩
  refine hd.clear x ?_
  rw [hentries] at hx
  exact (List.filter_sublist.filterMap _).subset hx

/-- No directory stands in the place of a file of the log. -/
theorem Willing.ne_directory (h : d.Willing dir) (hname : IsLogName name) :
    d.entry? (dir ++ [name]) ≠ some .directory := by
  rw [entry?_append_singleton d dir hname.ne_empty]
  intro he
  obtain ⟨l₁, l₂, hl, -⟩ := List.lookup_eq_some_iff.mp he
  refine h.clear (name, .directory) ?_ hname rfl
  rw [hl]
  exact List.mem_append_right _ List.mem_cons_self

theorem Willing.logged (h : d.Willing dir) (call : Call) : (d.logged call).Willing dir :=
  ⟨h.plan, h.way, h.clear⟩

/-! ## 3. The calls of the log -/

section

variable {path : Path}

/-- **Making the directory succeeds.** -/
theorem Willing.makeDirs (h : d.Willing path.place) :
    ∃ d', d.makeDirs path = (.ok (), d') ∧ d'.Willing path.place ∧ d'.HasDir path.place := by
  obtain ⟨more, hmk, hmore, hdir⟩ :=
    makeMissing_of_passable (h.logged (.makeDirs path)).way path.place.length
  have hd := hasDir_of_le hdir
  refine ⟨(d.logged (.makeDirs path)).add more, makeDirs_of_makeMissing h.plan hmk, ?_, hd⟩
  have hnone : listing path.place more = [] := by
    refine listing_eq_nil fun x hx => ?_
    have hle := (hmore x hx).1
    omega
  refine ⟨h.plan, hd.passable, fun x hx => ?_⟩
  have hx : x ∈ listing path.place (d.entries ++ more) := hx
  rw [listing_append, hnone, List.append_nil] at hx
  exact h.clear x hx

/-- **Opening a file succeeds**, whether it is there or not. -/
theorem Willing.openAppend (h : d.Willing path.place) (hd : d.HasDir path.place)
    (hname : IsLogName name) :
    ∃ answer d', d.openAppend (path.join name) = (.ok answer, d') ∧ d'.Willing path.place := by
  cases he : d.entry? (path.place ++ [name]) with
  | none =>
    refine ⟨_, _, openAppend_of_entry?_eq_none h.plan (hd.checkWay name) he, ?_⟩
    have hadd : (d.add [(path.place ++ [name], .file d.contents.length)]).HasDir path.place :=
      fun n => entry?_add (hd n) _
    refine ⟨h.plan, hadd.passable, fun x hx => ?_⟩
    have hx : x ∈ listing path.place
        (d.entries ++ [(path.place ++ [name], .file d.contents.length)]) := hx
    rw [listing_append] at hx
    rcases List.mem_append.mp hx with hx | hx
    · exact h.clear x hx
    · rw [listing_cons, nameIn_append_singleton] at hx
      cases List.mem_singleton.mp hx
      exact nofun
  | some e =>
    cases e with
    | directory => exact absurd he (h.ne_directory hname)
    | file id =>
      refine ⟨(id, (d.content id).length), d.logged (.openFile (path.join name)), ?_, h.logged _⟩
      exact openAppend_of_entry?_eq_file h.plan (hd.checkWay name) he

/-- **Renaming a file that is found succeeds.** -/
theorem Willing.rename (h : d.Willing path.place) (hf : d.finds (path.place ++ [source]) = true)
    (hs : IsLogName source) (ht : IsLogName target) :
    ∃ d', d.rename (path.join source) (path.join target) = (.ok (), d') ∧
      d'.Willing path.place := by
  obtain ⟨hw, id, he⟩ := finds_eq_true_iff.mp hf
  have hd := hasDir_of_finds hf
  have hren := renameEntry_of_file (d := d.logged (.rename (path.join source) (path.join target)))
    hw (hd.checkWay target) he (h.ne_directory ht)
  refine ⟨_, rename_of_renameEntry h.plan hren, h.plan, ?_, fun x hx => ?_⟩
  · exact (hd.renamed source target).passable
  · have hx : x ∈ listing path.place
        (moved (d.entries.filter fun x => x.1 != path.place ++ [target])
          (path.place ++ [source]) (path.place ++ [target])) := hx
    rw [listing_moved, listing_filter_ne] at hx
    obtain ⟨y, hy, rfl⟩ := List.mem_map.mp hx
    have hclear := h.clear y (List.mem_filter.mp hy).1
    by_cases hname : y.1 = source
    · rw [if_pos hname]
      exact fun _ => hclear (hname ▸ hs)
    · rw [if_neg hname]
      exact hclear

/-- **Renaming a file that is not found fails**, and changes nothing. -/
theorem Willing.rename_of_not_finds (h : d.Willing path.place)
    (hf : d.finds (path.place ++ [source]) = false) (hs : IsLogName source) :
    d.rename (path.join source) (path.join target) =
      (.error notFound, d.logged (.rename (path.join source) (path.join target))) := by
  refine rename_of_renameEntry_error h.plan ?_
  have hway : ∀ name, (d.logged (.rename (path.join source) (path.join target))).checkWay
      (path.place ++ [name]) = d.checkWay (path.place ++ [name]) := fun _ => rfl
  have hentry : Disk.entry? (d.logged (.rename (path.join source) (path.join target)))
      (path.place ++ [source]) = d.entry? (path.place ++ [source]) := rfl
  unfold renameEntry
  simp only [Path.place_join, hway, hentry]
  rcases h.way.checkWay source with hok | herror
  · have hnone : d.entry? (path.place ++ [source]) = none := by
      cases he : d.entry? (path.place ++ [source]) with
      | none => rfl
      | some e =>
        cases e with
        | directory => exact absurd he (h.ne_directory hs)
        | file id =>
          rw [finds_eq_true_iff.mpr ⟨hok, id, he⟩] at hf
          cases hf
    rcases h.way.checkWay target with hok' | herror'
    · simp only [hok, hok', hnone, bind, Except.bind]
      rfl
    · simp only [hok, herror', bind, Except.bind]
  · simp only [herror, bind, Except.bind]

end

/-- **Writing succeeds.** -/
theorem Willing.append (h : d.Willing dir) (id : FileId) (bytes : List UInt8) :
    (d.append id bytes).Willing dir :=
  ⟨h.plan, h.way, h.clear⟩

theorem flush_eq (h : d.plan = {}) : d.flush = (.ok (), d) := by
  obtain ⟨entries, contents, plan, calls⟩ := d
  cases h
  rfl

end

end Disk

/-! ## 4. Saves -/

namespace RotatingLog

/-- The file that records go to is full, and is no longer found under its path. -/
def bereft (log : RotatingLog) (disk : Disk) : Bool :=
  match log.cursor with
  | none => false
  | some c => decide (log.maxSize ≤ c.size) && !disk.finds c.path.place

/-- **A log on a disk that does not refuse it.** -/
structure Served (log : RotatingLog) (disk : Disk) : Prop where
  willing : disk.Willing log.dir.place
  named : ∀ c, log.cursor = some c → c.path = log.pathOf (FileName.active c.created)

section

variable {log : RotatingLog} {disk disk' : Disk} {record : List UInt8} {c : Cursor}

theorem isLogName_active (created : Nat) :
    Disk.IsLogName (String.ofList (FileName.active created)) :=
  ⟨created, .inl rfl⟩

theorem isLogName_rotated (created put : Nat) :
    Disk.IsLogName (String.ofList (FileName.rotated created put)) :=
  ⟨created, .inr ⟨put, rfl⟩⟩

/-- A log that was just set up. -/
theorem served_new {dir : Path} (h : disk.Willing dir.place) (maxSize : Nat) :
    (new dir maxSize).Served disk :=
  ⟨h, nofun⟩

/-- Appending a record succeeds, also to a file that was removed. -/
theorem saveTo_of_served (h : disk.Willing log.dir.place)
    (hc : c.path = log.pathOf (FileName.active c.created)) (record : List UInt8) :
    ∃ log' disk', log.saveTo c record disk = (.ok (), log', disk') ∧ log'.dir = log.dir ∧
      log'.Served disk' := by
  have happend : append c record disk = (.ok (), disk.append c.handle (line record)) := by
    have hw := Disk.writeAll_eq h.plan c.handle (line record)
    have hf := Disk.flush_eq (h.append c.handle (line record)).plan
    simp only [append, hw, hf]
  refine ⟨{ log with cursor := some { c with size := c.size + (line record).length } }, _, ?_, rfl,
    h.append c.handle (line record), fun c' hc' => ?_⟩
  · rw [saveTo, happend]
  · cases hc'
    exact hc

/-- Beginning a file succeeds. -/
theorem saveFresh_of_served (h : disk.Willing log.dir.place) (record : List UInt8) (now : Nat) :
    ∃ log' disk', log.saveFresh record now disk = (.ok (), log', disk') ∧ log'.dir = log.dir ∧
      log'.Served disk' := by
  obtain ⟨disk₁, hm, h₁, hd₁⟩ := h.makeDirs
  obtain ⟨⟨id, size⟩, disk₂, ho, h₂⟩ := h₁.openAppend hd₁ (isLogName_active now)
  have hopen : log.openFile now disk =
      (.ok ⟨log.pathOf (FileName.active now), now, id, size⟩, disk₂) := by
    simp only [openFile, hm, pathOf, ho]
  obtain ⟨log', disk', hs, hdir, h'⟩ := saveTo_of_served
    (c := ⟨log.pathOf (FileName.active now), now, id, size⟩) h₂ rfl record
  refine ⟨log', disk', ?_, hdir, h'⟩
  rw [saveFresh, hopen]
  exact hs

/-- **What a save comes to**: it succeeds, unless it finds the log bereft; then it fails, and the
log stays bereft. -/
theorem save_of_served (h : log.Served disk) (record : List UInt8) (time : Moment) :
    (log.bereft disk = false ∧ ∃ log' disk', log.save record time disk = (.ok (), log', disk') ∧
        log'.dir = log.dir ∧ log'.Served disk') ∨
      ∃ c call, log.bereft disk = true ∧ log.cursor = some c ∧
        log.save record time disk =
          (.error (.storage c.path.text Disk.notFound), log, disk.logged call) := by
  cases hc : log.cursor with
  | none =>
    refine .inl ⟨by rw [bereft, hc], ?_⟩
    rw [save, hc]
    exact saveFresh_of_served h.willing record time.unixNanos
  | some c =>
    have hpath := h.named c hc
    by_cases hfull : log.maxSize ≤ c.size
    · cases hfound : disk.finds c.path.place with
      | true =>
        refine .inl ⟨by simp [bereft, hc, hfound], ?_⟩
        rw [hpath] at hfound
        obtain ⟨disk₁, hr, h₁⟩ := h.willing.rename hfound (isLogName_active c.created)
          (isLogName_rotated c.created time.unixNanos)
        have hput : log.putAside c time.unixNanos disk = (.ok (), disk₁) := by
          have hr : disk.rename c.path (log.pathOf (FileName.rotated c.created time.unixNanos)) =
            (.ok (), disk₁) := by rw [hpath]; exact hr
          simp only [putAside, hr]
        simp only [save, hc, if_pos hfull, hput]
        exact saveFresh_of_served h₁ record time.unixNanos
      | false =>
        refine .inr ⟨c, .rename c.path (log.pathOf (FileName.rotated c.created time.unixNanos)),
          by simp [bereft, hc, hfound, hfull], rfl, ?_⟩
        have hr : disk.rename c.path (log.pathOf (FileName.rotated c.created time.unixNanos)) =
            (.error Disk.notFound, disk.logged (.rename c.path
              (log.pathOf (FileName.rotated c.created time.unixNanos)))) := by
          rw [hpath] at hfound ⊢
          exact h.willing.rename_of_not_finds hfound (isLogName_active c.created)
        simp only [save, hc, if_pos hfull, putAside, hr]
    · refine .inl ⟨by simp [bereft, hc, hfull], ?_⟩
      simp only [save, hc, if_neg hfull]
      exact saveTo_of_served h.willing hpath record

/-- A log that is bereft stays so when more is removed. -/
theorem bereft_of_thinned (h : disk.Thinned disk') (hb : log.bereft disk = true) :
    log.bereft disk' = true := by
  unfold bereft at hb ⊢
  split at hb
  · cases hb
  · rename_i c hc
    rw [Bool.and_eq_true, Bool.not_eq_true'] at hb ⊢
    refine ⟨hb.1, Bool.eq_false_iff.mpr fun hf => ?_⟩
    rw [h.finds hf] at hb
    cases hb.2

/-- A log that is served goes on to be so when something is removed. -/
theorem Served.thinned (h : log.Served disk) (ht : disk.Thinned disk') : log.Served disk' :=
  ⟨ht.willing h.willing, h.named⟩

end

end RotatingLog

/-! ## 5. Histories -/

/-- What the log and others do. -/
inductive Act where
  | save (record : List UInt8) (time : Moment)
  /-- Someone removes a file. -/
  | removeFile (place : Place)
  /-- Someone removes a directory with all in it. -/
  | removeTree (place : Place)
  deriving DecidableEq, Repr

/-- A save, with what it found and how it ended. -/
structure Attempt where
  /-- The path of the file that records went to. -/
  current : Option Path
  /-- It was full, and no longer found under that path. -/
  bereft : Bool
  answer : Except Fault Unit
  deriving DecidableEq

namespace RotatingLog

/-- The saves among acts that are done one after another. -/
def attempts (log : RotatingLog) (disk : Disk) : List Act → List Attempt
  | [] => []
  | .save record time :: acts =>
    let (answer, log', disk') := log.save record time disk
    ⟨log.currentPath, log.bereft disk, answer⟩ :: attempts log' disk' acts
  | .removeFile place :: acts => attempts log (disk.removeFile place).2 acts
  | .removeTree place :: acts => attempts log (disk.removeTree place).2 acts

/-- The save succeeds, with a file that is there or still has room. -/
def Succeeds (a : Attempt) : Prop :=
  a.bereft = false ∧ a.answer = .ok ()

/-- The save finds the file under the path full and gone, and fails for that reason. -/
def Blocked (path : Path) (a : Attempt) : Prop :=
  a.current = some path ∧ a.bereft = true ∧
    a.answer = .error (.storage path.text Disk.notFound)

section

variable {log log' : RotatingLog} {disk disk' : Disk} {c : Cursor}

theorem attempts_save {record : List UInt8} {time : Moment} {answer : Except Fault Unit}
    (h : log.save record time disk = (answer, log', disk')) (acts : List Act) :
    log.attempts disk (.save record time :: acts) =
      ⟨log.currentPath, log.bereft disk, answer⟩ :: log'.attempts disk' acts := by
  rw [attempts, h]

/-- **A log that is bereft never saves anything again.** -/
theorem blocked_of_bereft (h : log.Served disk) (hc : log.cursor = some c)
    (hb : log.bereft disk = true) (acts : List Act) :
    ∀ a ∈ log.attempts disk acts, Blocked c.path a := by
  induction acts generalizing disk with
  | nil => exact fun a ha => absurd ha List.not_mem_nil
  | cons act acts ih =>
    cases act with
    | save record time =>
      rcases save_of_served h record time with ⟨hfree, -⟩ | ⟨c', call, -, hc', hs⟩
      · cases hb.symm.trans hfree
      · cases hc.symm.trans hc'
        rw [attempts_save hs]
        have hpath : log.currentPath = some c.path := by
          rw [currentPath, hc]
          rfl
        have hrest : ∀ a ∈ log.attempts (disk.logged call) acts, Blocked c.path a :=
          ih ⟨h.willing.logged call, h.named⟩ hb
        exact List.forall_mem_cons.mpr ⟨⟨hpath, hb, rfl⟩, hrest⟩
    | removeFile place =>
      have ht := Disk.thinned_removeFile disk place
      exact ih (h.thinned ht) (bereft_of_thinned ht hb)
    | removeTree place =>
      have ht := Disk.thinned_removeTree disk place
      exact ih (h.thinned ht) (bereft_of_thinned ht hb)

/-- **Saves succeed until one finds the log bereft; from then on all fail.** -/
theorem attempts_of_served (h : log.Served disk) (acts : List Act) :
    ∃ saved stuck, log.attempts disk acts = saved ++ stuck ∧ (∀ a ∈ saved, Succeeds a) ∧
      ∃ path, ∀ a ∈ stuck, Blocked path a := by
  induction acts generalizing log disk with
  | nil => exact ⟨[], [], rfl, nofun, log.dir, nofun⟩
  | cons act acts ih =>
    cases act with
    | save record time =>
      rcases save_of_served h record time with
        ⟨hfree, log', disk', hs, -, h'⟩ | ⟨c, call, hb, hc, -⟩
      · obtain ⟨saved, stuck, e, hsaved, hstuck⟩ := ih h'
        refine ⟨⟨log.currentPath, log.bereft disk, .ok ()⟩ :: saved, stuck, ?_, ?_, hstuck⟩
        · rw [attempts_save hs, e]
          rfl
        · exact List.forall_mem_cons.mpr ⟨⟨hfree, rfl⟩, hsaved⟩
      · exact ⟨[], log.attempts disk (.save record time :: acts), rfl, nofun, c.path,
          blocked_of_bereft h hc hb (.save record time :: acts)⟩
    | removeFile place => exact ih (h.thinned (Disk.thinned_removeFile disk place))
    | removeTree place => exact ih (h.thinned (Disk.thinned_removeTree disk place))

/-- A disk with nothing on it refuses nothing. -/
theorem willing_empty (dir : Place) : ({} : Disk).Willing dir where
  plan := rfl
  way := (Disk.holds_empty dir).way
  clear _ h := absurd h List.not_mem_nil

end

end RotatingLog

/-- A save that follows a failed one succeeds. -/
def Recovers (as : List Attempt) : Prop :=
  ∀ front a b back, as = front ++ a :: b :: back → (∃ fault, a.answer = .error fault) →
    b.answer = .ok ()

/-- **What a log answers** that others remove files from. -/
structure Answered (as : List Attempt) : Prop where
  /-- All saves succeed until one finds its file full and gone; then all fail for that reason. -/
  rows : ∃ saved stuck path, as = saved ++ stuck ∧ (∀ a ∈ saved, RotatingLog.Succeeds a) ∧
    ∀ a ∈ stuck, RotatingLog.Blocked path a
  /-- So the log recovers from every failed save exactly if only the last save finds that. -/
  recovers : Recovers as ↔ ∀ a ∈ as.dropLast, a.bereft = false

section

variable {as saved stuck : List Attempt} {path : Path}

/-- What follows a blocked save is blocked. -/
theorem pairwise_of_rows (hsaved : ∀ a ∈ saved, RotatingLog.Succeeds a)
    (hstuck : ∀ a ∈ stuck, RotatingLog.Blocked path a) :
    (saved ++ stuck).Pairwise fun a b => a.bereft = true → RotatingLog.Blocked path b := by
  refine List.pairwise_append.mpr ⟨?_, ?_, fun a ha b hb _ => hstuck b hb⟩
  · refine List.Pairwise.imp_of_mem (fun {a b} ha _ _ hbereft => ?_)
      (List.pairwise_of_forall (R := fun _ _ => True) fun _ _ => trivial)
    cases (hsaved a ha).1.symm.trans hbereft
  · exact List.Pairwise.imp_of_mem (fun _ hb _ _ => hstuck _ hb)
      (List.pairwise_of_forall (R := fun _ _ => True) fun _ _ => trivial)

theorem mem_dropLast_of_followed {front back : List Attempt} {a b : Attempt} :
    a ∈ (front ++ a :: b :: back).dropLast := by
  rw [List.dropLast_append_of_ne_nil (by simp), List.dropLast_cons_cons]
  exact List.mem_append_right _ List.mem_cons_self

/-- A save that is not the last one is followed by another. -/
theorem exists_followed {a : Attempt} (h : a ∈ as.dropLast) :
    ∃ front b back, as = front ++ a :: b :: back := by
  obtain ⟨front, mid, e⟩ := List.append_of_mem h
  have hne : as ≠ [] := fun hnil => by
    rw [hnil] at h
    cases h
  have hlast := List.dropLast_append_getLast hne
  rw [e, List.append_assoc, List.cons_append] at hlast
  cases mid with
  | nil => exact ⟨front, _, [], hlast.symm⟩
  | cons b mid => exact ⟨front, b, mid ++ [as.getLast hne], hlast.symm⟩

theorem answered_of_rows (hsaved : ∀ a ∈ saved, RotatingLog.Succeeds a)
    (hstuck : ∀ a ∈ stuck, RotatingLog.Blocked path a) : Answered (saved ++ stuck) := by
  have hpair := pairwise_of_rows hsaved hstuck
  refine ⟨⟨saved, stuck, path, rfl, hsaved, hstuck⟩, fun hr a ha => ?_,
    fun hkept front a b back e hfault => ?_⟩
  · refine Bool.eq_false_iff.mpr fun hbereft => ?_
    have hmem : a ∈ saved ++ stuck := (List.dropLast_sublist _).subset ha
    have hblocked : RotatingLog.Blocked path a := by
      rcases List.mem_append.mp hmem with hs | hs
      · cases (hsaved a hs).1.symm.trans hbereft
      · exact hstuck a hs
    obtain ⟨front, b, back, e⟩ := exists_followed ha
    have hok := hr front a b back e ⟨_, hblocked.2.2⟩
    rw [e, List.pairwise_append, List.pairwise_cons] at hpair
    have hb := hpair.2.1.1 b List.mem_cons_self hbereft
    cases hok.symm.trans hb.2.2
  · obtain ⟨fault, hfault⟩ := hfault
    have hmem : a ∈ saved ++ stuck := by
      rw [e]
      exact List.mem_append_right _ List.mem_cons_self
    rcases List.mem_append.mp hmem with hs | hs
    · cases (hsaved a hs).2.symm.trans hfault
    · have hlast : a ∈ (saved ++ stuck).dropLast := by
        rw [e]
        exact mem_dropLast_of_followed
      cases (hkept a hlast).symm.trans (hstuck a hs).2.1

end

/-- **A log recovers from a failed save unless its full file was removed.** On a disk that refuses
nothing but the renaming of a file that is not there, whatever is saved at whatever times, and
whichever files and directories others remove in between, the saves are answered as `Answered`
says. -/
theorem saves_fail_once_bereft {dir : Path} {disk : Disk} (h : disk.Willing dir.place)
    (maxSize : Nat) (acts : List Act) :
    Answered ((RotatingLog.new dir maxSize).attempts disk acts) := by
  obtain ⟨saved, stuck, e, hsaved, path, hstuck⟩ :=
    RotatingLog.attempts_of_served (RotatingLog.served_new h maxSize) acts
  rw [e]
  exact answered_of_rows hsaved hstuck

/-- The directory is removed under a file that has room, which costs nothing, and then under one
that is full: the last save fails. -/
theorem saves_fail_once_bereft_at_the_end :
    ({} : Disk).Willing ["snapshots"] ∧
      Recovers ((RotatingLog.new ⟨"snapshots", ["snapshots"]⟩ 4).attempts {}
        [.save [97] ⟨1⟩, .removeTree ["snapshots"], .save [98] ⟨2⟩, .save [99] ⟨3⟩]) := by
  have hwilling := RotatingLog.willing_empty ["snapshots"]
  exact ⟨hwilling, (@saves_fail_once_bereft ⟨"snapshots", ["snapshots"]⟩ {} hwilling 4
    [.save [97] ⟨1⟩, .removeTree ["snapshots"], .save [98] ⟨2⟩, .save [99] ⟨3⟩]).recovers.mpr
      (by decide +kernel)⟩

/-- **A file that is removed when it is full blocks the log**: the second save fails, and so does
the third. -/
theorem removed_file_blocks_the_log :
    ¬Recovers ((RotatingLog.new ⟨"snapshots", ["snapshots"]⟩ 1).attempts {}
      [.save [97] ⟨1⟩, .removeFile ["snapshots", "snapshots-1"], .save [98] ⟨2⟩,
        .save [99] ⟨3⟩]) := by
  have hrow : (RotatingLog.new ⟨"snapshots", ["snapshots"]⟩ 1).attempts {}
      [.save [97] ⟨1⟩, .removeFile ["snapshots", "snapshots-1"], .save [98] ⟨2⟩,
        .save [99] ⟨3⟩] =
      [⟨none, false, .ok ()⟩,
        ⟨some ⟨"snapshots/snapshots-1", ["snapshots", "snapshots-1"]⟩, true,
          .error (.storage "snapshots/snapshots-1" Disk.notFound)⟩,
        ⟨some ⟨"snapshots/snapshots-1", ["snapshots", "snapshots-1"]⟩, true,
          .error (.storage "snapshots/snapshots-1" Disk.notFound)⟩] := by
    decide +kernel
  intro hr
  rw [hrow] at hr
  cases hr [_] _ _ [] rfl ⟨_, rfl⟩

end Vitals.Log
