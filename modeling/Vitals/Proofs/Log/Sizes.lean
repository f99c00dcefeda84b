import Vitals.Proofs.Log.Collision
import Vitals.Proofs.Log.Exits

/-!
# How large files get

The log never asks how large its file is, but once, when it opens it. From then on it counts what it
was given to write, whether it was written or not. This file fixes

* `Stroke`, a save with the two sizes it found, the one counted and the one that the file had, the
  file that its line went to, and its calls; `RotatingLog.strokes` are those of a row of saves;
* `Unspoilt`, a file that every line went to in whole, and was flushed;
* `Sized`, the invariant: the count is never too low, and right for an unspoilt file. It is carried
  through each part of a save (`Sized.begins`, `Sized.opens`, `Sized.writes`).

Main statement: for any row of saves with any faults, a save renames once if the count has reached
the limit and never otherwise, no file is larger than the limit allows by more than a line, and
without faults every file put aside had reached the limit (`saveAll_sizes`).
-/

namespace Vitals.Log

/-! ## 1. Saves and what they found -/

/-- A call that renames. -/
def Call.isRename : Call → Bool
  | .rename _ _ => true
  | _ => false

/-- A save, with the sizes that it found and the calls that it made. -/
structure Stroke where
  answer : Except Fault Unit
  /-- The size that the log counted for the file that was open. -/
  counted : Option Nat
  /-- The size that this file had. -/
  real : Option Nat
  /-- The file that the line went to, if the save came so far as to write. -/
  file : Option FileId
  /-- The calls that name paths. -/
  calls : List Call

/-- Whether a file was open and had reached a size. -/
def hasReached (limit : Nat) (size : Option Nat) : Bool :=
  size.any fun n => decide (limit ≤ n)

/-- No write to a file has failed, and no flush. -/
def Unspoilt (id : FileId) (ss : List Stroke) : Prop :=
  ∀ s ∈ ss, s.file = some id → s.answer = .ok ()

/-- The length of the longest line of a row of saves. -/
def longestLine : List (List UInt8 × Moment) → Nat
  | [] => 0
  | (record, _) :: saves => max (RotatingLog.line record).length (longestLine saves)

namespace RotatingLog

/-- The file that a save comes to write to. -/
def target? (log : RotatingLog) (now : Nat) (disk : Disk) : Option FileId :=
  let opened (disk : Disk) : Option FileId :=
    (log.openFile now disk).1.toOption.map Cursor.handle
  match log.cursor with
  | none => opened disk
  | some c =>
    if log.maxSize ≤ c.size then
      match log.putAside c now disk with
      | (.error _, _) => none
      | (.ok (), disk) => opened disk
    else some c.handle

/-- The size of the file under the path of the one that is open. -/
def realSize (log : RotatingLog) (disk : Disk) : Option Nat :=
  log.cursor.bind fun c => (disk.fileAt? c.path.place).map fun s => s.bytes.length

/-- Saves records one after another, as `saveAll` does, with what the saves found and called. -/
def strokes (log : RotatingLog) (disk : Disk) : List (List UInt8 × Moment) → List Stroke
  | [] => []
  | (record, time) :: saves =>
    let (answer, log', disk') := log.save record time disk
    ⟨answer, log.cursor.map Cursor.size, log.realSize disk, log.target? time.unixNanos disk,
      disk'.calls.drop disk.calls.length⟩ :: strokes log' disk' saves

end RotatingLog

/-- **The sizes of a log in a directory**, after saves that went like `ss`, with a given limit and
lines no longer than `longest`: the open file and its size as counted, and the files of the disk. -/
structure Sized (dir : Path) (limit longest : Nat) (ss : List Stroke) (cursor : Option Cursor)
    (files : Files) : Prop where
  /-- The open file is there. Its size is counted, and counted rightly if it is unspoilt. -/
  there : ∀ c, cursor = some c → c.path = dir.join (String.ofList (FileName.active c.created)) ∧
    ∃ bytes, files c.path.place = some ⟨c.handle, bytes⟩ ∧ bytes.length ≤ c.size ∧
      (Unspoilt c.handle ss → c.size = bytes.length)
  /-- No other file is named like an open one. -/
  only : ∀ created s, files (dir.join (String.ofList (FileName.active created))).place = some s →
    ∃ c, cursor = some c ∧ c.created = created
  small : ∀ name s, files (dir.join name).place = some s → s.bytes.length ≤ limit - 1 + longest
  /-- An unspoilt file was put aside because it had reached the limit. -/
  aside : ∀ created put s,
    files (dir.join (String.ofList (FileName.rotated created put))).place = some s →
    Unspoilt s.id ss → limit ≤ s.bytes.length

section

variable {dir : Path} {limit longest now : Nat} {ss : List Stroke} {s : Stroke}
  {files files' : Files} {calls : List Call} {c : Cursor} {log log' : RotatingLog}
  {disk disk' disk₁ : Disk} {record : List UInt8} {answer : Except Fault Unit}

/-! ## 2. Each part of a save -/

theorem Unspoilt.of_snoc {id : FileId} (h : Unspoilt id (ss ++ [s])) : Unspoilt id ss :=
  fun t ht => h t (List.mem_append_left _ ht)

theorem line_length_le_longestLine {save : List UInt8 × Moment}
    {saves : List (List UInt8 × Moment)} (h : save ∈ saves) :
    (RotatingLog.line save.1).length ≤ longestLine saves := by
  induction saves with
  | nil => exact absurd h List.not_mem_nil
  | cons other saves ih =>
    rw [longestLine]
    rcases List.mem_cons.mp h with rfl | h
    · exact Nat.le_max_left _ _
    · exact Nat.le_trans (ih h) (Nat.le_max_right _ _)

/-- The log's names in a directory tell when a file was begun, and whether it was put aside. -/
theorem place_active_inj {created created' : Nat}
    (h : (dir.join (String.ofList (FileName.active created))).place =
      (dir.join (String.ofList (FileName.active created'))).place) : created = created' :=
  FileName.active_inj (String.ofList_injective (List.singleton_inj.mp (List.append_cancel_left h)))

theorem place_active_ne_rotated (dir : Path) (created created' put : Nat) :
    (dir.join (String.ofList (FileName.active created))).place ≠
      (dir.join (String.ofList (FileName.rotated created' put))).place := fun h =>
  FileName.active_ne_rotated _ _ _
    (String.ofList_injective (List.singleton_inj.mp (List.append_cancel_left h)))

/-- One more save does not change what is true of files. -/
theorem Sized.snoc {cursor : Option Cursor} (h : Sized dir limit longest ss cursor files)
    (s : Stroke) : Sized dir limit longest (ss ++ [s]) cursor files where
  there c hc := by
    obtain ⟨hpath, bytes, hfile, hle, heq⟩ := h.there c hc
    exact ⟨hpath, bytes, hfile, hle, fun hu => heq hu.of_snoc⟩
  only := h.only
  small := h.small
  aside created put s hs hu := h.aside created put s hs hu.of_snoc

/-- **Putting the full file aside**: no file is named like an open one any more. -/
theorem Sized.rename (h : Sized dir limit longest ss (some c) files) (hfull : limit ≤ c.size)
    (put : Nat) :
    Sized dir limit longest ss none (files.rename c.path.place
      (dir.join (String.ofList (FileName.rotated c.created put))).place) := by
  obtain ⟨hpath, bytes, hfile, hle, heq⟩ := h.there c rfl
  refine ⟨nofun, fun created s hs => ?_, fun name s hs => ?_, fun created put' s hs hu => ?_⟩
  · rw [Files.rename, if_neg (place_active_ne_rotated dir _ _ _)] at hs
    split at hs
    · cases hs
    · rename_i hne
      obtain ⟨c', hc', rfl⟩ := h.only created s hs
      cases hc'
      exact absurd (congrArg Path.place hpath).symm hne
  · rw [Files.rename] at hs
    split at hs
    · rw [hpath] at hs
      exact h.small _ s hs
    · split at hs
      · cases hs
      · exact h.small name s hs
  · rw [Files.rename] at hs
    split at hs
    · cases hfile.symm.trans hs
      rw [← heq hu]
      exact hfull
    · split at hs
      · cases hs
      · exact h.aside created put' s hs hu

/-- **Making a file**, where no file is named like an open one. -/
theorem Sized.provide (h : Sized dir limit longest ss none files) (now : Nat) (id : FileId)
    {s : Stored} (hs : files.provide (dir.join (String.ofList (FileName.active now))).place id
      (dir.join (String.ofList (FileName.active now))).place = some s) :
    s.bytes = [] ∧
      Sized dir limit longest ss
        (some ⟨dir.join (String.ofList (FileName.active now)), now, s.id, s.bytes.length⟩)
        (files.provide (dir.join (String.ofList (FileName.active now))).place id) := by
  have hnone : files (dir.join (String.ofList (FileName.active now))).place = none := by
    refine Option.eq_none_iff_forall_ne_some.mpr fun t ht => ?_
    obtain ⟨c, hc, -⟩ := h.only now t ht
    cases hc
  have hnew : s = ⟨id, []⟩ := by
    rw [Files.provide_self, hnone, Option.getD_none, Option.some_inj] at hs
    exact hs.symm
  have hbytes : s.bytes = [] := by rw [hnew]
  refine ⟨hbytes, fun c hc => ?_, fun created t ht => ?_, fun name t ht => ?_,
    fun created put t ht hu => ?_⟩
  · cases hc
    exact ⟨rfl, s.bytes, hs, Nat.le_refl _, fun _ => rfl⟩
  · by_cases he : (dir.join (String.ofList (FileName.active created))).place =
        (dir.join (String.ofList (FileName.active now))).place
    · exact ⟨_, rfl, (place_active_inj he).symm⟩
    · rw [Files.provide_of_ne he] at ht
      obtain ⟨c, hc, -⟩ := h.only created t ht
      cases hc
  · by_cases he : (dir.join name).place = (dir.join (String.ofList (FileName.active now))).place
    · rw [he] at ht
      cases hs.symm.trans ht
      rw [hbytes]
      exact Nat.zero_le _
    · rw [Files.provide_of_ne he] at ht
      exact h.small name t ht
  · rw [Files.provide_of_ne (place_active_ne_rotated dir _ _ _).symm] at ht
    exact h.aside created put t ht hu

/-- **Writing a line, or a first part of it**, to an open file that has room. The size counted grows
by the line. -/
theorem Sized.append (h : Sized dir limit longest ss (some c) files) (hroom : c.size < limit)
    {taken : List UInt8} {n : Nat} (hn : n ≤ longest) (hpart : taken.length ≤ n)
    (hwhole : s.answer = .ok () → taken.length = n) (hfile : s.file = some c.handle) :
    Sized dir limit longest (ss ++ [s]) (some { c with size := c.size + n })
      (files.append c.path.place taken) := by
  obtain ⟨hpath, bytes, hthere, hle, heq⟩ := h.there c rfl
  have happend := Files.append_self hthere taken
  refine ⟨fun c' hc' => ?_, fun created t ht => ?_, fun name t ht => ?_,
    fun created put t ht hu => ?_⟩
  · cases hc'
    refine ⟨hpath, bytes ++ taken, happend, ?_, fun hu => ?_⟩
    · rw [List.length_append]
      exact Nat.add_le_add hle hpart
    · have hok := hu s (List.mem_append_right _ List.mem_cons_self) hfile
      rw [List.length_append, hwhole hok, ← heq hu.of_snoc]
  · by_cases he : (dir.join (String.ofList (FileName.active created))).place = c.path.place
    · rw [hpath] at he
      exact ⟨_, rfl, (place_active_inj he).symm⟩
    · rw [Files.append_of_ne he] at ht
      obtain ⟨c', hc', hcreated⟩ := h.only created t ht
      cases hc'
      exact ⟨_, rfl, hcreated⟩
  · by_cases he : (dir.join name).place = c.path.place
    · rw [he, happend] at ht
      cases ht
      have hsum : (bytes ++ taken).length = bytes.length + taken.length := List.length_append
      show (bytes ++ taken).length ≤ limit - 1 + longest
      omega
    · rw [Files.append_of_ne he] at ht
      exact h.small name t ht
  · rw [hpath, Files.append_of_ne (place_active_ne_rotated dir _ _ _).symm] at ht
    exact h.aside created put t ht hu.of_snoc

namespace RotatingLog

theorem Begins.sized (hb : log.Begins now disk files calls disk₁)
    (h : Sized log.dir log.maxSize longest ss log.cursor disk.fileAt?) :
    Sized log.dir log.maxSize longest ss none files := by
  cases hb with
  | anew hc =>
    rw [hc] at h
    exact h
  | aside hc hfull hcall =>
    rw [hc] at h
    exact h.rename hfull now

theorem Opens.sized (ho : log.Opens now disk c files calls disk₁) (hpos : 0 < log.maxSize)
    (h : Sized log.dir log.maxSize longest ss log.cursor disk.fileAt?) :
    c.size < log.maxSize ∧ Sized log.dir log.maxSize longest ss (some c) files := by
  cases ho with
  | roomy hc hroom =>
    rw [hc] at h
    exact ⟨hroom, h⟩
  | fresh id hb hdir hcall hs =>
    obtain ⟨hbytes, hsized⟩ := (hb.sized h).provide now id hs
    rw [hbytes] at hsized ⊢
    exact ⟨hpos, hsized⟩

/-- The save comes to write to the file that it opens. -/
theorem Opens.target?_eq (ho : log.Opens now disk c files calls disk₁) :
    log.target? now disk = some c.handle := by
  cases ho with
  | roomy hc hroom => simp only [target?, hc, if_neg (Nat.not_le.mpr hroom)]
  | fresh id hb hdir hcall hs =>
    have hopen := openFile_of_calls hdir hcall
    cases hb with
    | anew hc =>
      simp only [target?, hc, hopen]
      rfl
    | aside hc hfull hren =>
      simp only [target?, hc, if_pos hfull, putAside_of_rename hren, hopen]
      rfl

/-- **A save keeps the sizes**, however it ends. -/
theorem Exit.sized (he : log.Exit record now disk answer log' disk') (hpos : 0 < log.maxSize)
    (h : Sized log.dir log.maxSize longest ss log.cursor disk.fileAt?)
    (hline : (line record).length ≤ longest) (hanswer : s.answer = answer)
    (hfile : s.file = log.target? now disk) :
    Sized log.dir log.maxSize longest (ss ++ [s]) log'.cursor disk'.fileAt? := by
  cases he with
  | notPutAside hc hfull hcall turns =>
    rw [turns.files]
    exact h.snoc s
  | noDirectory hb hcall turns =>
    rw [turns.files]
    exact (hb.sized h).snoc s
  | noFile hb hdir hcall turns =>
    rw [turns.files]
    exact (hb.sized h).snoc s
  | notWritten ho hold hcall hpart hrest turns =>
    obtain ⟨hroom, hsized⟩ := ho.sized hpos h
    have hle := congrArg List.length hpart
    rw [List.length_append] at hle
    rw [turns.files]
    exact hsized.append hroom hline (by omega)
      (fun hok => absurd (hanswer.symm.trans hok) nofun) (hfile.trans ho.target?_eq)
  | notFlushed ho hold hwrite hcall turns =>
    obtain ⟨hroom, hsized⟩ := ho.sized hpos h
    rw [turns.files]
    exact hsized.append hroom hline (Nat.le_refl _) (fun _ => rfl) (hfile.trans ho.target?_eq)
  | saved ho hold hwrite hcall turns =>
    obtain ⟨hroom, hsized⟩ := ho.sized hpos h
    rw [turns.files]
    exact hsized.append hroom hline (Nat.le_refl _) (fun _ => rfl) (hfile.trans ho.target?_eq)

theorem Exit.dir_eq (he : log.Exit record now disk answer log' disk') : log'.dir = log.dir := by
  cases he <;> rfl

theorem Exit.maxSize_eq (he : log.Exit record now disk answer log' disk') :
    log'.maxSize = log.maxSize := by
  cases he <;> rfl

theorem Begins.renames (hb : log.Begins now disk files calls disk₁) :
    calls.countP Call.isRename =
      if hasReached log.maxSize (log.cursor.map Cursor.size) then 1 else 0 := by
  cases hb with
  | anew hc => simp [hc, hasReached]
  | aside hc hfull hcall => simp [hc, hasReached, hfull, Call.isRename]

theorem Opens.renames (ho : log.Opens now disk c files calls disk₁) :
    calls.countP Call.isRename =
      if hasReached log.maxSize (log.cursor.map Cursor.size) then 1 else 0 := by
  cases ho with
  | roomy hc hroom => simp [hc, hasReached, hroom]
  | fresh id hb hdir hcall hs =>
    rw [List.countP_append, hb.renames]
    rfl

/-- **A save renames once if the size that it counts has reached the limit**, and never
otherwise. -/
theorem Exit.renames (he : log.Exit record now disk answer log' disk') :
    disk'.calls = disk.calls ++ disk'.calls.drop disk.calls.length ∧
      (disk'.calls.drop disk.calls.length).countP Call.isRename =
        if hasReached log.maxSize (log.cursor.map Cursor.size) then 1 else 0 := by
  obtain ⟨calls, hcalls, hcount⟩ : ∃ calls, disk'.calls = disk.calls ++ calls ∧
      calls.countP Call.isRename =
        if hasReached log.maxSize (log.cursor.map Cursor.size) then 1 else 0 := by
    cases he with
    | notPutAside hc hfull hcall turns =>
      refine ⟨_, turns.calls, ?_⟩
      simp [hc, hasReached, hfull, Call.isRename]
    | noDirectory hb hcall turns =>
      refine ⟨_, turns.calls, ?_⟩
      rw [List.countP_append, hb.renames]
      rfl
    | noFile hb hdir hcall turns =>
      refine ⟨_, turns.calls, ?_⟩
      rw [List.countP_append, hb.renames]
      rfl
    | notWritten ho hold hcall hpart hrest turns => exact ⟨_, turns.calls, ho.renames⟩
    | notFlushed ho hold hwrite hcall turns => exact ⟨_, turns.calls, ho.renames⟩
    | saved ho hold hwrite hcall turns => exact ⟨_, turns.calls, ho.renames⟩
  rw [hcalls, List.drop_left]
  exact ⟨rfl, hcount⟩

/-! ## 3. Rows of saves -/

theorem strokes_cons {time : Moment} (h : log.save record time disk = (answer, log', disk'))
    (saves : List (List UInt8 × Moment)) :
    log.strokes disk ((record, time) :: saves) =
      ⟨answer, log.cursor.map Cursor.size, log.realSize disk, log.target? time.unixNanos disk,
        disk'.calls.drop disk.calls.length⟩ :: log'.strokes disk' saves := by
  rw [strokes, h]

theorem saveAll_cons {time : Moment} (h : log.save record time disk = (answer, log', disk'))
    (saves : List (List UInt8 × Moment)) :
    log.saveAll disk ((record, time) :: saves) =
      { log'.saveAll disk' saves with answers := answer :: (log'.saveAll disk' saves).answers } :=
  carryOut_save h _

theorem strokes_answers (log : RotatingLog) (disk : Disk) (saves : List (List UInt8 × Moment)) :
    (log.strokes disk saves).map Stroke.answer = (log.saveAll disk saves).answers := by
  induction saves generalizing log disk with
  | nil => rfl
  | cons save saves ih =>
    obtain ⟨answer, log', disk', hs⟩ : ∃ answer log' disk',
      log.save save.1 save.2 disk = (answer, log', disk') := ⟨_, _, _, rfl⟩
    rw [strokes_cons hs, saveAll_cons hs, List.map_cons, ih]

/-- **The calls of a row of saves**, with a rename wherever the size counted has reached the
limit. -/
theorem Sits.strokes_calls (h : log.Sits disk) (saves : List (List UInt8 × Moment)) :
    (log.saveAll disk saves).disk.calls =
        disk.calls ++ (log.strokes disk saves).flatMap Stroke.calls ∧
      ∀ s ∈ log.strokes disk saves,
        s.calls.countP Call.isRename = if hasReached log.maxSize s.counted then 1 else 0 := by
  induction saves generalizing log disk with
  | nil => exact ⟨(List.append_nil _).symm, fun s hs => absurd hs List.not_mem_nil⟩
  | cons save saves ih =>
    obtain ⟨answer, log', disk', hs, hexit⟩ := h.exit save.1 save.2
    obtain ⟨hcalls, hcount⟩ := hexit.renames
    obtain ⟨hmore, hall⟩ := ih (hexit.sits h)
    rw [hexit.maxSize_eq] at hall
    rw [strokes_cons hs, saveAll_cons hs]
    refine ⟨?_, List.forall_mem_cons.mpr ⟨hcount, hall⟩⟩
    rw [List.flatMap_cons, ← List.append_assoc, ← hcalls]
    exact hmore

end RotatingLog

/-- The size counted is the size that the file has, if no save has failed so far. -/
theorem Sized.counted_eq_real
    (h : Sized dir limit longest ss log.cursor disk.fileAt?) (hok : ∀ s ∈ ss, s.answer = .ok ()) :
    log.cursor.map Cursor.size = log.realSize disk := by
  cases hc : log.cursor with
  | none => rw [RotatingLog.realSize, hc, Option.map_none, Option.bind_none]
  | some c =>
    obtain ⟨-, bytes, hfile, -, heq⟩ := h.there c hc
    rw [RotatingLog.realSize, hc, Option.map_some, Option.bind_some, hfile, Option.map_some,
      heq fun s hs _ => hok s hs]

/-- **A row of saves keeps the sizes**, and finds them as counted if none of it fails. -/
theorem Sized.saveAll (h : Sized log.dir log.maxSize longest ss log.cursor disk.fileAt?)
    (hsits : log.Sits disk) (hpos : 0 < log.maxSize) (saves : List (List UInt8 × Moment))
    (hlines : ∀ save ∈ saves, (RotatingLog.line save.1).length ≤ longest) :
    Sized log.dir log.maxSize longest (ss ++ log.strokes disk saves)
        (log.saveAll disk saves).log.cursor (log.saveAll disk saves).disk.fileAt? ∧
      ((∀ s ∈ ss ++ log.strokes disk saves, s.answer = .ok ()) →
        ∀ s ∈ log.strokes disk saves, s.counted = s.real) := by
  induction saves generalizing log disk ss with
  | nil =>
    rw [RotatingLog.strokes, List.append_nil]
    exact ⟨h, fun _ s hs => absurd hs List.not_mem_nil⟩
  | cons save saves ih =>
    obtain ⟨answer, log', disk', hs, hexit⟩ := hsits.exit save.1 save.2
    have hnext := hexit.sized (s := ⟨answer, log.cursor.map Cursor.size, log.realSize disk,
      log.target? save.2.unixNanos disk, disk'.calls.drop disk.calls.length⟩) hpos h
      (hlines save List.mem_cons_self) rfl rfl
    rw [← hexit.dir_eq, ← hexit.maxSize_eq] at hnext
    obtain ⟨hsized, hreal⟩ := ih hnext (hexit.sits hsits) (hexit.maxSize_eq ▸ hpos)
      fun save hsave => hlines save (List.mem_cons_of_mem _ hsave)
    rw [hexit.dir_eq, hexit.maxSize_eq, List.append_assoc, List.singleton_append] at hsized
    rw [List.append_assoc, List.singleton_append] at hreal
    rw [RotatingLog.strokes_cons hs, RotatingLog.saveAll_cons hs]
    refine ⟨hsized, fun hok => List.forall_mem_cons.mpr ⟨?_, hreal hok⟩⟩
    exact h.counted_eq_real fun t ht => hok t (List.mem_append_left _ ht)

/-- Renames are counted save by save. -/
theorem countP_flatMap_calls {p : Stroke → Bool}
    (h : ∀ s ∈ ss, s.calls.countP Call.isRename = if p s then 1 else 0) :
    (ss.flatMap Stroke.calls).countP Call.isRename = ss.countP p := by
  induction ss with
  | nil => rfl
  | cons s ss ih =>
    obtain ⟨hs, hss⟩ := List.forall_mem_cons.mp h
    rw [List.flatMap_cons, List.countP_append, hs, ih hss, List.countP_cons, Nat.add_comm]

end

/-! ## 4. How large files get -/

/-- **What limits the size of files**: for saves that went like `ss`, and what they left of a
directory that was empty. -/
structure Measures (dir : Path) (limit longest : Nat) (ss : List Stroke) (after : Aftermath) :
    Prop where
  /-- The size that the log counts is at least that of its file, and the same unless a write or a
  flush has failed on it. -/
  counted : ∀ c, after.log.cursor = some c →
    ∃ bytes, after.disk.fileAt? c.path.place = some ⟨c.handle, bytes⟩ ∧ bytes.length ≤ c.size ∧
      (Unspoilt c.handle ss → c.size = bytes.length)
  /-- A save renames once if the size that it counts has reached the limit, and never otherwise. -/
  renames : ∀ s ∈ ss, s.calls.countP Call.isRename = if hasReached limit s.counted then 1 else 0
  /-- No file is above the limit by a whole line. -/
  small : ∀ name s, after.disk.fileAt? (dir.join name).place = some s →
    s.bytes.length ≤ limit - 1 + longest
  /-- A file that was put aside had reached the limit, unless a write or a flush failed on it. -/
  aside : ∀ created put s,
    after.disk.fileAt? (dir.join (String.ofList (FileName.rotated created put))).place = some s →
    Unspoilt s.id ss → limit ≤ s.bytes.length
  /-- Without faults, every file put aside had reached the limit, and there are as many renames as
  saves that found their file at it. -/
  faultless : (∀ s ∈ ss, s.answer = .ok ()) →
    (∀ created put s,
      after.disk.fileAt? (dir.join (String.ofList (FileName.rotated created put))).place = some s →
      limit ≤ s.bytes.length) ∧
    (ss.flatMap Stroke.calls).countP Call.isRename =
      ss.countP fun s => hasReached limit s.real

section

variable {disk : Disk} {dir : Path}

/-- In a directory without files, nothing has a size. -/
theorem sized_empty (hempty : ∀ name, disk.fileAt? (dir.join name).place = none)
    (limit longest : Nat) : Sized dir limit longest [] none disk.fileAt? := by
  have hnone : ∀ {name s}, disk.fileAt? (dir.join name).place ≠ some s := by
    intro name s hs
    rw [hempty name] at hs
    cases hs
  exact ⟨nofun, fun _ _ hs => absurd hs hnone, fun _ _ hs => absurd hs hnone,
    fun _ _ _ hs => absurd hs hnone⟩

/-- **Files stay small, whatever fails.** On a disk in order, with any faults in store, in a
directory without files, with any size limit and any records saved at any times, the saves and what
they leave are limited as `Measures` says. The answers and the calls of `strokes` are those of the
row of saves; and on a disk without faults, where the directory is empty or still to be made, none
of them fails. -/
theorem saveAll_sizes (hdisk : disk.Tidy)
    (hempty : ∀ name, disk.fileAt? (dir.join name).place = none) (maxSize : Nat)
    (saves : List (List UInt8 × Moment)) :
    let log := RotatingLog.new dir maxSize
    let ss := log.strokes disk saves
    let after := log.saveAll disk saves
    Measures dir (max maxSize 1) (longestLine saves) ss after ∧
      ss.map Stroke.answer = after.answers ∧
      after.disk.calls = disk.calls ++ ss.flatMap Stroke.calls ∧
      (disk.Holds dir.place [] → ∀ s ∈ ss, s.answer = .ok ()) := by
  intro log ss after
  have hsits : log.Sits disk := ⟨hdisk, nofun, nofun⟩
  have hpos : 0 < log.maxSize := Nat.lt_of_lt_of_le Nat.one_pos (Nat.le_max_right _ _)
  obtain ⟨hsized, hreal⟩ := (sized_empty hempty log.maxSize (longestLine saves)).saveAll hsits hpos
    saves fun save hsave => line_length_le_longestLine hsave
  rw [List.nil_append] at hsized hreal
  obtain ⟨hcalls, hrenames⟩ := hsits.strokes_calls saves
  have hanswers := log.strokes_answers disk saves
  refine ⟨⟨fun c hc => (hsized.there c hc).2, hrenames, hsized.small, hsized.aside,
    fun hok => ⟨fun created put s hs => ?_, ?_⟩⟩, hanswers, hcalls, fun hholds s hs => ?_⟩
  · exact hsized.aside created put s hs fun t ht _ => hok t ht
  · refine countP_flatMap_calls fun s hs => ?_
    rw [hrenames s hs, hreal hok s hs]
    rfl
  · refine (saveAll_of_keeps (RotatingLog.keeps_new hholds maxSize) tallied_nil saves).1 _ ?_
    rw [← hanswers]
    exact List.mem_map_of_mem hs

/-- A write fails after one byte, and then a rename: the second save renames in vain, and the file
that the third one puts aside has one byte where three were counted. -/
theorem saveAll_sizes_torn :
    let disk : Disk := { plan := {
      rename := [some "Device or resource busy"]
      write := [.short 1, .failed "No space left on device"] } }
    let saves : List (List UInt8 × Moment) := [([97, 98], ⟨1⟩), ([99], ⟨2⟩), ([100], ⟨3⟩)]
    let log := RotatingLog.new ⟨"snapshots", ["snapshots"]⟩ 3
    (log.strokes disk saves).map (fun s => s.calls.countP Call.isRename) = [0, 1, 1] ∧
      (log.saveAll disk saves).disk.files =
        [(["snapshots", "snapshots-1-3"], [97]), (["snapshots", "snapshots-3"], [100, 10])] ∧
      Measures ⟨"snapshots", ["snapshots"]⟩ 3 3 (log.strokes disk saves)
        (log.saveAll disk saves) := by
  intro disk saves log
  exact ⟨by decide +kernel, by decide +kernel,
    (@saveAll_sizes disk ⟨"snapshots", ["snapshots"]⟩ (Disk.tidy_empty _)
      (fun _ => Disk.fileAt?_empty _ _) 3 saves).1⟩

end

end Vitals.Log
