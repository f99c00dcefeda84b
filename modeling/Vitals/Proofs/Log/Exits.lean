import Vitals.Log.Rotating
import Vitals.Proofs.Log.Calls
import Vitals.Proofs.Log.FileName

/-!
# How a save ends

A save may have to put the full file aside, to make the directory and to open a file; then it writes
a line and flushes. Each of these calls may fail, and each failure has its own end. This file fixes

* `RotatingLog.Reachable`, the states a log gets into, whatever fails, and whatever others do to the
  disk short of taking its open file from under it;
* `RotatingLog.Begins` and `RotatingLog.Opens`, a save that has come as far as beginning a file, and
  one that has come as far as writing;
* `RotatingLog.Exit`, the six ways in which a save ends, with its answer, the log and the files it
  leaves, and all calls it has made that name paths.

Main statement: in every state a log gets into, every save ends in one of these ways (`save_exits`).
-/

namespace Vitals.Log

namespace RotatingLog

/-! ## 1. The ends of a save -/

/-- The path that a file gets when it is put aside. -/
def asidePath (log : RotatingLog) (c : Cursor) (now : Nat) : Path :=
  log.pathOf (FileName.rotated c.created now)

/-- The path of a file begun at `now`. -/
def freshPath (log : RotatingLog) (now : Nat) : Path :=
  log.pathOf (FileName.active now)

/-- The log without an open file. -/
def bare (log : RotatingLog) : RotatingLog :=
  { log with cursor := none }

/-- The log with a file open, to which a line was to go: it counts, whether it went there or not. -/
def counting (log : RotatingLog) (c : Cursor) (record : List UInt8) : RotatingLog :=
  { log with cursor := some { c with size := c.size + (line record).length } }

/-- **A save that has to begin a file**: none is open, or one is, and was full and has been put
aside. What has become of the files, by which calls, and on which disk. -/
inductive Begins (log : RotatingLog) (now : Nat) (disk : Disk) :
    Files → List Call → Disk → Prop where
  | anew (hc : log.cursor = none) : Begins log now disk disk.fileAt? [] disk
  | aside {c : Cursor} {disk₁ : Disk} (hc : log.cursor = some c) (hfull : log.maxSize ≤ c.size)
      (hcall : disk.rename c.path (log.asidePath c now) = (.ok (), disk₁)) :
      Begins log now disk (disk.fileAt?.rename c.path.place (log.asidePath c now).place)
        [.rename c.path (log.asidePath c now)] disk₁

/-- **A save that comes to writing**: the file that is open has room, or one has been begun. To
which file the record goes, what has become of the files, by which calls, and on which disk. -/
inductive Opens (log : RotatingLog) (now : Nat) (disk : Disk) :
    Cursor → Files → List Call → Disk → Prop where
  | roomy {c : Cursor} (hc : log.cursor = some c) (hroom : c.size < log.maxSize) :
      Opens log now disk c disk.fileAt? [] disk
  | fresh {files : Files} {calls : List Call} {disk₁ disk₂ disk₃ : Disk} {s : Stored} (id : FileId)
      (hb : Begins log now disk files calls disk₁)
      (hdir : disk₁.makeDirs log.dir = (.ok (), disk₂))
      (hcall : disk₂.openAppend (log.freshPath now) = (.ok (s.id, s.bytes.length), disk₃))
      (hs : files.provide (log.freshPath now).place id (log.freshPath now).place = some s) :
      Opens log now disk ⟨log.freshPath now, now, s.id, s.bytes.length⟩
        (files.provide (log.freshPath now).place id)
        (calls ++ [.makeDirs log.dir, .openFile (log.freshPath now)]) disk₃

/-- **The ends of a save** of `record` at `now`: what it answers, and which log and disk it leaves.
In each, `turns` says what has become of all the files, and which calls have named paths. -/
inductive Exit (log : RotatingLog) (record : List UInt8) (now : Nat) (disk : Disk) :
    Except Fault Unit → RotatingLog → Disk → Prop where
  /-- The full file cannot be renamed: this is the only call, and nothing changes. -/
  | notPutAside {c : Cursor} {reason : String} {disk' : Disk} (hc : log.cursor = some c)
      (hfull : log.maxSize ≤ c.size)
      (hcall : disk.rename c.path (log.asidePath c now) = (.error reason, disk'))
      (turns : disk.Turns disk.fileAt? [.rename c.path (log.asidePath c now)] disk') :
      Exit log record now disk (.error (.storage c.path.text reason)) log disk'
  /-- The directory cannot be made: no file is open any more. -/
  | noDirectory {files : Files} {calls : List Call} {reason : String} {disk₁ disk' : Disk}
      (hb : Begins log now disk files calls disk₁)
      (hcall : disk₁.makeDirs log.dir = (.error reason, disk'))
      (turns : disk.Turns files (calls ++ [.makeDirs log.dir]) disk') :
      Exit log record now disk (.error (.storage log.dir.text reason)) log.bare disk'
  /-- The new file cannot be opened: no file is open any more. -/
  | noFile {files : Files} {calls : List Call} {reason : String} {disk₁ disk₂ disk' : Disk}
      (hb : Begins log now disk files calls disk₁)
      (hdir : disk₁.makeDirs log.dir = (.ok (), disk₂))
      (hcall : disk₂.openAppend (log.freshPath now) = (.error reason, disk'))
      (turns : disk.Turns files (calls ++ [.makeDirs log.dir, .openFile (log.freshPath now)])
        disk') :
      Exit log record now disk (.error (.storage (log.freshPath now).text reason)) log.bare disk'
  /-- The line cannot be written: a first part of it stands behind what the file held. -/
  | notWritten {c : Cursor} {files : Files} {calls : List Call} {old taken rest : List UInt8}
      {reason : String} {disk₁ disk' : Disk} (ho : Opens log now disk c files calls disk₁)
      (hold : files c.path.place = some ⟨c.handle, old⟩)
      (hcall : disk₁.writeAll c.handle (line record) = (.error reason, disk'))
      (hpart : line record = taken ++ rest) (hrest : rest ≠ [])
      (turns : disk.Turns (files.append c.path.place taken) calls disk') :
      Exit log record now disk (.error (.storage c.path.text reason)) (log.counting c record) disk'
  /-- The line is written, and cannot be flushed. -/
  | notFlushed {c : Cursor} {files : Files} {calls : List Call} {old : List UInt8}
      {reason : String} {disk₁ disk₂ disk' : Disk} (ho : Opens log now disk c files calls disk₁)
      (hold : files c.path.place = some ⟨c.handle, old⟩)
      (hwrite : disk₁.writeAll c.handle (line record) = (.ok (), disk₂))
      (hcall : disk₂.flush = (.error reason, disk'))
      (turns : disk.Turns (files.append c.path.place (line record)) calls disk') :
      Exit log record now disk (.error (.storage c.path.text reason)) (log.counting c record) disk'
  /-- The line is written and flushed. -/
  | saved {c : Cursor} {files : Files} {calls : List Call} {old : List UInt8}
      {disk₁ disk₂ disk' : Disk} (ho : Opens log now disk c files calls disk₁)
      (hold : files c.path.place = some ⟨c.handle, old⟩)
      (hwrite : disk₁.writeAll c.handle (line record) = (.ok (), disk₂))
      (hcall : disk₂.flush = (.ok (), disk'))
      (turns : disk.Turns (files.append c.path.place (line record)) calls disk') :
      Exit log record now disk (.ok ()) (log.counting c record) disk'

/-- **The states of a log**, with the disks it finds itself on. Whatever the plan of the disk has in
store, saves follow one another, and others do what they like in between, as long as they leave the
file that is open under its path. -/
inductive Reachable : RotatingLog → Disk → Prop where
  | new {disk : Disk} (dir : Path) (maxSize : Nat) (h : disk.Tidy) :
      Reachable (new dir maxSize) disk
  | save {log log' : RotatingLog} {disk disk' : Disk} {answer : Except Fault Unit}
      (h : Reachable log disk) (record : List UInt8) (time : Moment)
      (hs : log.save record time disk = (answer, log', disk')) : Reachable log' disk'
  | others {log : RotatingLog} {disk disk' : Disk} (h : Reachable log disk) (htidy : disk'.Tidy)
      (hleft : ∀ c, log.cursor = some c →
        ∃ bytes, disk'.fileAt? c.path.place = some ⟨c.handle, bytes⟩) :
      Reachable log disk'

/-- **A log that sits on its disk**: the file that is open lies under its path. -/
structure Sits (log : RotatingLog) (disk : Disk) : Prop where
  tidy : disk.Tidy
  named : ∀ c, log.cursor = some c → c.path = log.pathOf (FileName.active c.created)
  there : ∀ c, log.cursor = some c →
    ∃ bytes, disk.fileAt? c.path.place = some ⟨c.handle, bytes⟩

section

variable {log log' : RotatingLog} {disk disk' disk₁ : Disk} {record : List UInt8} {now : Nat}
  {c : Cursor} {files : Files} {calls : List Call} {answer : Except Fault Unit}

/-! ## 2. Each part of a save -/

theorem active_ne_aside (log : RotatingLog) (created put now : Nat) :
    (log.pathOf (FileName.active created)).place ≠
      (log.pathOf (FileName.rotated put now)).place := by
  intro h
  have hname := List.singleton_inj.mp (List.append_cancel_left h)
  exact FileName.active_ne_rotated created put now (String.ofList_injective hname)

theorem Sits.ne_aside (h : log.Sits disk) (hc : log.cursor = some c) (now : Nat) :
    c.path.place ≠ (log.asidePath c now).place := by
  rw [h.named c hc]
  exact active_ne_aside log c.created c.created now

theorem openFile_of_calls {disk₂ disk₃ : Disk} {id : FileId} {size : Nat}
    (hdir : disk₁.makeDirs log.dir = (.ok (), disk₂))
    (hcall : disk₂.openAppend (log.freshPath now) = (.ok (id, size), disk₃)) :
    log.openFile now disk₁ = (.ok ⟨log.freshPath now, now, id, size⟩, disk₃) := by
  rw [freshPath] at hcall ⊢
  simp only [openFile, hdir, hcall]

theorem putAside_of_rename (hcall : disk.rename c.path (log.asidePath c now) = (.ok (), disk₁)) :
    log.putAside c now disk = (.ok (), disk₁) := by
  rw [asidePath] at hcall
  rw [RotatingLog.putAside, hcall]

/-- **Putting a full file aside** fails, or a file is begun. -/
theorem Sits.putAside (h : log.Sits disk) (hc : log.cursor = some c)
    (hfull : log.maxSize ≤ c.size) (now : Nat) :
    (∃ reason disk', log.putAside c now disk = (.error (.storage c.path.text reason), disk') ∧
        disk.rename c.path (log.asidePath c now) = (.error reason, disk') ∧
        disk.Turns disk.fileAt? [.rename c.path (log.asidePath c now)] disk') ∨
      ∃ files calls disk₁, log.putAside c now disk = (.ok (), disk₁) ∧
        log.Begins now disk files calls disk₁ ∧ disk.Turns files calls disk₁ := by
  obtain ⟨bytes, hthere⟩ := h.there c hc
  obtain ⟨answer, disk', hcall, hend⟩ := h.tidy.rename hthere (h.ne_aside hc now)
  rcases hend with ⟨⟨reason, rfl⟩, hturns⟩ | ⟨rfl, hturns⟩
  · refine .inl ⟨reason, disk', ?_, hcall, hturns⟩
    rw [asidePath] at hcall
    rw [RotatingLog.putAside, hcall]
  · exact .inr ⟨_, _, disk', putAside_of_rename hcall, .aside hc hfull hcall, hturns⟩

/-- The file that a record goes to is named as it should be. -/
theorem Opens.named (ho : log.Opens now disk c files calls disk₁) (h : log.Sits disk) :
    c.path = log.pathOf (FileName.active c.created) := by
  cases ho with
  | roomy hc => exact h.named c hc
  | fresh => rfl

/-- **Writing the line**: it goes to the file in whole or in part, and the save ends. -/
theorem Opens.exit (ho : log.Opens now disk c files calls disk₁)
    (hturns : disk.Turns files calls disk₁) {old : List UInt8}
    (hold : files c.path.place = some ⟨c.handle, old⟩) (record : List UInt8) :
    ∃ answer log' disk', log.saveTo c record disk₁ = (answer, log', disk') ∧
      log.Exit record now disk answer log' disk' := by
  have hold₁ : disk₁.fileAt? c.path.place = some ⟨c.handle, old⟩ := by rw [hturns.files, hold]
  obtain ⟨written, taken, disk₂, hwrite, hturns₂, hend⟩ := hturns.tidy.writeAll hold₁ (line record)
  rw [hturns.files] at hturns₂
  have hboth := hturns.trans hturns₂
  rw [List.append_nil] at hboth
  rcases hend with ⟨rfl, rfl⟩ | ⟨⟨reason, rfl⟩, rest, hrest, hpart⟩
  · obtain ⟨flushed, disk₃, hflush, hturns₃⟩ := hturns₂.tidy.flush
    rw [hturns₂.files] at hturns₃
    have hall := hboth.trans hturns₃
    rw [List.append_nil] at hall
    cases flushed with
    | error reason =>
      refine ⟨_, _, disk₃, ?_, .notFlushed ho hold hwrite hflush hall⟩
      simp only [saveTo, append, hwrite, hflush, counting]
    | ok u =>
      refine ⟨_, _, disk₃, ?_, .saved ho hold hwrite hflush hall⟩
      simp only [saveTo, append, hwrite, hflush, counting]
  · refine ⟨_, _, disk₂, ?_, .notWritten ho hold hwrite hpart hrest hboth⟩
    simp only [saveTo, append, hwrite, counting]

/-- **Beginning a file**: the directory or the file fails, or the line is written to it. -/
theorem Begins.exit (hb : log.Begins now disk files calls disk₁)
    (hturns : disk.Turns files calls disk₁) (record : List UInt8) :
    ∃ answer log' disk', log.saveFresh record now disk₁ = (answer, log', disk') ∧
      log.Exit record now disk answer log' disk' := by
  obtain ⟨made, disk₂, hdir, hturns₂⟩ := hturns.tidy.makeDirs log.dir
  rw [hturns.files] at hturns₂
  have hboth := hturns.trans hturns₂
  cases made with
  | error reason =>
    refine ⟨_, _, disk₂, ?_, .noDirectory hb hdir hboth⟩
    simp only [saveFresh, openFile, hdir, bare]
  | ok u =>
    obtain ⟨opened, disk₃, hopen, hend⟩ := hturns₂.tidy.openAppend (log.freshPath now)
    rw [hturns₂.files] at hend
    rcases hend with ⟨⟨reason, rfl⟩, hturns₃⟩ | ⟨s, rfl, hs, hturns₃⟩
    · have hall := hboth.trans hturns₃
      rw [List.append_assoc] at hall
      refine ⟨_, _, disk₃, ?_, .noFile hb hdir hopen hall⟩
      rw [freshPath] at hopen ⊢
      simp only [saveFresh, openFile, hdir, hopen, bare]
    · have hall := hboth.trans hturns₃
      rw [List.append_assoc] at hall
      have hprovided : files.provide (log.freshPath now).place disk₂.contents.length
          (log.freshPath now).place = some s := by rw [Files.provide_self, hs]
      have ho := Opens.fresh disk₂.contents.length hb hdir hopen hprovided
      obtain ⟨answer, log', disk', hsave, hexit⟩ := ho.exit hall hprovided record
      refine ⟨answer, log', disk', ?_, hexit⟩
      rw [saveFresh, openFile_of_calls hdir hopen]
      exact hsave

/-! ## 3. Saves -/

/-- **Every save of a log that sits on its disk ends as it should.** -/
theorem Sits.exit (h : log.Sits disk) (record : List UInt8) (time : Moment) :
    ∃ answer log' disk', log.save record time disk = (answer, log', disk') ∧
      log.Exit record time.unixNanos disk answer log' disk' := by
  cases hc : log.cursor with
  | none =>
    obtain ⟨answer, log', disk', hsave, hexit⟩ :=
      (Begins.anew hc).exit h.tidy.turns record
    exact ⟨answer, log', disk', by simp only [save, hc, hsave], hexit⟩
  | some c =>
    by_cases hfull : log.maxSize ≤ c.size
    · rcases h.putAside hc hfull time.unixNanos with
        ⟨reason, disk', hput, hcall, hturns⟩ | ⟨files, calls, disk₁, hput, hb, hturns⟩
      · refine ⟨_, _, disk', ?_, .notPutAside hc hfull hcall hturns⟩
        simp only [save, hc, if_pos hfull, hput]
      · obtain ⟨answer, log', disk', hsave, hexit⟩ := hb.exit hturns record
        exact ⟨answer, log', disk', by simp only [save, hc, if_pos hfull, hput, hsave], hexit⟩
    · obtain ⟨old, hold⟩ := h.there c hc
      have ho : log.Opens time.unixNanos disk c disk.fileAt? [] disk :=
        .roomy hc (Nat.lt_of_not_le hfull)
      obtain ⟨answer, log', disk', hsave, hexit⟩ := ho.exit h.tidy.turns hold record
      exact ⟨answer, log', disk', by simp only [save, hc, if_neg hfull, hsave], hexit⟩

/-- A log that wrote to a file sits on its disk. -/
theorem Sits.counting (h : log.Sits disk) (ho : log.Opens now disk c files calls disk₁)
    {old taken : List UInt8} (hold : files c.path.place = some ⟨c.handle, old⟩)
    (hturns : disk.Turns (files.append c.path.place taken) calls disk') (record : List UInt8) :
    (log.counting c record).Sits disk' := by
  refine ⟨hturns.tidy, fun c' hc' => ?_, fun c' hc' => ?_⟩
  · cases hc'
    exact ho.named h
  · cases hc'
    refine ⟨old ++ taken, ?_⟩
    rw [hturns.files]
    exact Files.append_self hold taken

/-- However a save ends, the log sits on its disk. -/
theorem Exit.sits (he : log.Exit record now disk answer log' disk') (h : log.Sits disk) :
    log'.Sits disk' := by
  cases he with
  | notPutAside hc hfull hcall turns =>
    refine ⟨turns.tidy, h.named, ?_⟩
    rw [turns.files]
    exact h.there
  | noDirectory hb hcall turns => exact ⟨turns.tidy, nofun, nofun⟩
  | noFile hb hdir hcall turns => exact ⟨turns.tidy, nofun, nofun⟩
  | notWritten ho hold hcall hpart hrest turns => exact h.counting ho hold turns record
  | notFlushed ho hold hwrite hcall turns => exact h.counting ho hold turns record
  | saved ho hold hwrite hcall turns => exact h.counting ho hold turns record

/-- **A log sits on its disk in every state it gets into.** -/
theorem Reachable.sits (h : Reachable log disk) : log.Sits disk := by
  induction h with
  | new dir maxSize h => exact ⟨h, nofun, nofun⟩
  | save _ record time hs ih =>
    obtain ⟨answer, log', disk', hsave, hexit⟩ := ih.exit record time
    cases hs.symm.trans hsave
    exact hexit.sits ih
  | others _ htidy hleft ih => exact ⟨htidy, ih.named, hleft⟩

/-- **How every save ends.** In every state a log gets into, every save at every time ends in one of
the ways of `Exit`. -/
theorem save_exits (h : Reachable log disk) (record : List UInt8) (time : Moment) :
    ∃ answer log' disk', log.save record time disk = (answer, log', disk') ∧
      log.Exit record time.unixNanos disk answer log' disk' :=
  h.sits.exit record time

/-- The disk takes one byte of the second line and no more: the file is torn, and the save says
so. -/
theorem save_exits_cut_short : ∃ log disk, Reachable log disk ∧ ∃ answer log' disk',
    log.save [98] ⟨2⟩ disk = (answer, log', disk') ∧
      log.Exit [98] 2 disk answer log' disk' ∧
      answer = .error (.storage "snapshots/snapshots-1" "No space left on device") ∧
      disk'.files = [(["snapshots", "snapshots-1"], [97, 10, 98])] := by
  have hreached : Reachable _ _ := .save
    (.new ⟨"snapshots", ["snapshots"]⟩ 8 (Disk.tidy_empty
      { write := [.none, .interrupted, .short 1, .failed "No space left on device"] }))
    [97] ⟨1⟩ rfl
  refine ⟨_, _, hreached, ?_⟩
  obtain ⟨answer, log', disk', hsave, hexit⟩ := save_exits hreached [98] ⟨2⟩
  have hanswer := congrArg Prod.fst hsave
  have hfiles := congrArg (fun x => x.2.2.files) hsave
  exact ⟨answer, log', disk', hsave, hexit, hanswer.symm.trans (by decide +kernel),
    hfiles.symm.trans (by decide +kernel)⟩

end

end RotatingLog

end Vitals.Log
