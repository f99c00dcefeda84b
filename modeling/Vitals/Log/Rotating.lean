import Vitals.Moment
import Vitals.Fault
import Vitals.Log.FileName
import Vitals.Log.Disk

/-!
# The rotating log

Records are appended, one per line, to a file that is put aside under another name as soon as a
save finds it at or above the size limit. This file fixes

* `Cursor`, the file that is open, with the size the log believes it has: every line counts, also
  one that was not written, so that a broken file is put aside in the end;
* `RotatingLog.save`. A rename that fails leaves everything as it was; a new file that cannot be
  opened leaves the log without a file, and the next save opens one.
-/

namespace Vitals.Log

/-- The file that is open for appending. -/
structure Cursor where
  path : Path
  /-- When the file was begun, in nanoseconds. -/
  created : Nat
  handle : FileId
  /-- The size the file would have if every line so far had been written. -/
  size : Nat
  deriving DecidableEq, Repr, Inhabited

structure RotatingLog where
  dir : Path
  /-- The size at which a file is full; never zero. -/
  maxSize : Nat
  cursor : Option Cursor
  deriving DecidableEq, Repr, Inhabited

namespace RotatingLog

/-- A log without an open file. -/
def new (dir : Path) (maxSize : Nat) : RotatingLog :=
  ⟨dir, max maxSize 1, none⟩

/-- The path of the file that the next record goes to, if one is open. -/
def currentPath (log : RotatingLog) : Option Path :=
  log.cursor.map Cursor.path

/-- The path of a file of the log. -/
def pathOf (log : RotatingLog) (name : List Char) : Path :=
  log.dir.join (String.ofList name)

/-- Opens the file begun at `created`. -/
def openFile (log : RotatingLog) (created : Nat) (disk : Disk) : Except Fault Cursor × Disk :=
  match disk.makeDirs log.dir with
  | (.error reason, disk) => (.error (.storage log.dir.text reason), disk)
  | (.ok (), disk) =>
    let path := log.pathOf (FileName.active created)
    match disk.openAppend path with
    | (.error reason, disk) => (.error (.storage path.text reason), disk)
    | (.ok (handle, size), disk) => (.ok ⟨path, created, handle, size⟩, disk)

/-- Puts a full file aside. -/
def putAside (log : RotatingLog) (full : Cursor) (now : Nat) (disk : Disk) :
    Except Fault Unit × Disk :=
  match disk.rename full.path (log.pathOf (FileName.rotated full.created now)) with
  | (.error reason, disk) => (.error (.storage full.path.text reason), disk)
  | (.ok (), disk) => (.ok (), disk)

/-- The line of a record. -/
def line (record : List UInt8) : List UInt8 :=
  record ++ [10]

/-- Appends the line of a record and flushes. -/
def append (cursor : Cursor) (record : List UInt8) (disk : Disk) : Except Fault Unit × Disk :=
  match disk.writeAll cursor.handle (line record) with
  | (.error reason, disk) => (.error (.storage cursor.path.text reason), disk)
  | (.ok (), disk) =>
    match disk.flush with
    | (.error reason, disk) => (.error (.storage cursor.path.text reason), disk)
    | (.ok (), disk) => (.ok (), disk)

/-- Appends a record to an open file, whose size grows in any case. -/
def saveTo (log : RotatingLog) (cursor : Cursor) (record : List UInt8) (disk : Disk) :
    Except Fault Unit × RotatingLog × Disk :=
  let (ended, disk) := append cursor record disk
  (ended,
    { log with cursor := some { cursor with size := cursor.size + (line record).length } }, disk)

/-- Opens a new file and appends a record to it. -/
def saveFresh (log : RotatingLog) (record : List UInt8) (now : Nat) (disk : Disk) :
    Except Fault Unit × RotatingLog × Disk :=
  match log.openFile now disk with
  | (.error fault, disk) => (.error fault, { log with cursor := none }, disk)
  | (.ok cursor, disk) => log.saveTo cursor record disk

/-- Saves a record that was made at `time`. -/
def save (log : RotatingLog) (record : List UInt8) (time : Moment) (disk : Disk) :
    Except Fault Unit × RotatingLog × Disk :=
  match log.cursor with
  | none => log.saveFresh record time.unixNanos disk
  | some cursor =>
    if log.maxSize ≤ cursor.size then
      match log.putAside cursor time.unixNanos disk with
      | (.error fault, disk) => (.error fault, log, disk)
      | (.ok (), disk) => log.saveFresh record time.unixNanos disk
    else log.saveTo cursor record disk

end RotatingLog

end Vitals.Log
