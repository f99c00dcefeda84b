import Vitals.Log.Path

/-!
# A disk

The file system that the snapshot log writes to, with everything about it that the log can tell
apart. A file is an identity of its own: an open handle keeps writing to it after it was renamed
or removed. This file fixes

* `Disk`, the directories and files under their places, and the contents of all files;
* the four calls of the log: `makeDirs`, `openAppend`, `rename` and `writeAll` with `flush`, and
  what others may do to the disk: write, remove a file, remove a directory with all in it;
* `FaultPlan`, the faults still to come. A call that the plan says nothing about works as the
  disk allows; a write may also take only a part of the bytes, or be interrupted and tried again.
-/

namespace Vitals.Log

/-! ## 1. Disks -/

/-- The identity of a file. -/
abbrev FileId := Nat

inductive Entry where
  | directory
  | file (id : FileId)
  deriving DecidableEq, Repr

/-- What a write does. -/
inductive WriteFault where
  /-- All bytes are taken. -/
  | none
  /-- Only so many bytes are taken. -/
  | short (n : Nat)
  /-- Nothing is taken, and the write has to be tried again. -/
  | interrupted
  | failed (reason : String)
  deriving DecidableEq, Repr

/-- The faults still to come, one queue per kind of call; `none` stands for a call without
fault, and so does an empty queue. -/
structure FaultPlan where
  makeDirs : List (Option String) := []
  openFile : List (Option String) := []
  rename : List (Option String) := []
  write : List WriteFault := []
  flush : List (Option String) := []
  deriving DecidableEq, Repr, Inhabited

/-- A call that names paths. -/
inductive Call where
  | makeDirs (path : Path)
  | openFile (path : Path)
  | rename (source target : Path)
  deriving DecidableEq, Repr

/-- How a call is shown. -/
def Call.text : Call → String
  | .makeDirs p => "mkdir " ++ p.text
  | .openFile p => "open " ++ p.text
  | .rename p q => "rename " ++ p.text ++ " " ++ q.text

structure Disk where
  /-- The entries, each place at most once, in the order they were made. -/
  entries : List (Place × Entry) := []
  /-- The contents of every file ever made; a file's identity is its position. -/
  contents : List (List UInt8) := []
  plan : FaultPlan := {}
  /-- The calls so far that name paths. -/
  calls : List Call := []
  deriving DecidableEq, Repr, Inhabited

namespace Disk

/-- What lies at a place. The root, and the directory that relative paths start from, are
always there. -/
def entry? (d : Disk) (p : Place) : Option Entry :=
  if p = [] ∨ p = [""] then some .directory else d.entries.lookup p

/-- The contents of a file. -/
def content (d : Disk) (id : FileId) : List UInt8 :=
  (d.contents[id]?).getD []

def notFound : String := "No such file or directory (os error 2)"
def fileExists : String := "File exists (os error 17)"
def notADirectory : String := "Not a directory (os error 20)"
def isADirectory : String := "Is a directory (os error 21)"
def notEmpty : String := "Directory not empty (os error 39)"

/-- Checks that every place in front of an entry is a directory, from the root on. -/
def checkWay (d : Disk) (p : Place) : Except String Unit :=
  (List.range p.length).forM fun n =>
    match d.entry? (p.take n) with
    | some .directory => .ok ()
    | some (.file _) => .error notADirectory
    | none => .error notFound

/-- Takes the next fault off a queue. -/
def nextFault : List (Option String) → Option String × List (Option String)
  | [] => (none, [])
  | f :: fs => (f, fs)

/-! ## 2. Calls of the log -/

/-- Makes the directories on the way to `p` that are missing, shortest place first. -/
def makeMissing (d : Disk) (p : Place) : Nat → Except String Disk
  | 0 => .ok d
  | n + 1 => do
    let d ← d.makeMissing p n
    let q := p.take (n + 1)
    match d.entry? q with
    | some .directory => .ok d
    | some (.file _) => .error (if n + 1 = p.length then fileExists else notADirectory)
    | none => .ok { d with entries := d.entries ++ [(q, .directory)] }

/-- Makes a directory and all that hold it; fine if it is there already. -/
def makeDirs (d : Disk) (path : Path) : Except String Unit × Disk :=
  let p := path.place
  let (fault, rest) := nextFault d.plan.makeDirs
  let d := { d with plan := { d.plan with makeDirs := rest }, calls := d.calls ++ [.makeDirs path] }
  match fault with
  | some reason => (.error reason, d)
  | none =>
    match d.makeMissing p p.length with
    | .error reason => (.error reason, d)
    | .ok d => (.ok (), d)

/-- Opens a file for appending, an empty one if there is none, and says how large it is. -/
def openAppend (d : Disk) (path : Path) : Except String (FileId × Nat) × Disk :=
  let p := path.place
  let (fault, rest) := nextFault d.plan.openFile
  let d := { d with plan := { d.plan with openFile := rest }, calls := d.calls ++ [.openFile path] }
  match fault with
  | some reason => (.error reason, d)
  | none =>
    match d.checkWay p with
    | .error reason => (.error reason, d)
    | .ok () =>
      match d.entry? p with
      | some .directory => (.error isADirectory, d)
      | some (.file id) => (.ok (id, (d.content id).length), d)
      | none =>
        let id := d.contents.length
        (.ok (id, 0),
          { d with entries := d.entries ++ [(p, .file id)], contents := d.contents ++ [[]] })

/-- Whether a place lies below a directory. -/
def isBelow (dir p : Place) : Bool :=
  dir.length < p.length && p.take dir.length == dir

/-- The entries with everything at or below `source` moved to `target`. -/
def moved (entries : List (Place × Entry)) (source target : Place) : List (Place × Entry) :=
  entries.map fun (p, e) =>
    if p = source ∨ isBelow source p then (target ++ p.drop source.length, e) else (p, e)

/-- Renames an entry. A file in the target's place is replaced, and so is an empty directory by
a directory. -/
def renameEntry (d : Disk) (source target : Place) : Except String Disk := do
  d.checkWay source
  d.checkWay target
  let some e := d.entry? source | throw notFound
  match e, d.entry? target with
  | .file _, some .directory => throw isADirectory
  | .directory, some (.file _) => throw notADirectory
  | .directory, some .directory =>
    if d.entries.any fun x => isBelow target x.1 then throw notEmpty
  | _, _ => pure ()
  return { d with entries := moved (d.entries.filter fun x => x.1 != target) source target }

def rename (d : Disk) (source target : Path) : Except String Unit × Disk :=
  let (fault, rest) := nextFault d.plan.rename
  let d := { d with
    plan := { d.plan with rename := rest }
    calls := d.calls ++ [.rename source target] }
  match fault with
  | some reason => (.error reason, d)
  | none =>
    match d.renameEntry source.place target.place with
    | .error reason => (.error reason, d)
    | .ok d => (.ok (), d)

/-- What a file system answers to a write that takes nothing. -/
def wroteNothing : String := "failed to write whole buffer"

/-- Writes a whole buffer, through short and interrupted writes. Gives the bytes that were taken,
how it ended, and the faults left over. -/
def takeAll : List WriteFault → List UInt8 →
    List UInt8 × Except String Unit × List WriteFault
  | faults, [] => ([], .ok (), faults)
  | [], bytes => (bytes, .ok (), [])
  | .none :: rest, bytes => (bytes, .ok (), rest)
  | .interrupted :: rest, bytes => takeAll rest bytes
  | .failed reason :: rest, _ => ([], .error reason, rest)
  | .short 0 :: rest, _ => ([], .error wroteNothing, rest)
  | .short (n + 1) :: rest, bytes =>
    let (taken, ended, left) := takeAll rest (bytes.drop (n + 1))
    (bytes.take (n + 1) ++ taken, ended, left)

/-- Puts bytes behind the contents of a file. -/
def append (d : Disk) (id : FileId) (bytes : List UInt8) : Disk :=
  { d with contents := d.contents.set id (d.content id ++ bytes) }

def writeAll (d : Disk) (id : FileId) (bytes : List UInt8) : Except String Unit × Disk :=
  let (taken, ended, left) := takeAll d.plan.write bytes
  (ended, { d with plan := { d.plan with write := left } }.append id taken)

def flush (d : Disk) : Except String Unit × Disk :=
  let (fault, rest) := nextFault d.plan.flush
  let d := { d with plan := { d.plan with flush := rest } }
  match fault with
  | some reason => (.error reason, d)
  | none => (.ok (), d)

/-! ## 3. What others do -/

/-- Makes a directory and all that hold it; nothing happens, and the answer is no, if a file is in
the way. -/
def provideDirs (d : Disk) (p : Place) : Bool × Disk :=
  match d.makeMissing p p.length with
  | .ok d => (true, d)
  | .error _ => (false, d)

/-- Gives a file new contents, and makes it if there is none. -/
def provideFile (d : Disk) (p : Place) (bytes : List UInt8) : Bool × Disk :=
  match d.checkWay p with
  | .error _ => (false, d)
  | .ok () =>
    match d.entry? p with
    | some .directory => (false, d)
    | some (.file id) => (true, { d with contents := d.contents.set id bytes })
    | none =>
      (true, { d with
        entries := d.entries ++ [(p, .file d.contents.length)]
        contents := d.contents ++ [bytes] })

/-- Removes a file; open handles keep it. -/
def removeFile (d : Disk) (p : Place) : Bool × Disk :=
  match d.entry? p with
  | some (.file _) => (true, { d with entries := d.entries.filter fun x => x.1 != p })
  | _ => (false, d)

/-- Removes a directory with all that is in it. -/
def removeTree (d : Disk) (p : Place) : Bool × Disk :=
  match d.entry? p with
  | some .directory =>
    (true, { d with entries := d.entries.filter fun x => x.1 != p && !isBelow p x.1 })
  | _ => (false, d)

/-- The files with their places and contents. -/
def files (d : Disk) : List (Place × List UInt8) :=
  d.entries.filterMap fun (p, e) =>
    match e with
    | .directory => none
    | .file id => some (p, d.content id)

/-- The directories. -/
def directories (d : Disk) : List Place :=
  d.entries.filterMap fun (p, e) =>
    match e with
    | .directory => some p
    | .file _ => none

end Disk

end Vitals.Log
