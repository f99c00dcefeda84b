import Vitals.Log.Rotating
import Vitals.Proofs.Log.FileName
import Vitals.Proofs.Log.Faultless

/-!
# The volumes of a log

Without faults, a log is a row of volumes: those that were put aside or left by an earlier log,
and the one that records go to. This file fixes

* `Volume`, a file of the log by what its name and its contents tell;
* `RotatingLog.Keeps`, a log whose directory holds given volumes and nothing else;
* `Saved`, what a save does to them, with `save_of_keeps`: all that is proved about a log without
  faults goes through it, so that no later proof opens `RotatingLog.save`.
-/

namespace Vitals.Log

/-! ## 1. Volumes -/

/-- A file of the log. -/
structure Volume where
  /-- When it was begun, in nanoseconds. -/
  created : Nat
  /-- When it was put aside, if it was. -/
  put : Option Nat
  id : FileId
  records : List (List UInt8)
  deriving DecidableEq, Repr

namespace Volume

variable {v w : Volume}

def name (v : Volume) : List Char :=
  match v.put with
  | none => FileName.active v.created
  | some put => FileName.rotated v.created put

/-- The contents: the lines of the records. -/
def bytes (v : Volume) : List UInt8 :=
  v.records.flatMap RotatingLog.line

/-- How the directory shows it. -/
def file (v : Volume) : DirFile :=
  ⟨String.ofList v.name, v.id, v.bytes⟩

/-- The volume with one more record. -/
def add (v : Volume) (record : List UInt8) : Volume :=
  { v with records := v.records ++ [record] }

def putAside (v : Volume) (now : Nat) : Volume :=
  { v with put := some now }

theorem bytes_add (v : Volume) (record : List UInt8) :
    (v.add record).bytes = v.bytes ++ RotatingLog.line record := by
  simp [bytes, add]

/-- **The name tells when a volume was begun and when it was put aside**, and nothing else. -/
theorem name_eq_iff : v.name = w.name ↔ v.created = w.created ∧ v.put = w.put := by
  refine ⟨fun h => ?_, fun ⟨hc, hp⟩ => by rw [name, name, hc, hp]⟩
  cases hv : v.put with
  | none =>
    cases hw : w.put with
    | none =>
      simp only [name, hv, hw] at h
      exact ⟨FileName.active_inj h, rfl⟩
    | some q =>
      simp only [name, hv, hw] at h
      exact absurd h (FileName.active_ne_rotated _ _ _)
  | some p =>
    cases hw : w.put with
    | none =>
      simp only [name, hv, hw] at h
      exact absurd h.symm (FileName.active_ne_rotated _ _ _)
    | some q =>
      simp only [name, hv, hw] at h
      obtain ⟨hc, rfl⟩ := FileName.rotated_inj h
      exact ⟨hc, rfl⟩

theorem ofList_name_ne (v : Volume) : String.ofList v.name ≠ "" := by
  intro h
  have hl := congrArg String.toList h
  rw [String.toList_ofList] at hl
  unfold name at hl
  split at hl <;> simp [FileName.rotated, FileName.active, FileName.stem] at hl

/-- The time of creation, read off the name. -/
theorem createdAt?_name (h : v.created < Unsigned.bound128) :
    FileName.createdAt? v.name = some v.created := by
  unfold name
  split
  · exact FileName.createdAt?_active h
  · exact FileName.createdAt?_rotated h _

end Volume

/-! ## 2. What a save does -/

/-- **What a save of `record` at `now` does to the volumes** of a log: those before it, and the one
that records go to. -/
inductive Saved (maxSize now : Nat) (record : List UInt8) :
    List Volume → Option Volume → List Volume → Volume → Prop where
  /-- There is no volume for records: one is begun. -/
  | begin (closed : List Volume) (id : FileId) :
      Saved maxSize now record closed none closed ⟨now, none, id, [record]⟩
  | append (closed : List Volume) (v : Volume) (h : v.bytes.length < maxSize) :
      Saved maxSize now record closed (some v) closed (v.add record)
  /-- The volume is full: it is put aside, in the place of one with the name it then has, and
  another is begun. -/
  | rotate (closed : List Volume) (v : Volume) (id : FileId) (h : maxSize ≤ v.bytes.length) :
      Saved maxSize now record closed (some v)
        ((closed.filter fun w => w.name != (v.putAside now).name) ++ [v.putAside now])
        ⟨now, none, id, [record]⟩

namespace RotatingLog

/-- The cursor of a log that writes to a volume. -/
def cursorOf (dir : Path) (v : Volume) : Cursor :=
  ⟨dir.join (String.ofList (FileName.active v.created)), v.created, v.id, v.bytes.length⟩

/-- **A log without faults whose directory holds given volumes.** Records go to `current`. -/
structure Keeps (log : RotatingLog) (disk : Disk) (closed : List Volume)
    (current : Option Volume) : Prop where
  holds : disk.Holds log.dir.place ((closed ++ current.toList).map Volume.file)
  made : current ≠ none → disk.HasDir log.dir.place
  cursor : log.cursor = current.map (cursorOf log.dir)
  unput : ∀ v ∈ current, v.put = none

section

variable {log : RotatingLog} {disk : Disk} {closed : List Volume} {v : Volume}

/-- A log that was just set up on a directory writes to no volume. -/
theorem keeps_new {dir : Path} (h : disk.Holds dir.place (closed.map Volume.file))
    (maxSize : Nat) : Keeps (new dir maxSize) disk closed none := by
  refine ⟨?_, fun h => absurd rfl h, rfl, fun _ hv => by cases hv⟩
  rw [Option.toList_none, List.append_nil]
  exact h

/-- Appending a record to the volume that records go to. -/
theorem saveTo_of_holds (h : disk.Holds log.dir.place ((closed ++ [v]).map Volume.file))
    (hd : disk.HasDir log.dir.place) (hv : v.put = none) (record : List UInt8) :
    ∃ log' disk', log.saveTo (cursorOf log.dir v) record disk = (.ok (), log', disk') ∧
      log'.dir = log.dir ∧ log'.maxSize = log.maxSize ∧
      Keeps log' disk' closed (some (v.add record)) := by
  rw [List.map_append] at h
  obtain ⟨disk', hw, h', hd'⟩ := h.writeAll hd (line record)
  refine ⟨{ log with cursor := some (cursorOf log.dir (v.add record)) }, disk', ?_, rfl, rfl, ?_⟩
  · have ha : append (cursorOf log.dir v) record disk = (.ok (), disk') := by
      have hf := h'.flush
      have hw : disk.writeAll (cursorOf log.dir v).handle (line record) = (.ok (), disk') := hw
      simp only [append, hw, hf]
    rw [saveTo, ha]
    simp only [cursorOf, Volume.bytes_add, List.length_append]
    rfl
  · refine ⟨?_, fun _ => hd', rfl, ?_⟩
    · rw [Option.toList_some, List.map_append]
      have hfile : (v.add record).file = ⟨v.file.name, v.file.id, v.file.bytes ++ line record⟩ := by
        rw [Volume.file, Volume.bytes_add]
        rfl
      rw [List.map_singleton, hfile]
      exact h'
    · intro w hw
      cases hw
      exact hv

/-- Beginning a volume. -/
theorem saveFresh_of_holds (h : disk.Holds log.dir.place (closed.map Volume.file))
    {now : Nat} (hfree : ∀ w ∈ closed, w.name ≠ FileName.active now) (record : List UInt8) :
    ∃ id log' disk', log.saveFresh record now disk = (.ok (), log', disk') ∧
      log'.dir = log.dir ∧ log'.maxSize = log.maxSize ∧
      Keeps log' disk' closed (some ⟨now, none, id, [record]⟩) := by
  obtain ⟨disk₁, hm, h₁, hd₁⟩ := h.makeDirs
  have hnew : ∀ f ∈ closed.map Volume.file, f.name ≠ String.ofList (FileName.active now) := by
    intro f hf e
    obtain ⟨w, hw, rfl⟩ := List.mem_map.mp hf
    exact hfree w hw (String.ofList_injective e)
  have hne : String.ofList (FileName.active now) ≠ "" :=
    Volume.ofList_name_ne ⟨now, none, 0, []⟩
  obtain ⟨id, disk₂, ho, h₂, hd₂⟩ := h₁.openAppend hd₁ hne hnew
  have hopen : log.openFile now disk = (.ok (cursorOf log.dir ⟨now, none, id, []⟩), disk₂) := by
    simp only [openFile, hm, pathOf, ho]
    rfl
  have h₂' : disk₂.Holds log.dir.place
      ((closed ++ [(⟨now, none, id, []⟩ : Volume)]).map Volume.file) := by
    rw [List.map_append]
    exact h₂
  obtain ⟨log', disk', hs, hdir, hmax, hk⟩ := saveTo_of_holds h₂' hd₂ rfl record
  refine ⟨id, log', disk', ?_, hdir, hmax, hk⟩
  rw [saveFresh, hopen]
  exact hs

/-- Putting the volume aside that records go to. -/
theorem putAside_of_holds (h : disk.Holds log.dir.place ((closed ++ [v]).map Volume.file))
    (hd : disk.HasDir log.dir.place) (hv : v.put = none) (now : Nat) :
    ∃ disk', log.putAside (cursorOf log.dir v) now disk = (.ok (), disk') ∧
      disk'.Holds log.dir.place
        (((closed.filter fun w => w.name != (v.putAside now).name) ++ [v.putAside now]).map
          Volume.file) ∧ disk'.HasDir log.dir.place := by
  rw [List.map_append] at h
  have hvname : v.name = FileName.active v.created := by rw [Volume.name, hv]
  have hself : v.name ≠ (v.putAside now).name := by
    rw [hvname]
    exact FileName.active_ne_rotated _ _ _
  obtain ⟨disk', hr, h', hd'⟩ := h.rename hd (Volume.ofList_name_ne v)
    (Volume.ofList_name_ne (v.putAside now)) fun e => hself (String.ofList_injective e)
  refine ⟨disk', ?_, ?_, hd'⟩
  · have hpath : (cursorOf log.dir v).path = log.dir.join v.file.name := by
      rw [cursorOf, Volume.file, hvname]
    have hr' : disk.rename (cursorOf log.dir v).path
        (log.pathOf (FileName.rotated (cursorOf log.dir v).created now)) = (.ok (), disk') := by
      rw [hpath]
      exact hr
    rw [putAside, hr']
  · have hname : ∀ w : Volume, (w.file.name != String.ofList (v.putAside now).name) =
        (w.name != (v.putAside now).name) := by
      intro w
      rw [Bool.eq_iff_iff, bne_iff_ne, bne_iff_ne]
      exact not_congr ⟨String.ofList_injective, congrArg String.ofList⟩
    rw [List.filter_map] at h'
    simp only [Function.comp_def, hname] at h'
    rw [List.map_append]
    exact h'

/-- **What a save does to a log without faults**: it succeeds, and does to the volumes what
`Saved` says. The only condition is that no volume before the current one has the name that a new
one would get. -/
theorem save_of_keeps {current : Option Volume} (h : Keeps log disk closed current)
    (record : List UInt8) (time : Moment)
    (hfree : ∀ w ∈ closed, w.name ≠ FileName.active time.unixNanos) :
    ∃ log' disk' closed' v', log.save record time disk = (.ok (), log', disk') ∧
      log'.dir = log.dir ∧ log'.maxSize = log.maxSize ∧
      Keeps log' disk' closed' (some v') ∧
      Saved log.maxSize time.unixNanos record closed current closed' v' := by
  have hholds := h.holds
  cases current with
  | none =>
    rw [Option.toList_none, List.append_nil] at hholds
    obtain ⟨id, log', disk', hs, hdir, hmax, hk⟩ := saveFresh_of_holds hholds hfree record
    refine ⟨log', disk', closed, _, ?_, hdir, hmax, hk, .begin closed id⟩
    rw [save, h.cursor]
    exact hs
  | some v =>
    rw [Option.toList_some] at hholds
    have hd := h.made (by simp)
    have hv := h.unput v rfl
    by_cases hfull : log.maxSize ≤ v.bytes.length
    · obtain ⟨disk₁, hp, h₁, -⟩ := putAside_of_holds hholds hd hv time.unixNanos
      have hfree₁ : ∀ w ∈ (closed.filter fun w => w.name != (v.putAside time.unixNanos).name) ++
          [v.putAside time.unixNanos], w.name ≠ FileName.active time.unixNanos := by
        intro w hw
        rcases List.mem_append.mp hw with hw | hw
        · exact hfree w (List.mem_filter.mp hw).1
        · rw [List.mem_singleton.mp hw]
          exact fun e => FileName.active_ne_rotated _ _ _ e.symm
      obtain ⟨id, log', disk', hs, hdir, hmax, hk⟩ := saveFresh_of_holds h₁ hfree₁ record
      refine ⟨log', disk', _, _, ?_, hdir, hmax, hk, .rotate closed v id hfull⟩
      have hcur : log.maxSize ≤ (cursorOf log.dir v).size := hfull
      simp only [save, h.cursor, Option.map_some, if_pos hcur, hp]
      exact hs
    · obtain ⟨log', disk', hs, hdir, hmax, hk⟩ := saveTo_of_holds hholds hd hv record
      refine ⟨log', disk', closed, _, ?_, hdir, hmax, hk, .append closed v (by omega)⟩
      have hcur : ¬log.maxSize ≤ (cursorOf log.dir v).size := hfull
      simp only [save, h.cursor, Option.map_some, if_neg hcur]
      exact hs

end

end RotatingLog

end Vitals.Log
