import Mathlib.Data.List.Nodup
import Mathlib.Data.List.Perm.Subperm
import Vitals.Proofs.Log.Collision
import Vitals.Proofs.Log.Faults

/-!
# What faults do to lines

A write that fails may leave the first part of a line at the end of a file, and the log goes on
with that file: the next record is appended to the same line. This file follows the lines of a log
through any faults. It fixes

* `wholeLines` and `openEnd`, the lines of a text that end with a newline, and what follows them;
* `Saving`, what a save found and how it ended, with `RotatingLog.savings`, those of a row of saves;
* `RotatingLog.Accounts`, the invariant: the lines of all files are those that were written, but
  for those that a rotation destroyed.

Main statement: every record whose save succeeded is on a line of its own file behind what a torn
write left there, and by itself on it if nothing was left (`saveAll_whole_lines`). A torn write
taints the record after it (`torn_write_taints_a_record`).
-/

namespace Vitals.Log

/-! ## 1. Whole lines -/

/-- Reads one byte, after the lines so far and what follows them. -/
def readByte (read : List (List UInt8) × List UInt8) (b : UInt8) :
    List (List UInt8) × List UInt8 :=
  if b = 10 then (read.1 ++ [read.2], []) else (read.1, read.2 ++ [b])

/-- The lines of a text that end with a newline, without it, and what follows the last of them. -/
def cut (bytes : List UInt8) : List (List UInt8) × List UInt8 :=
  bytes.foldl readByte ([], [])

def wholeLines (bytes : List UInt8) : List (List UInt8) :=
  (cut bytes).1

/-- What follows the last newline. -/
def openEnd (bytes : List UInt8) : List UInt8 :=
  (cut bytes).2

theorem foldl_readByte {part : List UInt8} (h : 10 ∉ part)
    (read : List (List UInt8) × List UInt8) :
    part.foldl readByte read = (read.1, read.2 ++ part) := by
  induction part generalizing read with
  | nil =>
    rw [List.append_nil]
    rfl
  | cons b part ih =>
    have hb : b ≠ 10 := fun e => h (e ▸ List.mem_cons_self)
    have hpart : 10 ∉ part := fun hm => h (List.mem_cons_of_mem _ hm)
    rw [List.foldl_cons, ih hpart, readByte, if_neg hb, List.append_assoc, List.singleton_append]

/-- A text without a newline becomes a part of the line that is open. -/
theorem cut_append_part (bytes : List UInt8) {part : List UInt8} (h : 10 ∉ part) :
    cut (bytes ++ part) = (wholeLines bytes, openEnd bytes ++ part) := by
  rw [cut, List.foldl_append, foldl_readByte h]
  rfl

/-- **A line ends the line that is open.** -/
theorem cut_append_line (bytes : List UInt8) {record : List UInt8} (h : 10 ∉ record) :
    cut (bytes ++ RotatingLog.line record) =
      (wholeLines bytes ++ [openEnd bytes ++ record], []) := by
  rw [RotatingLog.line, ← List.append_assoc, cut, List.foldl_append, ← cut, cut_append_part bytes h]
  rfl

/-- What a torn write puts into a file has no newline. -/
theorem newline_not_mem_of_torn {record taken rest : List UInt8} (h : 10 ∉ record)
    (hrest : rest ≠ []) (e : RotatingLog.line record = taken ++ rest) : 10 ∉ taken := by
  have hlast := congrArg List.dropLast e
  rw [RotatingLog.line, List.dropLast_concat, List.dropLast_append_of_ne_nil hrest] at hlast
  rw [hlast] at h
  exact fun hm => h (List.mem_append_left _ hm)

/-- The whole lines of all files of a directory. -/
def Disk.wholeLinesIn (d : Disk) (dir : Place) : List (List UInt8) :=
  (d.filesIn dir).flatMap fun f => wholeLines f.2

/-! ## 2. Files in pieces -/

/-- A file of the log, with whatever is in it. -/
structure Piece where
  created : Nat
  put : Option Nat
  id : FileId
  bytes : List UInt8
  deriving DecidableEq, Repr

namespace Piece

variable {v w : Piece}

def name (v : Piece) : List Char :=
  Volume.name ⟨v.created, v.put, v.id, []⟩

/-- How the directory shows it. -/
def file (v : Piece) : DirFile :=
  ⟨String.ofList v.name, v.id, v.bytes⟩

def lines (v : Piece) : List (List UInt8) :=
  wholeLines v.bytes

def putAside (v : Piece) (now : Nat) : Piece :=
  { v with put := some now }

/-- The piece with more at its end. -/
def extend (v : Piece) (more : List UInt8) : Piece :=
  { v with bytes := v.bytes ++ more }

theorem name_eq_iff : v.name = w.name ↔ v.created = w.created ∧ v.put = w.put :=
  Volume.name_eq_iff

theorem ofList_name_ne (v : Piece) : String.ofList v.name ≠ "" :=
  Volume.ofList_name_ne _

theorem name_of_unput (h : v.put = none) : v.name = FileName.active v.created := by
  rw [name, Volume.name, h]

end Piece

/-- **Where written lines are**: in the files, or lost with a file that was replaced. `done` are
the rotations so far; no line is lost as long as none of them came up twice. -/
structure Tally (closed : List Piece) (current : Option Piece) (written : List (List UInt8))
    (done : List (Nat × Nat)) (lost : List (List UInt8)) : Prop where
  total : ((closed ++ current.toList).flatMap Piece.lines ++ lost).Perm written
  turns : ∀ c p, (c, p) ∈ done ↔ ∃ v ∈ closed, v.created = c ∧ v.put = some p
  spared : done.Nodup → lost = []

section

variable {closed : List Piece} {v : Piece} {written : List (List UInt8)} {done : List (Nat × Nat)}
  {lost : List (List UInt8)}

/-- A new file has no lines. -/
theorem Tally.begin (h : Tally closed none written done lost) (now : Nat) (id : FileId) :
    Tally closed (some ⟨now, none, id, []⟩) written done lost := by
  refine ⟨?_, h.turns, h.spared⟩
  have htotal := h.total
  have hnone : Piece.lines ⟨now, none, id, []⟩ = [] := rfl
  rw [Option.toList_none, List.append_nil] at htotal
  rw [Option.toList_some, List.flatMap_append, List.flatMap_singleton, hnone, List.append_nil]
  exact htotal

/-- A torn write completes no line. -/
theorem Tally.tear (h : Tally closed (some v) written done lost) {part : List UInt8}
    (hpart : 10 ∉ part) : Tally closed (some (v.extend part)) written done lost := by
  have hlines : (v.extend part).lines = v.lines := by
    rw [Piece.lines, wholeLines, Piece.extend, cut_append_part v.bytes hpart]
    rfl
  refine ⟨?_, h.turns, h.spared⟩
  have htotal := h.total
  rw [Option.toList_some, List.flatMap_append, List.flatMap_singleton] at htotal ⊢
  rw [hlines]
  exact htotal

/-- A write that is not torn completes one. -/
theorem Tally.write (h : Tally closed (some v) written done lost) {record : List UInt8}
    (hrecord : 10 ∉ record) : Tally closed (some (v.extend (RotatingLog.line record)))
      (written ++ [openEnd v.bytes ++ record]) done lost := by
  have hlines : (v.extend (RotatingLog.line record)).lines =
      v.lines ++ [openEnd v.bytes ++ record] := by
    rw [Piece.lines, wholeLines, Piece.extend, cut_append_line v.bytes hrecord]
    rfl
  refine ⟨?_, h.turns, h.spared⟩
  refine List.Perm.trans ?_ (h.total.append_right [openEnd v.bytes ++ record])
  rw [Option.toList_some, Option.toList_some, List.flatMap_append, List.flatMap_append,
    List.flatMap_singleton, List.flatMap_singleton, hlines, List.perm_iff_count]
  intro l
  simp only [List.count_append]
  omega

/-- **A rotation loses lines only if its times came up before.** -/
theorem Tally.rotate (h : Tally closed (some v) written done lost) (now : Nat) :
    ∃ lost', Tally ((closed.filter fun w => w.name != (v.putAside now).name) ++ [v.putAside now])
      none written (done ++ [(v.created, now)]) lost' := by
  refine ⟨lost ++ (closed.filter fun w => w.name == (v.putAside now).name).flatMap Piece.lines,
    ?_, fun c p => ?_, fun hnodup => ?_⟩
  · refine List.Perm.trans ?_ h.total
    have hsplit := (List.filter_append_perm (fun w => w.name == (v.putAside now).name)
      closed).flatMap_right Piece.lines
    rw [List.perm_iff_count] at hsplit ⊢
    intro l
    have hl := hsplit l
    have hv : (v.putAside now).lines = v.lines := rfl
    simp only [List.flatMap_append, List.count_append, Option.toList_some, Option.toList_none,
      List.flatMap_singleton, List.flatMap_nil, List.count_nil, bne, hv] at hl ⊢
    omega
  · rw [List.mem_append, h.turns, List.mem_singleton]
    constructor
    · rintro (⟨w, hw, hc, hp⟩ | e)
      · by_cases hn : w.name = (v.putAside now).name
        · obtain ⟨hc', hp'⟩ := Piece.name_eq_iff.mp hn
          exact ⟨v.putAside now, by simp, hc'.symm.trans hc, hp'.symm.trans hp⟩
        · exact ⟨w, List.mem_append_left _ (List.mem_filter.mpr ⟨hw, bne_iff_ne.mpr hn⟩), hc, hp⟩
      · cases e
        exact ⟨v.putAside now, by simp, rfl, rfl⟩
    · rintro ⟨w, hw, hc, hp⟩
      rcases List.mem_append.mp hw with hw | hw
      · exact .inl ⟨w, (List.mem_filter.mp hw).1, hc, hp⟩
      · rw [List.mem_singleton.mp hw] at hc hp
        cases hc
        cases hp
        exact .inr rfl
  · obtain ⟨hdone, -, hnew⟩ := List.nodup_append.mp hnodup
    have hfree : (closed.filter fun w => w.name == (v.putAside now).name) = [] := by
      rw [List.filter_eq_nil_iff]
      intro w hw hn
      obtain ⟨hc, hp⟩ := Piece.name_eq_iff.mp (beq_iff_eq.mp hn)
      have hmem := (h.turns v.created now).mpr ⟨w, hw, hc, hp⟩
      exact hnew _ hmem _ List.mem_cons_self rfl
    rw [h.spared hdone, hfree]
    rfl

end

namespace RotatingLog

/-- **A log whose directory holds given files**, on a disk with any faults in store. Records go to
`current`, whose size the log may have wrong. -/
structure Bears (log : RotatingLog) (disk : Disk) (closed : List Piece) (current : Option Piece) :
    Prop where
  holds : disk.calm.Holds log.dir.place ((closed ++ current.toList).map Piece.file)
  made : current ≠ none → disk.calm.HasDir log.dir.place
  cursor : log.cursor.map (fun c => (c.path, c.created, c.handle)) =
    current.map fun v => (log.pathOf (FileName.active v.created), v.created, v.id)
  unput : ∀ v ∈ current, v.put = none
  aside : ∀ v ∈ closed, v.put ≠ none

/-- **A log whose lines are accounted for.** -/
def Accounts (log : RotatingLog) (disk : Disk) (written : List (List UInt8))
    (done : List (Nat × Nat)) : Prop :=
  ∃ closed current lost, log.Bears disk closed current ∧ Tally closed current written done lost

/-! ## 3. What a save does -/

section

variable {log : RotatingLog} {disk : Disk} {written : List (List UInt8)} {done : List (Nat × Nat)}
  {c : Cursor} {record : List UInt8}

/-- The size that the log takes the file to have does not matter. -/
theorem Accounts.resize (h : log.Accounts disk written done) (hc : log.cursor = some c)
    (size : Nat) :
    Accounts { log with cursor := some { c with size } } disk written done := by
  obtain ⟨closed, current, lost, hb, ht⟩ := h
  have hcursor := hb.cursor
  rw [hc] at hcursor
  exact ⟨closed, current, lost, ⟨hb.holds, hb.made, hcursor, hb.unput, hb.aside⟩, ht⟩

/-- The file that an open log writes to. -/
theorem Bears.current_of_cursor {closed : List Piece} {current : Option Piece}
    (h : log.Bears disk closed current) (hc : log.cursor = some c) :
    ∃ v, current = some v ∧ c.path = log.pathOf (FileName.active v.created) ∧
      c.created = v.created ∧ c.handle = v.id := by
  have hcursor := h.cursor
  rw [hc] at hcursor
  cases current with
  | none => cases hcursor
  | some v =>
    simp only [Option.map_some, Option.some.injEq, Prod.mk.injEq] at hcursor
    exact ⟨v, rfl, hcursor⟩

theorem Bears.current_of_closed {closed : List Piece} {current : Option Piece}
    (h : log.Bears disk closed current) (hc : log.cursor = none) : current = none := by
  have hcursor := h.cursor
  rw [hc] at hcursor
  cases current with
  | none => rfl
  | some v => cases hcursor

/-- **Putting a file aside** may fail, and then nothing changes. -/
theorem putAside_accounts (h : log.Accounts disk written done) (hc : log.cursor = some c)
    (now : Nat) :
    ∃ disk', (∃ fault, log.putAside c now disk = (.error fault, disk')) ∧
        log.Accounts disk' written done ∨
      log.putAside c now disk = (.ok (), disk') ∧
        Accounts { log with cursor := none } disk' written (done ++ [(c.created, now)]) := by
  obtain ⟨closed, current, lost, hb, ht⟩ := h
  obtain ⟨v, rfl, hpath, hcreated, -⟩ := hb.current_of_cursor hc
  have hv : v.put = none := hb.unput v rfl
  have hvname : v.file.name = String.ofList (FileName.active v.created) := by
    rw [Piece.file, Piece.name_of_unput hv]
  have hself : v.file.name ≠ String.ofList (v.putAside now).name := by
    rw [hvname]
    exact fun e => FileName.active_ne_rotated _ _ _ (String.ofList_injective e)
  have hcall : disk.rename c.path (log.pathOf (FileName.rotated c.created now)) =
      disk.rename (log.dir.join v.file.name)
        (log.dir.join (String.ofList (v.putAside now).name)) := by
    rw [hpath, hcreated, hvname]
    rfl
  have hholds := hb.holds
  rw [Option.toList_some, List.map_append, List.map_singleton] at hholds
  obtain ⟨disk', hdir, ⟨⟨reason, hr⟩, hsame⟩ | ⟨hr, hnew⟩⟩ := Disk.rename_of_holds hholds
    (hb.made (by simp)) (Piece.ofList_name_ne v) (Piece.ofList_name_ne (v.putAside now)) hself
  · refine ⟨disk', .inl ⟨⟨.storage c.path.text reason, ?_⟩, closed, some v, lost, ?_, ht⟩⟩
    · rw [putAside, hcall, hr]
    · refine ⟨?_, fun _ => hdir, hb.cursor, hb.unput, hb.aside⟩
      rw [Option.toList_some, List.map_append, List.map_singleton]
      exact hsame
  · obtain ⟨lost', ht'⟩ := ht.rotate now
    refine ⟨disk', .inr ⟨?_, _, none, lost', ?_, hcreated ▸ ht'⟩⟩
    · rw [putAside, hcall, hr]
    · refine ⟨?_, fun hne => absurd rfl hne, rfl, fun _ hw => (by cases hw), fun w hw => ?_⟩
      · -- the disk compares names as texts, the tally as lists of characters
        have hname : ∀ w : Piece, (w.file.name != String.ofList (v.putAside now).name) =
            (w.name != (v.putAside now).name) := by
          intro w
          rw [Bool.eq_iff_iff, bne_iff_ne, bne_iff_ne]
          exact not_congr ⟨String.ofList_injective, congrArg String.ofList⟩
        rw [List.filter_map] at hnew
        simp only [Function.comp_def, hname] at hnew
        rw [Option.toList_none, List.append_nil, List.map_append]
        exact hnew
      · rcases List.mem_append.mp hw with hw | hw
        · exact hb.aside w (List.mem_filter.mp hw).1
        · rw [List.mem_singleton.mp hw]
          exact fun e => by cases e

/-- **Opening a new file** may fail, and then nothing changes. -/
theorem openFile_accounts (h : log.Accounts disk written done) (hc : log.cursor = none)
    (now : Nat) :
    ∃ disk', (∃ fault, log.openFile now disk = (.error fault, disk')) ∧
        log.Accounts disk' written done ∨
      ∃ c, log.openFile now disk = (.ok c, disk') ∧ disk'.content c.handle = [] ∧
        Accounts { log with cursor := some c } disk' written done := by
  obtain ⟨closed, current, lost, hb, ht⟩ := h
  cases hb.current_of_closed hc
  have hholds := hb.holds
  rw [Option.toList_none, List.append_nil] at hholds
  have hsame : ∀ {disk' : Disk}, disk'.calm.Holds log.dir.place (closed.map Piece.file) →
      log.Accounts disk' written done := fun hholds' => by
    refine ⟨closed, none, lost, ⟨?_, fun hne => absurd rfl hne, hb.cursor, hb.unput, hb.aside⟩, ht⟩
    rw [Option.toList_none, List.append_nil]
    exact hholds'
  obtain ⟨answer, disk₁, hm, h₁, hd₁⟩ := Disk.makeDirs_of_holds hholds
  cases answer with
  | error reason =>
    exact ⟨disk₁, .inl ⟨⟨.storage log.dir.text reason, by simp only [openFile, hm]⟩, hsame h₁⟩⟩
  | ok u =>
    have hnew : ∀ f ∈ closed.map Piece.file, f.name ≠ String.ofList (FileName.active now) := by
      intro f hf e
      obtain ⟨w, hw, rfl⟩ := List.mem_map.mp hf
      have hname : w.name = (⟨now, none, 0, []⟩ : Piece).name := String.ofList_injective e
      exact hb.aside w hw (Piece.name_eq_iff.mp hname).2
    obtain ⟨disk₂, hd₂, ⟨⟨reason, ho⟩, h₂⟩ | ⟨id, ho, h₂⟩⟩ := Disk.openAppend_of_holds h₁ (hd₁ rfl)
      (Piece.ofList_name_ne ⟨now, none, 0, []⟩) hnew
    · have ho : disk₁.openAppend (log.pathOf (FileName.active now)) = (.error reason, disk₂) := ho
      refine ⟨disk₂, .inl ⟨⟨.storage (log.pathOf (FileName.active now)).text reason, ?_⟩, hsame h₂⟩⟩
      simp only [openFile, hm, ho]
    · have ho : disk₁.openAppend (log.pathOf (FileName.active now)) = (.ok (id, 0), disk₂) := ho
      have h₂ : disk₂.calm.Holds log.dir.place
          ((closed ++ [(⟨now, none, id, []⟩ : Piece)]).map Piece.file) := by
        rw [List.map_append]
        exact h₂
      refine ⟨disk₂, .inr ⟨⟨log.pathOf (FileName.active now), now, id, 0⟩, ?_, ?_, closed,
        some ⟨now, none, id, []⟩, lost, ?_, ht.begin now id⟩⟩
      · simp only [openFile, hm, ho]
      · exact h₂.content (f := (⟨now, none, id, []⟩ : Piece).file) (by simp)
      · refine ⟨h₂, fun _ => hd₂, rfl, fun w hw => ?_, hb.aside⟩
        cases hw
        rfl

/-- **Appending a record** completes a line, the one that was open, unless the write fails. -/
theorem append_accounts (h : log.Accounts disk written done) (hc : log.cursor = some c)
    (hrecord : 10 ∉ record) :
    ∃ answer disk' gained, append c record disk = (answer, disk') ∧
      log.Accounts disk' (written ++ gained.toList) done ∧
      (gained = none ∧ (∃ fault, answer = .error fault) ∨
        gained = some (openEnd (disk.content c.handle) ++ record)) := by
  obtain ⟨closed, current, lost, hb, ht⟩ := h
  obtain ⟨v, rfl, -, -, hhandle⟩ := hb.current_of_cursor hc
  have hholds := hb.holds
  have hcontent : disk.content c.handle = v.bytes := by
    rw [hhandle]
    exact hholds.content (f := v.file) (by simp)
  rw [Option.toList_some, List.map_append, List.map_singleton] at hholds
  obtain ⟨answer, taken, disk₁, hw, h₁, hd₁, hend⟩ := Disk.writeAll_of_holds hholds (line record)
  have hw : disk.writeAll c.handle (line record) = (answer, disk₁) := hhandle ▸ hw
  have hextended : ∀ {disk' : Disk}, disk'.calm = disk₁.calm →
      log.Bears disk' closed (some (v.extend taken)) := fun e => by
    refine ⟨?_, fun _ => e ▸ hd₁ (hb.made (by simp)), hb.cursor, fun w hw => ?_, hb.aside⟩
    · rw [e, Option.toList_some, List.map_append, List.map_singleton]
      exact h₁
    · cases hw
      exact hb.unput v rfl
  rcases hend with ⟨rfl, rfl⟩ | ⟨⟨reason, rfl⟩, rest, hrest, hpart⟩
  · obtain ⟨flushed, disk₂, hf, hcalm⟩ := Disk.flush_of_holds disk₁
    rw [hcontent]
    cases flushed with
    | error reason =>
      refine ⟨.error (.storage c.path.text reason), disk₂, some (openEnd v.bytes ++ record), ?_,
        ⟨closed, _, lost, hextended hcalm, ht.write hrecord⟩, .inr rfl⟩
      simp only [append, hw, hf]
    | ok u =>
      refine ⟨.ok (), disk₂, some (openEnd v.bytes ++ record), ?_,
        ⟨closed, _, lost, hextended hcalm, ht.write hrecord⟩, .inr rfl⟩
      simp only [append, hw, hf]
  · refine ⟨.error (.storage c.path.text reason), disk₁, none, ?_,
      ⟨closed, _, lost, hextended rfl, ?_⟩, .inl ⟨rfl, _, rfl⟩⟩
    · simp only [append, hw]
    · rw [Option.toList_none, List.append_nil]
      exact ht.tear (newline_not_mem_of_torn hrecord hrest hpart)

theorem saveTo_accounts (h : log.Accounts disk written done) (hc : log.cursor = some c)
    (hrecord : 10 ∉ record) :
    ∃ answer log' disk' gained, log.saveTo c record disk = (answer, log', disk') ∧
      log'.Accounts disk' (written ++ gained.toList) done ∧
      (gained = none ∧ (∃ fault, answer = .error fault) ∨
        gained = some (openEnd (disk.content c.handle) ++ record)) := by
  obtain ⟨answer, disk', gained, ha, h', hgained⟩ := append_accounts h hc hrecord
  refine ⟨answer, _, disk', gained, ?_, h'.resize hc (c.size + (line record).length), hgained⟩
  rw [saveTo, ha]

theorem saveFresh_accounts (h : log.Accounts disk written done) (hc : log.cursor = none)
    (hrecord : 10 ∉ record) (now : Nat) :
    ∃ answer log' disk' gained, log.saveFresh record now disk = (answer, log', disk') ∧
      log'.Accounts disk' (written ++ gained.toList) done ∧
      (gained = none ∧ (∃ fault, answer = .error fault) ∨ gained = some record) := by
  obtain ⟨disk₁, ⟨⟨fault, ho⟩, h₁⟩ | ⟨c, ho, hempty, h₁⟩⟩ := openFile_accounts h hc now
  · refine ⟨.error fault, { log with cursor := none }, disk₁, none, ?_, ?_, .inl ⟨rfl, fault, rfl⟩⟩
    · rw [saveFresh, ho]
    · rw [Option.toList_none, List.append_nil, ← hc]
      exact h₁
  · obtain ⟨answer, log', disk', gained, hs, h', hgained⟩ := saveTo_accounts h₁ rfl hrecord
    rw [hempty] at hgained
    refine ⟨answer, log', disk', gained, ?_, h', hgained⟩
    rw [saveFresh, ho]
    exact hs

end

/-! ## 4. Rows of saves -/

/-- What an earlier save left of a line at the end of the file that the next record goes to. -/
def lead (log : RotatingLog) (disk : Disk) : List UInt8 :=
  match log.cursor with
  | none => []
  | some c => if log.maxSize ≤ c.size then [] else openEnd (disk.content c.handle)

/-- The times, begun and put aside, of the file that a save at `now` puts aside. -/
def turn? (log : RotatingLog) (now : Nat) (disk : Disk) : Option (Nat × Nat) :=
  match log.cursor with
  | none => none
  | some c =>
    if log.maxSize ≤ c.size then
      match (log.putAside c now disk).1 with
      | .ok () => some (c.created, now)
      | .error _ => none
    else none

end RotatingLog

/-- A save, with what it found and how it ended. -/
structure Saving where
  record : List UInt8
  answer : Except Fault Unit
  /-- What was left of a line at the end of the file that the record goes to. -/
  lead : List UInt8
  /-- The times of the file that was put aside. -/
  turn? : Option (Nat × Nat)

/-- The line that a record is on, if it is written. -/
def Saving.line (s : Saving) : List UInt8 :=
  s.lead ++ s.record

def Saving.isOk (s : Saving) : Bool :=
  match s.answer with
  | .ok () => true
  | .error _ => false

namespace RotatingLog

/-- Saves records one after another, as `saveAll` does, with what the saves found. -/
def savings (log : RotatingLog) (disk : Disk) : List (List UInt8 × Moment) → List Saving
  | [] => []
  | (record, time) :: saves =>
    let (answer, log', disk') := log.save record time disk
    ⟨record, answer, log.lead disk, log.turn? time.unixNanos disk⟩ :: savings log' disk' saves

section

variable {log : RotatingLog} {disk : Disk} {written : List (List UInt8)} {done : List (Nat × Nat)}
  {record : List UInt8}

theorem savings_cons {time : Moment} {answer : Except Fault Unit} {log' : RotatingLog}
    {disk' : Disk} (h : log.save record time disk = (answer, log', disk'))
    (saves : List (List UInt8 × Moment)) :
    log.savings disk ((record, time) :: saves) =
      ⟨record, answer, log.lead disk, log.turn? time.unixNanos disk⟩ ::
        log'.savings disk' saves := by
  rw [savings, h]

/-- The answers are those that the callers get. -/
theorem savings_answers (log : RotatingLog) (disk : Disk) (saves : List (List UInt8 × Moment)) :
    (log.savings disk saves).map Saving.answer = (log.saveAll disk saves).answers := by
  induction saves generalizing log disk with
  | nil => rfl
  | cons s saves ih =>
    obtain ⟨record, time⟩ := s
    obtain ⟨answer, log', disk', h⟩ : ∃ answer log' disk',
        log.save record time disk = (answer, log', disk') := ⟨_, _, _, rfl⟩
    rw [savings_cons h, saveAll, List.map_cons, List.map_cons, carryOut_save h, ih]
    rfl

/-- Files are put aside at the times of saves. -/
theorem savings_turns (log : RotatingLog) (disk : Disk) (saves : List (List UInt8 × Moment)) :
    (((log.savings disk saves).filterMap Saving.turn?).map Prod.snd).Sublist
      (saves.map fun s => s.2.unixNanos) := by
  induction saves generalizing log disk with
  | nil => exact .refl _
  | cons s saves ih =>
    obtain ⟨record, time⟩ := s
    obtain ⟨answer, log', disk', h⟩ : ∃ answer log' disk',
        log.save record time disk = (answer, log', disk') := ⟨_, _, _, rfl⟩
    rw [savings_cons h, List.map_cons, List.filterMap_cons]
    have hturn : log.turn? time.unixNanos disk = none ∨
        ∃ c, log.turn? time.unixNanos disk = some (c, time.unixNanos) := by
      unfold turn?
      split
      · exact .inl rfl
      · split
        · split
          · exact .inr ⟨_, rfl⟩
          · exact .inl rfl
        · exact .inl rfl
    rcases hturn with hnone | ⟨c, hsome⟩
    · simp only [hnone]
      exact (ih log' disk').cons _
    · simp only [hsome, List.map_cons]
      exact (ih log' disk').cons_cons _

/-- **A save keeps account of the lines.** -/
theorem save_accounts (h : log.Accounts disk written done) (hrecord : 10 ∉ record)
    (time : Moment) :
    ∃ answer log' disk' gained, log.save record time disk = (answer, log', disk') ∧
      log'.Accounts disk' (written ++ gained.toList)
        (done ++ (log.turn? time.unixNanos disk).toList) ∧
      (gained = none ∧ (∃ fault, answer = .error fault) ∨
        gained = some (log.lead disk ++ record)) := by
  unfold save turn? lead
  cases hc : log.cursor with
  | none =>
    simp only [Option.toList_none, List.append_nil, List.nil_append]
    exact saveFresh_accounts h hc hrecord time.unixNanos
  | some c =>
    by_cases hfull : log.maxSize ≤ c.size
    · simp only [if_pos hfull]
      obtain ⟨disk₁, ⟨⟨fault, hp⟩, h₁⟩ | ⟨hp, h₁⟩⟩ := putAside_accounts h hc time.unixNanos
      · simp only [hp, Option.toList_none, List.append_nil]
        refine ⟨.error fault, log, disk₁, none, rfl, ?_, .inl ⟨rfl, fault, rfl⟩⟩
        rw [Option.toList_none, List.append_nil]
        exact h₁
      · simp only [hp, List.nil_append]
        exact saveFresh_accounts h₁ rfl hrecord time.unixNanos
    · simp only [if_neg hfull, Option.toList_none, List.append_nil]
      exact saveTo_accounts h hc hrecord

/-- **A row of saves keeps account of the lines**: those that are written are among those that
were to be written, and all that was reported as saved is among them. -/
theorem saveAll_accounts (h : log.Accounts disk written done) (saves : List (List UInt8 × Moment))
    (hrecords : ∀ s ∈ saves, 10 ∉ s.1) :
    ∃ more, (log.saveAll disk saves).log.Accounts (log.saveAll disk saves).disk (written ++ more)
        (done ++ (log.savings disk saves).filterMap Saving.turn?) ∧
      (((log.savings disk saves).filter Saving.isOk).map Saving.line).Sublist more ∧
      more.Sublist ((log.savings disk saves).map Saving.line) := by
  induction saves generalizing log disk written done with
  | nil =>
    refine ⟨[], ?_, .refl _, .refl _⟩
    rw [savings, List.filterMap_nil, List.append_nil, List.append_nil]
    exact h
  | cons s saves ih =>
    obtain ⟨record, time⟩ := s
    obtain ⟨answer, log', disk', gained, hs, h', hgained⟩ :=
      save_accounts h (hrecords _ List.mem_cons_self) time
    obtain ⟨more, hmore, hok, hall⟩ := ih h' fun s hs => hrecords s (List.mem_cons_of_mem _ hs)
    rw [savings_cons hs, saveAll, List.map_cons, carryOut_save hs]
    refine ⟨gained.toList ++ more, ?_, ?_, ?_⟩
    · rw [List.append_assoc, List.append_assoc] at hmore
      rw [List.filterMap_cons]
      cases ht : log.turn? time.unixNanos disk <;> simpa [ht, saveAll] using hmore
    · rcases hgained with ⟨rfl, fault, rfl⟩ | rfl
      · exact hok
      · cases answer with
        | ok u => exact hok.cons_cons _
        | error fault => exact hok.cons _
    · rcases hgained with ⟨rfl, -⟩ | rfl
      · exact hall.cons _
      · exact hall.cons_cons _

end

end RotatingLog

/-! ## 5. What the files hold -/

theorem Tally.wholeLinesIn {log : RotatingLog} {disk : Disk} {closed : List Piece}
    {current : Option Piece} {written : List (List UInt8)} {done : List (Nat × Nat)}
    {lost : List (List UInt8)} (h : Tally closed current written done lost)
    (hb : log.Bears disk closed current) :
    (disk.wholeLinesIn log.dir.place ++ lost).Perm written := by
  have hfiles : disk.filesIn log.dir.place =
      ((closed ++ current.toList).map Piece.file).map fun f => (f.name, f.bytes) :=
    hb.holds.filesIn
  have hlines : disk.wholeLinesIn log.dir.place =
      (closed ++ current.toList).flatMap Piece.lines := by
    rw [Disk.wholeLinesIn, hfiles, List.map_map, List.flatMap_map]
    rfl
  rw [hlines]
  exact h.total

/-- A log that was just set up on an empty directory has written nothing. -/
theorem RotatingLog.accounts_new {disk : Disk} {dir : Path} (h : disk.calm.Holds dir.place [])
    (maxSize : Nat) : (RotatingLog.new dir maxSize).Accounts disk [] [] := by
  refine ⟨[], none, [], ⟨h, fun hne => absurd rfl hne, rfl, fun _ hv => (by cases hv),
    fun _ hv => absurd hv List.not_mem_nil⟩, .refl _, fun c p => ?_, fun _ => rfl⟩
  exact ⟨fun h => absurd h List.not_mem_nil, fun ⟨_, h, _⟩ => absurd h List.not_mem_nil⟩

theorem RotatingLog.save_dir (log : RotatingLog) (record : List UInt8) (time : Moment)
    (disk : Disk) : (log.save record time disk).2.1.dir = log.dir := by
  have hfresh : ∀ disk, (log.saveFresh record time.unixNanos disk).2.1.dir = log.dir := by
    intro disk
    unfold saveFresh
    split <;> rfl
  unfold save
  split
  · exact hfresh disk
  · split
    · split
      · rfl
      · exact hfresh _
    · rfl

/-- A log stays in its directory. -/
theorem RotatingLog.saveAll_dir (log : RotatingLog) (disk : Disk)
    (saves : List (List UInt8 × Moment)) : (log.saveAll disk saves).log.dir = log.dir := by
  induction saves generalizing log disk with
  | nil => rfl
  | cons s saves ih =>
    rw [saveAll, List.map_cons, carryOut_save rfl]
    exact (ih _ _).trans (log.save_dir s.1 s.2 disk)

/-- **A saved record is on a line by itself unless an earlier write was torn.** On a disk with any
faults in store and in a directory that is empty or still to be made, with any size limit and
records without newlines, and with any times: the whole lines of the files, with those that were
lost, are written by the saves, each behind what was left of a line there; every save that
succeeded wrote its line, and none is lost as long as no two files were put aside under the same
two times. So if no save that succeeded found such a rest, each of their records is a whole line.
Times that move forward from the epoch put no two files aside alike. -/
theorem saveAll_whole_lines (disk : Disk) (dir : Path) (hdisk : disk.calm.Holds dir.place [])
    (maxSize : Nat) (saves : List (List UInt8 × Moment)) (hrecords : ∀ s ∈ saves, 10 ∉ s.1) :
    let log := RotatingLog.new dir maxSize
    let savings := log.savings disk saves
    let turns := savings.filterMap Saving.turn?
    let lines := (log.saveAll disk saves).disk.wholeLinesIn dir.place
    savings.map Saving.answer = (log.saveAll disk saves).answers ∧
      (∃ written lost, ((savings.filter Saving.isOk).map Saving.line).Sublist written ∧
        written.Sublist (savings.map Saving.line) ∧ (lines ++ lost).Perm written ∧
        (turns.Nodup → lost = [])) ∧
      (turns.Nodup → (∀ s ∈ savings, s.isOk = true → s.lead = []) →
        ((savings.filter Saving.isOk).map Saving.record).Subperm lines) ∧
      (saves.Pairwise (fun s t => s.2.unixNanos < t.2.unixNanos) → turns.Nodup) := by
  intro log savings turns lines
  obtain ⟨written, ⟨closed, current, lost, hb, ht⟩, hok, hall⟩ :=
    RotatingLog.saveAll_accounts (RotatingLog.accounts_new hdisk maxSize) saves hrecords
  rw [List.nil_append] at ht
  have hperm := ht.wholeLinesIn hb
  rw [RotatingLog.saveAll_dir] at hperm
  have hspared : turns.Nodup → lost = [] := ht.spared
  refine ⟨RotatingLog.savings_answers log disk saves, ⟨written, lost, hok, hall, hperm, hspared⟩,
    fun hturns hleads => ?_, fun htimes => ?_⟩
  · have hrecords : (savings.filter Saving.isOk).map Saving.record =
        (savings.filter Saving.isOk).map Saving.line := by
      refine List.map_congr_left fun s hs => ?_
      obtain ⟨hs, hsok⟩ := List.mem_filter.mp hs
      rw [Saving.line, hleads s hs hsok, List.nil_append]
    rw [hspared hturns, List.append_nil] at hperm
    rw [hrecords]
    exact hok.subperm.trans hperm.symm.subperm
  · have hnodup : (saves.map fun s => s.2.unixNanos).Nodup := by
      rw [List.nodup_iff_pairwise_ne, List.pairwise_map]
      exact htimes.imp Nat.ne_of_lt
    exact List.Nodup.of_map Prod.snd ((RotatingLog.savings_turns log disk saves).nodup hnodup)

/-- A directory that cannot be made, a file that cannot be put aside and a flush that fails cost
no record that was reported as saved. -/
theorem saveAll_whole_lines_no_rest :
    let log := RotatingLog.new ⟨"/data", ["", "data"]⟩ 1
    let disk : Disk := { plan := { makeDirs := [some "read-only"], rename := [some "busy"],
                                   flush := [none, some "disk full"] } }
    let saves := [([97], ⟨1⟩), ([98], ⟨2⟩), ([99], ⟨3⟩), ([99], ⟨4⟩), ([100], ⟨5⟩)]
    ((log.savings disk saves).filter Saving.isOk).map Saving.record = [[98], [100]] ∧
      [[98], [100]].Subperm ((log.saveAll disk saves).disk.wholeLinesIn ["", "data"]) := by
  intro log disk saves
  have hsaved : ((log.savings disk saves).filter Saving.isOk).map Saving.record =
      [[98], [100]] := by
    decide +kernel
  have h := (saveAll_whole_lines disk ⟨"/data", ["", "data"]⟩ (Disk.holds_empty _) 1 saves
    (by decide)).2.2.1 (by decide +kernel) (by decide +kernel)
  exact ⟨hsaved, hsaved ▸ h⟩

/-- **A torn write taints the next record**: two bytes of the first record are in the file when
its write fails, and the second record, reported as saved, is on a line with them. -/
theorem torn_write_taints_a_record :
    let log := RotatingLog.new ⟨"/data", ["", "data"]⟩ 1000
    let after := log.saveAll { plan := { write := [.short 2, .failed "disk full"] } }
      [([97, 97, 97, 97], ⟨1⟩), ([98], ⟨2⟩)]
    after.answers.getLast? = some (.ok ()) ∧ [98] ∉ after.disk.wholeLinesIn ["", "data"] := by
  decide +kernel

end Vitals.Log
