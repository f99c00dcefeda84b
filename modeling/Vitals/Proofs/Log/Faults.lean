import Vitals.Proofs.Log.Faultless

/-!
# A directory and faults

A fault lies in the plan of a disk, not in what the disk holds. This file fixes `Disk.calm`, the
disk without its plan, and says of each call of the log what it can come to, whatever the plan: it
fails and leaves the directory as it was, or it does what it does without faults
(`makeDirs_of_holds`, `openAppend_of_holds`, `rename_of_holds`, `flush_of_holds`). Only a write
that fails leaves something behind, a first part of what was to be written (`writeAll_of_holds`).
-/

namespace Vitals.Log.Disk

/-- The disk with no fault in store. -/
def calm (d : Disk) : Disk :=
  { d with plan := {} }

section

variable {d : Disk} {path : Path} {dir : Place} {files front : List DirFile} {f : DirFile}

/-- **Making the directory** may fail; no file changes. -/
theorem makeDirs_of_holds (h : d.calm.Holds path.place files) :
    ∃ answer d', d.makeDirs path = (answer, d') ∧ d'.calm.Holds path.place files ∧
      (answer = .ok () → d'.calm.HasDir path.place) := by
  unfold makeDirs
  cases nextFault d.plan.makeDirs with
  | mk fault rest =>
    cases fault with
    | some reason => exact ⟨_, _, rfl, h.logged (.makeDirs path), nofun⟩
    | none =>
      obtain ⟨more, hmk, hmore, hdir⟩ := makeMissing_of_passable (d := { d with
        plan := { d.plan with makeDirs := rest }
        calls := d.calls ++ [.makeDirs path] }) h.way path.place.length
      have hd := hasDir_of_le hdir
      simp only [hmk]
      exact ⟨_, _, rfl, (h.logged (.makeDirs path)).add_directories (fun x hx => (hmore x hx).1) hd,
        fun _ => hd⟩

/-- **Opening a new file** may fail; otherwise there is a further file, empty. -/
theorem openAppend_of_holds (h : d.calm.Holds path.place files) (hd : d.calm.HasDir path.place)
    {name : String} (hne : name ≠ "") (hnew : ∀ f ∈ files, f.name ≠ name) :
    ∃ d', d'.calm.HasDir path.place ∧
      ((∃ reason, d.openAppend (path.join name) = (.error reason, d')) ∧
          d'.calm.Holds path.place files ∨
        ∃ id, d.openAppend (path.join name) = (.ok (id, 0), d') ∧
          d'.calm.Holds path.place (files ++ [⟨name, id, []⟩])) := by
  unfold openAppend
  cases nextFault d.plan.openFile with
  | mk fault rest =>
    cases fault with
    | some reason =>
      refine ⟨_, ?_, .inl ⟨⟨reason, rfl⟩, ?_⟩⟩
      · exact hd
      · exact h.logged (.openFile (path.join name))
    | none =>
      obtain ⟨hadd, hdir⟩ := (h.logged (.openFile (path.join name))).addFile hd hnew
      have hw : checkWay { d with
          plan := { d.plan with openFile := rest }
          calls := d.calls ++ [.openFile (path.join name)] } (path.join name).place = .ok () :=
        hd.checkWay name
      have he : entry? { d with
          plan := { d.plan with openFile := rest }
          calls := d.calls ++ [.openFile (path.join name)] } (path.join name).place = none :=
        h.entry?_eq_none hne hnew
      simp only [hw, he]
      refine ⟨_, ?_, .inr ⟨_, rfl, ?_⟩⟩
      · exact hdir
      · exact hadd

/-- **Renaming the last file** may fail; otherwise it takes the place of a file that bore the new
name. -/
theorem rename_of_holds (h : d.calm.Holds path.place (front ++ [f]))
    (hd : d.calm.HasDir path.place) {name : String} (hf : f.name ≠ "") (hne : name ≠ "")
    (hself : f.name ≠ name) :
    ∃ d', d'.calm.HasDir path.place ∧
      ((∃ reason, d.rename (path.join f.name) (path.join name) = (.error reason, d')) ∧
          d'.calm.Holds path.place (front ++ [f]) ∨
        d.rename (path.join f.name) (path.join name) = (.ok (), d') ∧
          d'.calm.Holds path.place
            ((front.filter fun g => g.name != name) ++ [{ f with name := name }])) := by
  unfold rename
  cases nextFault d.plan.rename with
  | mk fault rest =>
    cases fault with
    | some reason =>
      refine ⟨_, ?_, .inl ⟨⟨reason, rfl⟩, ?_⟩⟩
      · exact hd
      · exact h.logged (.rename (path.join f.name) (path.join name))
    | none =>
      obtain ⟨hren, hdir⟩ :=
        (h.logged (.rename (path.join f.name) (path.join name))).renamed hd hself
      obtain ⟨id, he⟩ := h.exists_id (f := f) (by simp) hf
      have hentry := renameEntry_of_file (d := { d with
          plan := { d.plan with rename := rest }
          calls := d.calls ++ [.rename (path.join f.name) (path.join name)] })
        (hd.checkWay f.name) (hd.checkWay name) he (h.entry?_ne_directory hne)
      simp only [Path.place_join, hentry]
      refine ⟨_, ?_, .inr ⟨rfl, ?_⟩⟩
      · exact hdir
      · exact hren

/-- A write takes all of a buffer, or fails and takes a first part of it. -/
theorem takeAll_cases (faults : List WriteFault) (bytes : List UInt8) :
    (takeAll faults bytes).2.1 = .ok () ∧ (takeAll faults bytes).1 = bytes ∨
      (∃ reason, (takeAll faults bytes).2.1 = .error reason) ∧
        ∃ rest, rest ≠ [] ∧ bytes = (takeAll faults bytes).1 ++ rest := by
  fun_induction takeAll faults bytes with
  | case1 | case2 | case3 => exact .inl ⟨rfl, rfl⟩
  | case4 _ _ _ ih => exact ih
  | case5 reason _ bytes hne => exact .inr ⟨⟨reason, rfl⟩, bytes, hne, rfl⟩
  | case6 _ bytes hne => exact .inr ⟨⟨wroteNothing, rfl⟩, bytes, hne, rfl⟩
  | case7 n rest bytes hne taken ended left h ih =>
    rw [h] at ih
    rcases ih with ⟨hok, hall⟩ | ⟨herr, more, hmore, hpart⟩
    · refine .inl ⟨hok, ?_⟩
      show bytes.take (n + 1) ++ taken = bytes
      rw [show taken = bytes.drop (n + 1) from hall, List.take_append_drop]
    · refine .inr ⟨herr, more, hmore, ?_⟩
      show bytes = (bytes.take (n + 1) ++ taken) ++ more
      rw [List.append_assoc, ← hpart, List.take_append_drop]

/-- **Writing to the last file** appends all, or fails and appends a first part. -/
theorem writeAll_of_holds (h : d.calm.Holds dir (front ++ [f])) (bytes : List UInt8) :
    ∃ answer taken d', d.writeAll f.id bytes = (answer, d') ∧
      d'.calm.Holds dir (front ++ [{ f with bytes := f.bytes ++ taken }]) ∧
      (d.calm.HasDir dir → d'.calm.HasDir dir) ∧
      (answer = .ok () ∧ taken = bytes ∨
        (∃ reason, answer = .error reason) ∧ ∃ rest, rest ≠ [] ∧ bytes = taken ++ rest) :=
  ⟨_, _, _, rfl, h.append (takeAll d.plan.write bytes).1, id, takeAll_cases d.plan.write bytes⟩

/-- **Flushing** may fail; no file changes. -/
theorem flush_of_holds (d : Disk) : ∃ answer d', d.flush = (answer, d') ∧ d'.calm = d.calm := by
  unfold flush
  cases nextFault d.plan.flush with
  | mk fault rest => cases fault <;> exact ⟨_, _, rfl, rfl⟩

end

end Vitals.Log.Disk
