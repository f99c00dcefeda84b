import Mathlib.Data.List.Basic
import Vitals.Proofs.Log.Directory

/-!
# A directory without faults

As long as the disk has no fault in store, each call of the log does to its directory what its
name says, and succeeds. This file fixes `Disk.Holds`, a disk whose directory holds given files,
and proves one lemma for each call (`Holds.makeDirs`, `Holds.openAppend`, `Holds.rename`,
`Holds.writeAll`, `Holds.flush`); the log is then described by the files alone. A renamed file
takes the place of a file that already bore its new name: `Holds.rename` is where a file can get
lost.
-/

namespace Vitals.Log

/-- A file as a directory shows it. -/
structure DirFile where
  name : String
  id : FileId
  bytes : List UInt8
  deriving DecidableEq, Repr

namespace Disk

/-- The names and contents of the files that lie directly in a directory. -/
def filesIn (d : Disk) (dir : Place) : List (String × List UInt8) :=
  (listing dir d.entries).filterMap fun x =>
    match x.2 with
    | .directory => none
    | .file id => some (x.1, d.content id)

/-- **A disk without faults whose directory holds given files**, and nothing else. No file is on
the way to the directory; the directory itself may still have to be made. -/
structure Holds (d : Disk) (dir : Place) (files : List DirFile) : Prop where
  plan : d.plan = {}
  way : d.Passable dir
  shows : listing dir d.entries = files.map fun f => (f.name, .file f.id)
  names : (files.map DirFile.name).Nodup
  ids : (files.map DirFile.id).Nodup
  contents : ∀ f ∈ files, d.contents[f.id]? = some f.bytes

section Holds

variable {d : Disk} {dir : Place} {files front : List DirFile} {f : DirFile}

/-! ## 1. What is read off -/

theorem Holds.content (h : d.Holds dir files) (hf : f ∈ files) : d.content f.id = f.bytes := by
  rw [Disk.content, h.contents f hf, Option.getD_some]

theorem Holds.id_lt (h : d.Holds dir files) (hf : f ∈ files) : f.id < d.contents.length :=
  (List.getElem?_eq_some_iff.mp (h.contents f hf)).1

/-- The last file shares its name with no other. -/
theorem Holds.name_ne (h : d.Holds dir (front ++ [f])) {g : DirFile} (hg : g ∈ front) :
    g.name ≠ f.name := by
  have hn := h.names
  rw [List.map_append, List.nodup_append] at hn
  exact hn.2.2 _ (List.mem_map_of_mem hg) _ List.mem_cons_self

theorem Holds.id_ne (h : d.Holds dir (front ++ [f])) {g : DirFile} (hg : g ∈ front) :
    g.id ≠ f.id := by
  have hn := h.ids
  rw [List.map_append, List.nodup_append] at hn
  exact hn.2.2 _ (List.mem_map_of_mem hg) _ List.mem_cons_self

/-- **What a reader of the directory finds.** -/
theorem Holds.filesIn (h : d.Holds dir files) :
    d.filesIn dir = files.map fun f => (f.name, f.bytes) := by
  rw [Disk.filesIn, h.shows, List.filterMap_map, List.filterMap_eq_map_iff_forall_eq_some]
  intro f hf
  simp only [Function.comp, h.content hf]

theorem Holds.entry?_eq_none (h : d.Holds dir files) {name : String} (hne : name ≠ "")
    (hnew : ∀ f ∈ files, f.name ≠ name) : d.entry? (dir ++ [name]) = none := by
  rw [entry?_append_singleton d dir hne, h.shows, List.lookup_eq_none_iff]
  intro x hx
  obtain ⟨f, hf, rfl⟩ := List.mem_map.mp hx
  exact bne_iff_ne.mpr (hnew f hf).symm

/-- Everything in the directory is a file. -/
theorem Holds.entry?_ne_directory (h : d.Holds dir files) {name : String} (hne : name ≠ "") :
    d.entry? (dir ++ [name]) ≠ some .directory := by
  rw [entry?_append_singleton d dir hne, h.shows]
  intro he
  obtain ⟨l₁, l₂, hl, -⟩ := List.lookup_eq_some_iff.mp he
  have hx : (name, Entry.directory) ∈ files.map fun f => (f.name, Entry.file f.id) := by
    rw [hl]
    exact List.mem_append_right _ List.mem_cons_self
  obtain ⟨f, -, hf⟩ := List.mem_map.mp hx
  exact absurd (congrArg Prod.snd hf) (by simp)

theorem Holds.exists_id (h : d.Holds dir files) (hf : f ∈ files) (hne : f.name ≠ "") :
    ∃ id, d.entry? (dir ++ [f.name]) = some (.file id) := by
  cases he : d.entry? (dir ++ [f.name]) with
  | none =>
    rw [entry?_append_singleton d dir hne, h.shows, List.lookup_eq_none_iff] at he
    have := he (f.name, .file f.id) (List.mem_map.mpr ⟨f, hf, rfl⟩)
    exact absurd rfl (bne_iff_ne.mp this)
  | some e =>
    cases e with
    | directory => exact absurd he (h.entry?_ne_directory hne)
    | file id => exact ⟨id, rfl⟩

/-- A disk with nothing on it holds no file anywhere. -/
theorem holds_empty (dir : Place) : ({} : Disk).Holds dir [] where
  plan := rfl
  way n id h := by
    unfold entry? at h
    split at h <;> cases h
  shows := rfl
  names := .nil
  ids := .nil
  contents _ h := absurd h List.not_mem_nil

/-! ## 2. What changes a directory -/

/-- A disk after a call that changed nothing else. -/
def logged (d : Disk) (call : Call) : Disk :=
  { d with calls := d.calls ++ [call] }

theorem Holds.logged (h : d.Holds dir files) (call : Call) : (d.logged call).Holds dir files :=
  ⟨h.plan, h.way, h.shows, h.names, h.ids, h.contents⟩

/-- Directories that are made on the way do not show. -/
theorem Holds.add_directories (h : d.Holds dir files) {more : List (Place × Entry)}
    (hmore : ∀ x ∈ more, x.1.length ≤ dir.length) (hd : (d.add more).HasDir dir) :
    (d.add more).Holds dir files := by
  refine ⟨h.plan, hd.passable, ?_, h.names, h.ids, h.contents⟩
  rw [add, listing_append, h.shows, listing_eq_nil, List.append_nil]
  intro x hx
  have := hmore x hx
  omega

/-- The disk with a new file, empty. -/
def addFile (d : Disk) (p : Place) : Disk :=
  { d.add [(p, .file d.contents.length)] with contents := d.contents ++ [[]] }

theorem Holds.addFile (h : d.Holds dir files) (hd : d.HasDir dir) {name : String}
    (hnew : ∀ f ∈ files, f.name ≠ name) :
    (d.addFile (dir ++ [name])).Holds dir (files ++ [⟨name, d.contents.length, []⟩]) ∧
      (d.addFile (dir ++ [name])).HasDir dir := by
  have hadd : (d.add [(dir ++ [name], .file d.contents.length)]).HasDir dir :=
    fun n => entry?_add (hd n) _
  refine ⟨⟨h.plan, hadd.passable, ?_, ?_, ?_, ?_⟩, hadd⟩
  · rw [Disk.addFile, add, listing_append, h.shows, List.map_append]
    simp [listing]
  · rw [List.map_append, List.nodup_append]
    refine ⟨h.names, by simp, fun a ha b hb => ?_⟩
    obtain ⟨f, hf, rfl⟩ := List.mem_map.mp ha
    rw [List.mem_singleton.mp hb]
    exact hnew f hf
  · rw [List.map_append, List.nodup_append]
    refine ⟨h.ids, by simp, fun a ha b hb => ?_⟩
    obtain ⟨f, hf, rfl⟩ := List.mem_map.mp ha
    rw [List.mem_singleton.mp hb]
    exact Nat.ne_of_lt (h.id_lt hf)
  · intro f hf
    rcases List.mem_append.mp hf with hf | hf
    · rw [Disk.addFile, List.getElem?_append_left (h.id_lt hf), h.contents f hf]
    · rw [List.mem_singleton.mp hf]
      exact List.getElem?_concat_length

/-- The disk with an entry under another name. -/
def renamed (d : Disk) (source target : Place) : Disk :=
  { d with entries := moved (d.entries.filter fun x => x.1 != target) source target }

/-- Renaming an entry of a directory leaves the directory there. -/
theorem HasDir.renamed (hd : d.HasDir dir) (source target : String) :
    (d.renamed (dir ++ [source]) (dir ++ [target])).HasDir dir := by
  intro n
  have hlen : ∀ name, (dir.take n).length < (dir ++ [name]).length := fun name => by
    rw [List.length_append, List.length_singleton]
    exact Nat.lt_succ_of_le (List.length_take_le' n _)
  rw [← hd n]
  refine entry?_congr ?_
  rw [Disk.renamed, lookup_moved (hlen source) (hlen target), lookup_filter_ne]
  intro e
  exact Nat.lt_irrefl _ (e ▸ hlen target)

/-- **A file that gets another name takes the place of a file that bore it.** -/
theorem Holds.renamed (h : d.Holds dir (front ++ [f])) (hd : d.HasDir dir) {name : String}
    (hself : f.name ≠ name) :
    (d.renamed (dir ++ [f.name]) (dir ++ [name])).Holds dir
        ((front.filter fun g => g.name != name) ++ [{ f with name := name }]) ∧
      (d.renamed (dir ++ [f.name]) (dir ++ [name])).HasDir dir := by
  have hd' := hd.renamed f.name name
  refine ⟨⟨h.plan, hd'.passable, ?_, ?_, ?_, ?_⟩, hd'⟩
  · rw [Disk.renamed, listing_moved, listing_filter_ne, h.shows, List.filter_map, List.map_map,
      List.filter_append, List.map_append, List.map_append]
    congr 1
    · refine List.map_congr_left fun g hg => ?_
      simp [h.name_ne (List.mem_filter.mp hg).1]
    · simp [hself]
  · rw [List.map_append, List.nodup_append]
    refine ⟨?_, by simp, fun a ha b hb => ?_⟩
    · have hfront := (List.nodup_append.mp (List.map_append ▸ h.names)).1
      exact (List.filter_sublist.map DirFile.name).nodup hfront
    · obtain ⟨g, hg, rfl⟩ := List.mem_map.mp ha
      rw [List.mem_singleton.mp hb]
      simpa using (List.mem_filter.mp hg).2
  · have hids := h.ids
    rw [List.map_append] at hids ⊢
    exact ((List.filter_sublist.map DirFile.id).append (List.Sublist.refl _)).nodup hids
  · intro g hg
    rcases List.mem_append.mp hg with hg | hg
    · exact h.contents g (List.mem_append_left _ (List.mem_filter.mp hg).1)
    · rw [List.mem_singleton.mp hg]
      exact h.contents f (by simp)

theorem Holds.append (h : d.Holds dir (front ++ [f])) (bytes : List UInt8) :
    (d.append f.id bytes).Holds dir (front ++ [{ f with bytes := f.bytes ++ bytes }]) := by
  have hf : f ∈ front ++ [f] := by simp
  refine ⟨h.plan, h.way, ?_, ?_, ?_, ?_⟩
  · rw [Disk.append, h.shows, List.map_append, List.map_append]
    rfl
  · have hnames := h.names
    rw [List.map_append] at hnames ⊢
    exact hnames
  · have hids := h.ids
    rw [List.map_append] at hids ⊢
    exact hids
  · intro g hg
    rcases List.mem_append.mp hg with hg | hg
    · rw [Disk.append, List.getElem?_set_ne (h.id_ne hg).symm]
      exact h.contents g (List.mem_append_left _ hg)
    · rw [List.mem_singleton.mp hg, Disk.append, List.getElem?_set_self (h.id_lt hf), h.content hf]

/-! ## 3. The calls of the log -/

section Calls

variable {path : Path}

theorem makeDirs_of_makeMissing {d' : Disk} (hp : d.plan = {})
    (h : (d.logged (.makeDirs path)).makeMissing path.place path.place.length = .ok d') :
    d.makeDirs path = (.ok (), d') := by
  obtain ⟨entries, contents, plan, calls⟩ := d
  cases hp
  simp only [logged] at h
  simp only [Disk.makeDirs, nextFault, h]

theorem openAppend_of_entry?_eq_none (hp : d.plan = {}) (hw : d.checkWay path.place = .ok ())
    (he : d.entry? path.place = none) :
    d.openAppend path = (.ok (d.contents.length, 0),
      (d.logged (.openFile path)).addFile path.place) := by
  obtain ⟨entries, contents, plan, calls⟩ := d
  cases hp
  have hw' : (logged ⟨entries, contents, {}, calls⟩ (.openFile path)).checkWay path.place =
    .ok () := hw
  have he' : entry? (logged ⟨entries, contents, {}, calls⟩ (.openFile path)) path.place = none := he
  simp only [logged] at hw' he'
  simp only [Disk.openAppend, nextFault, hw', he', logged, addFile, add]

theorem openAppend_of_entry?_eq_file {id : FileId} (hp : d.plan = {})
    (hw : d.checkWay path.place = .ok ()) (he : d.entry? path.place = some (.file id)) :
    d.openAppend path = (.ok (id, (d.content id).length), d.logged (.openFile path)) := by
  obtain ⟨entries, contents, plan, calls⟩ := d
  cases hp
  have hw' : (logged ⟨entries, contents, {}, calls⟩ (.openFile path)).checkWay path.place =
    .ok () := hw
  have he' : entry? (logged ⟨entries, contents, {}, calls⟩ (.openFile path)) path.place =
    some (.file id) := he
  simp only [logged] at hw' he'
  simp only [Disk.openAppend, nextFault, hw', he', logged]
  rfl

theorem rename_of_renameEntry_error {source target : Path} {reason : String} (hp : d.plan = {})
    (h : (d.logged (.rename source target)).renameEntry source.place target.place =
      .error reason) :
    d.rename source target = (.error reason, d.logged (.rename source target)) := by
  obtain ⟨entries, contents, plan, calls⟩ := d
  cases hp
  simp only [logged] at h
  simp only [Disk.rename, nextFault, h, logged]

theorem rename_of_renameEntry {source target : Path} {d' : Disk} (hp : d.plan = {})
    (h : (d.logged (.rename source target)).renameEntry source.place target.place = .ok d') :
    d.rename source target = (.ok (), d') := by
  obtain ⟨entries, contents, plan, calls⟩ := d
  cases hp
  simp only [logged] at h
  simp only [Disk.rename, nextFault, h]

theorem renameEntry_of_file {source target : Place} {id : FileId}
    (hs : d.checkWay source = .ok ()) (ht : d.checkWay target = .ok ())
    (he : d.entry? source = some (.file id)) (hn : d.entry? target ≠ some .directory) :
    d.renameEntry source target = .ok (d.renamed source target) := by
  unfold renameEntry
  simp only [hs, ht, he, bind, Except.bind]
  split
  · rename_i h
    exact absurd h hn
  · rename_i h _
    cases h
  · rename_i h _
    cases h
  · rfl

theorem writeAll_eq (hp : d.plan = {}) (id : FileId) (bytes : List UInt8) :
    d.writeAll id bytes = (.ok (), d.append id bytes) := by
  obtain ⟨entries, contents, plan, calls⟩ := d
  cases hp
  cases bytes <;> rfl

/-- **Making the directory succeeds** and changes no file. -/
theorem Holds.makeDirs (h : d.Holds path.place files) :
    ∃ d', d.makeDirs path = (.ok (), d') ∧ d'.Holds path.place files ∧ d'.HasDir path.place := by
  have hway : (d.logged (.makeDirs path)).Passable path.place := h.way
  obtain ⟨more, hmk, hmore, hdir⟩ := makeMissing_of_passable hway path.place.length
  have hd := hasDir_of_le hdir
  refine ⟨(d.logged (.makeDirs path)).add more, makeDirs_of_makeMissing h.plan hmk, ?_, hd⟩
  exact (h.logged _).add_directories (fun x hx => (hmore x hx).1) hd

/-- **Opening a new file succeeds** and makes it, empty. -/
theorem Holds.openAppend (h : d.Holds path.place files) (hd : d.HasDir path.place) {name : String}
    (hne : name ≠ "") (hnew : ∀ f ∈ files, f.name ≠ name) :
    ∃ id d', d.openAppend (path.join name) = (.ok (id, 0), d') ∧
      d'.Holds path.place (files ++ [⟨name, id, []⟩]) ∧ d'.HasDir path.place := by
  have hopen : d.openAppend (path.join name) = _ :=
    openAppend_of_entry?_eq_none h.plan (hd.checkWay name) (h.entry?_eq_none hne hnew)
  exact ⟨_, _, hopen, (h.logged _).addFile hd hnew⟩

/-- **Renaming the last file succeeds**, and the file that bore the new name is gone. -/
theorem Holds.rename (h : d.Holds path.place (front ++ [f])) (hd : d.HasDir path.place)
    {name : String} (hf : f.name ≠ "") (hne : name ≠ "") (hself : f.name ≠ name) :
    ∃ d', d.rename (path.join f.name) (path.join name) = (.ok (), d') ∧
      d'.Holds path.place ((front.filter fun g => g.name != name) ++ [{ f with name := name }]) ∧
      d'.HasDir path.place := by
  obtain ⟨id, he⟩ := h.exists_id (f := f) (by simp) hf
  have hren := renameEntry_of_file (d := d.logged (.rename (path.join f.name) (path.join name)))
    (hd.checkWay f.name) (hd.checkWay name) he (h.entry?_ne_directory hne)
  exact ⟨_, rename_of_renameEntry h.plan hren, (h.logged _).renamed hd hself⟩

/-- **Writing to the last file succeeds** and appends to it. -/
theorem Holds.writeAll (h : d.Holds dir (front ++ [f])) (hd : d.HasDir dir) (bytes : List UInt8) :
    ∃ d', d.writeAll f.id bytes = (.ok (), d') ∧
      d'.Holds dir (front ++ [{ f with bytes := f.bytes ++ bytes }]) ∧ d'.HasDir dir := by
  exact ⟨_, writeAll_eq h.plan f.id bytes, h.append bytes, hd⟩

theorem Holds.flush (h : d.Holds dir files) : d.flush = (.ok (), d) := by
  have hp := h.plan
  obtain ⟨entries, contents, plan, calls⟩ := d
  cases hp
  rfl

end Calls

end Holds

end Disk

end Vitals.Log
