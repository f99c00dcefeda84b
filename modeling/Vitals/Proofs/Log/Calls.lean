import Vitals.Proofs.Log.Faults

/-!
# What a call can do to files

A call of the log may fail whenever the plan of the disk has a fault for it, and may find whatever
others have put into its way. This file says of each call, on any disk that is in order and with any
faults in store, everything that it can do to the files. It fixes

* `Files`, the files of a disk by their places, and what can become of them: a file is renamed,
  one is made where there is none, and bytes are put behind the contents of one;
* `Disk.Tidy`, a disk in order, and `Disk.Turns`, what a row of calls makes of its files.

Main statements: `Tidy.makeDirs`, `Tidy.openAppend`, `Tidy.rename`, `Tidy.writeAll` and
`Tidy.flush`. A call that fails leaves all files as they are, but for a write, which may have put a
first part of its bytes into the file.
-/

namespace Vitals.Log

/-! ## 1. Files by their places -/

/-- A file: its identity and its contents. -/
structure Stored where
  id : FileId
  bytes : List UInt8
  deriving DecidableEq, Repr

/-- The files of a disk, by their places. -/
abbrev Files := Place → Option Stored

namespace Files

variable (f : Files)

/-- The file at `source` gets the place `target`, and whatever file had that place is gone. -/
def rename (source target : Place) : Files := fun p =>
  if p = target then f source else if p = source then none else f p

/-- A file is made, empty, if there is none. -/
def provide (place : Place) (id : FileId) : Files := fun p =>
  if p = place then some ((f place).getD ⟨id, []⟩) else f p

/-- Bytes are put behind the contents of a file. -/
def append (place : Place) (bytes : List UInt8) : Files := fun p =>
  if p = place then (f place).map fun s => { s with bytes := s.bytes ++ bytes } else f p

variable {f} {place p : Place}

theorem append_self {s : Stored} (h : f place = some s) (bytes : List UInt8) :
    f.append place bytes place = some { s with bytes := s.bytes ++ bytes } := by
  rw [append, if_pos rfl, h, Option.map_some]

theorem append_of_ne (h : p ≠ place) (bytes : List UInt8) : f.append place bytes p = f p :=
  if_neg h

theorem provide_self (id : FileId) :
    f.provide place id place = some ((f place).getD ⟨id, []⟩) :=
  if_pos rfl

theorem provide_of_eq_some {s : Stored} (h : f place = some s) (id : FileId) :
    f.provide place id = f := by
  funext p
  by_cases hp : p = place
  · rw [hp, provide_self, h, Option.getD_some]
  · rw [provide, if_neg hp]

theorem provide_of_ne (h : p ≠ place) (id : FileId) : f.provide place id p = f p :=
  if_neg h

end Files

namespace Disk

/-- The file at a place. -/
def fileAt? (d : Disk) : Files := fun p =>
  match d.entry? p with
  | some (.file id) => some ⟨id, d.content id⟩
  | _ => none

/-- **A disk in order.** -/
structure Tidy (d : Disk) : Prop where
  /-- Whatever is there lies in directories that are there, -/
  parents : ∀ p, d.entry? p ≠ none → ∀ n < p.length, d.entry? (p.take n) = some .directory
  /-- no file has two places, -/
  unique : ∀ p q id, d.entry? p = some (.file id) → d.entry? q = some (.file id) → p = q
  /-- and each has contents. -/
  made : ∀ p id, d.entry? p = some (.file id) → id < d.contents.length

/-- **What calls make of the files of a disk**, and of its record of calls. The disk they lead to is
in order. -/
structure Turns (d : Disk) (files : Files) (calls : List Call) (d' : Disk) : Prop where
  tidy : d'.Tidy
  files : d'.fileAt? = files
  calls : d'.calls = d.calls ++ calls

section

variable {d d' d'' : Disk} {p q : Place} {id : FileId}

theorem fileAt?_eq_some_iff {s : Stored} :
    d.fileAt? p = some s ↔ d.entry? p = some (.file s.id) ∧ d.content s.id = s.bytes := by
  unfold fileAt?
  split
  · rename_i i he
    constructor
    · intro h
      cases h
      exact ⟨he, rfl⟩
    · rintro ⟨hs, hc⟩
      cases he.symm.trans hs
      rw [hc]
  · rename_i hno
    exact ⟨nofun, fun h => absurd h.1 (hno s.id)⟩

theorem fileAt?_congr (he : ∀ p id, d'.entry? p = some (.file id) ↔ d.entry? p = some (.file id))
    (hc : d'.contents = d.contents) : d'.fileAt? = d.fileAt? := by
  funext p
  refine Option.ext fun s => ?_
  have hcontent : d'.content s.id = d.content s.id := by rw [content, hc, content]
  rw [fileAt?_eq_some_iff, fileAt?_eq_some_iff, he, hcontent]

theorem Tidy.id_lt (h : d.Tidy) {s : Stored} (hs : d.fileAt? p = some s) :
    s.id < d.contents.length :=
  h.made p s.id (fileAt?_eq_some_iff.mp hs).1

theorem Turns.trans {files files' : Files} {calls calls' : List Call}
    (h : d.Turns files calls d') (h' : d'.Turns files' calls' d'') :
    d.Turns files' (calls ++ calls') d'' :=
  ⟨h'.tidy, h'.files, by rw [h'.calls, h.calls, List.append_assoc]⟩

theorem Tidy.turns (h : d.Tidy) : d.Turns d.fileAt? [] d :=
  ⟨h, rfl, (List.append_nil _).symm⟩

/-- Nothing but what is always there lies on an empty disk. -/
theorem entry?_empty (plan : FaultPlan) (p : Place) :
    Disk.entry? { plan := plan } p = if p = [] ∨ p = [""] then some .directory else none :=
  rfl

theorem entry?_empty_ne_file (plan : FaultPlan) (p : Place) (id : FileId) :
    Disk.entry? { plan := plan } p ≠ some (.file id) := by
  rw [entry?_empty]
  split <;> exact nofun

/-- An empty disk is in order, whatever it has in store. -/
theorem tidy_empty (plan : FaultPlan) : ({ plan := plan } : Disk).Tidy := by
  refine ⟨fun p hp n hn => ?_, fun p _ id h => absurd h (entry?_empty_ne_file plan p id),
    fun p id h => absurd h (entry?_empty_ne_file plan p id)⟩
  rw [entry?_empty] at hp
  split at hp
  · rename_i hroot
    rcases hroot with rfl | rfl
    · cases hn
    · cases Nat.lt_one_iff.mp hn
      rfl
  · exact absurd rfl hp

theorem fileAt?_empty (plan : FaultPlan) (p : Place) :
    ({ plan := plan } : Disk).fileAt? p = none := by
  refine Option.eq_none_iff_forall_ne_some.mpr fun s hs => ?_
  exact entry?_empty_ne_file plan p s.id (fileAt?_eq_some_iff.mp hs).1

/-! ## 2. Entries -/

theorem entry?_add_of_none (h : d.entry? q = none) (e : Entry) (p : Place) :
    Disk.entry? (d.add [(q, e)]) p = if p = q then some e else d.entry? p := by
  by_cases hp : p = q
  · rw [if_pos hp, hp]
    exact entry?_add_self h e
  · have hlookup : List.lookup p [(q, e)] = none := by
      rw [List.lookup_cons, beq_eq_false_iff_ne.mpr hp]
      rfl
    rw [if_neg hp]
    refine entry?_congr ?_
    rw [add, List.lookup_append, hlookup, Option.or_none]

/-- A new entry in a directory leaves a disk in order. -/
theorem parents_add
    (h : ∀ p, d.entry? p ≠ none → ∀ n < p.length, d.entry? (p.take n) = some .directory)
    (hq : d.entry? q = none) (hway : ∀ n < q.length, d.entry? (q.take n) = some .directory)
    (e : Entry) (hp : Disk.entry? (d.add [(q, e)]) p ≠ none) (n : Nat) (hn : n < p.length) :
    Disk.entry? (d.add [(q, e)]) (p.take n) = some .directory := by
  refine entry?_add ?_ _
  rw [entry?_add_of_none hq] at hp
  split at hp
  · rename_i e'
    rw [e'] at hn ⊢
    exact hway n hn
  · exact h p hp n hn

theorem Tidy.addDirectory (h : d.Tidy) (hq : d.entry? q = none)
    (hway : ∀ n < q.length, d.entry? (q.take n) = some .directory) :
    (d.add [(q, .directory)]).Tidy ∧ ∀ p id,
      Disk.entry? (d.add [(q, .directory)]) p = some (.file id) ↔ d.entry? p = some (.file id) := by
  have hsame : ∀ p id, Disk.entry? (d.add [(q, .directory)]) p = some (.file id) ↔
      d.entry? p = some (.file id) := by
    intro p id
    rw [entry?_add_of_none hq]
    split
    · rename_i e
      rw [e, hq]
      exact ⟨nofun, nofun⟩
    · exact Iff.rfl
  refine ⟨⟨fun p hp n hn => parents_add h.parents hq hway _ hp n hn, fun p q id hp hq' => ?_,
    fun p id hp => h.made p id ((hsame p id).mp hp)⟩, hsame⟩
  exact h.unique p q id ((hsame p id).mp hp) ((hsame q id).mp hq')

theorem Tidy.addFile (h : d.Tidy) (hq : d.entry? q = none)
    (hway : ∀ n < q.length, d.entry? (q.take n) = some .directory) :
    (d.addFile q).Tidy ∧ (d.addFile q).fileAt? = d.fileAt?.provide q d.contents.length := by
  have hentry : ∀ p, Disk.entry? (d.addFile q) p =
      if p = q then some (.file d.contents.length) else d.entry? p := entry?_add_of_none hq _
  have hlen : (d.addFile q).contents.length = d.contents.length + 1 := by simp [Disk.addFile]
  have hold : ∀ {p id}, Disk.entry? (d.addFile q) p = some (.file id) →
      p = q ∧ id = d.contents.length ∨ p ≠ q ∧ d.entry? p = some (.file id) := by
    intro p id hp
    rw [hentry] at hp
    split at hp
    · rename_i e
      cases hp
      exact .inl ⟨e, rfl⟩
    · rename_i hne
      exact .inr ⟨hne, hp⟩
  refine ⟨⟨fun p hp n hn => parents_add h.parents hq hway _ hp n hn, fun p p' id hp hp' => ?_,
    fun p id hp => ?_⟩, ?_⟩
  · rcases hold hp with ⟨e, hid⟩ | ⟨hne, hp⟩
    · rcases hold hp' with ⟨e', -⟩ | ⟨-, hp'⟩
      · rw [e, e']
      · exact absurd (h.made p' id hp') (Nat.not_lt.mpr (Nat.le_of_eq hid.symm))
    · rcases hold hp' with ⟨-, hid⟩ | ⟨-, hp'⟩
      · exact absurd (h.made p id hp) (Nat.not_lt.mpr (Nat.le_of_eq hid.symm))
      · exact h.unique p p' id hp hp'
  · rw [hlen]
    rcases hold hp with ⟨-, hid⟩ | ⟨-, hp⟩
    · exact Nat.lt_succ_of_le (Nat.le_of_eq hid)
    · exact Nat.lt_succ_of_lt (h.made p id hp)
  · funext p
    by_cases hpq : p = q
    · have hnone : d.fileAt? q = none := by simp [fileAt?, hq]
      rw [Files.provide, if_pos hpq, hnone, Option.getD_none, fileAt?_eq_some_iff, hentry,
        if_pos hpq]
      exact ⟨rfl, by simp [content, Disk.addFile]⟩
    · rw [Files.provide_of_ne hpq]
      refine Option.ext fun s => ?_
      rw [fileAt?_eq_some_iff, fileAt?_eq_some_iff, hentry, if_neg hpq]
      refine and_congr_right fun he => ?_
      have hlt := h.made p s.id he
      rw [content, content, Disk.addFile, List.getElem?_append_left hlt]

/-- A file that lies at a place has nothing below it. -/
theorem Tidy.leaf (h : d.Tidy) (hs : d.entry? p = some (.file id)) (x : Place × Entry)
    (hx : x ∈ d.entries) : isBelow p x.1 = false := by
  refine Bool.eq_false_iff.mpr fun hb => ?_
  have hlt := length_lt_of_isBelow hb
  have htake : x.1.take p.length = p := by
    simp only [isBelow, Bool.and_eq_true, beq_iff_eq] at hb
    exact hb.2
  have hthere : d.entry? x.1 ≠ none := by
    unfold entry?
    split
    · exact Option.some_ne_none _
    · intro hnone
      rw [List.lookup_eq_none_iff] at hnone
      exact bne_iff_ne.mp (hnone x hx) rfl
  have hdir := h.parents x.1 hthere p.length hlt
  rw [htake, hs] at hdir
  cases hdir

/-- Renaming an entry with nothing below it changes its place and nothing else. -/
theorem lookup_moved_leaf {entries : List (Place × Entry)} {source target : Place}
    (hleaf : ∀ x ∈ entries, isBelow source x.1 = false) (hfree : ∀ x ∈ entries, x.1 ≠ target) :
    (moved entries source target).lookup p =
      if p = target then entries.lookup source else if p = source then none
        else entries.lookup p := by
  induction entries with
  | nil => simp [moved]
  | cons x entries ih =>
    obtain ⟨q, e⟩ := x
    have ih := ih (fun y hy => hleaf y (List.mem_cons_of_mem _ hy))
      fun y hy => hfree y (List.mem_cons_of_mem _ hy)
    have hq : isBelow source q = false := hleaf _ List.mem_cons_self
    have hqt : q ≠ target := hfree _ List.mem_cons_self
    by_cases hqs : q = source
    · rw [moved_cons_of_pos (.inl hqs), hqs, List.drop_length, List.append_nil, List.lookup_cons,
        ih, List.lookup_cons_self]
      by_cases hp : p = target
      · simp [hp]
      · rw [beq_eq_false_iff_ne.mpr hp, if_neg hp, if_neg hp]
        by_cases hps : p = source
        · rw [if_pos hps, if_pos hps]
        · rw [if_neg hps, if_neg hps, List.lookup_cons, beq_eq_false_iff_ne.mpr hps]
    · rw [moved_cons_of_neg (by simp [hqs, hq]), List.lookup_cons, ih, List.lookup_cons,
        List.lookup_cons, beq_eq_false_iff_ne.mpr (Ne.symm hqs)]
      by_cases hpq : p = q
      · subst hpq
        simp [hqt, hqs]
      · rw [beq_eq_false_iff_ne.mpr hpq]

/-- A file that is renamed leaves its place and takes another. -/
theorem Tidy.entry?_renamed (h : d.Tidy) {source target : Place}
    (hs : d.entry? source = some (.file id)) (ht : d.entry? target ≠ some .directory)
    (hne : source ≠ target) (p : Place) :
    Disk.entry? (d.renamed source target) p =
      if p = target then some (.file id) else if p = source then none else d.entry? p := by
  have hroot : ∀ q, d.entry? q ≠ some .directory → ¬(q = [] ∨ q = [""]) := by
    intro q hq hroot
    exact hq (if_pos hroot)
  have hsroot := hroot source (by rw [hs]; exact nofun)
  have htroot := hroot target ht
  have hlookup : d.entries.lookup source = some (.file id) := by
    unfold entry? at hs
    rwa [if_neg hsroot] at hs
  have hmoved : ∀ q, (d.renamed source target).entries.lookup q =
      if q = target then some (.file id) else if q = source then none
        else d.entries.lookup q := by
    intro q
    have hkept : ∀ x ∈ d.entries.filter fun x => x.1 != target, x ∈ d.entries ∧ x.1 ≠ target :=
      fun x hx => (List.mem_filter.mp hx).imp_right bne_iff_ne.mp
    rw [Disk.renamed, lookup_moved_leaf (fun x hx => h.leaf hs x (hkept x hx).1)
      fun x hx => (hkept x hx).2, lookup_filter_ne hne, hlookup]
    by_cases hq : q = target
    · rw [if_pos hq, if_pos hq]
    · rw [if_neg hq, if_neg hq, lookup_filter_ne hq]
  by_cases hp : p = [] ∨ p = [""]
  · have hps : p ≠ source := fun e => hsroot (e ▸ hp)
    have hpt : p ≠ target := fun e => htroot (e ▸ hp)
    rw [if_neg hpt, if_neg hps]
    unfold entry?
    rw [if_pos hp, if_pos hp]
  · unfold entry?
    rw [if_neg hp, if_neg hp, hmoved]

/-- **A file that is renamed replaces whatever file had its new place.** -/
theorem Tidy.fileAt?_renamed (h : d.Tidy) {source target : Place} {s : Stored}
    (hs : d.fileAt? source = some s) (ht : d.entry? target ≠ some .directory)
    (hne : source ≠ target) :
    (d.renamed source target).fileAt? = d.fileAt?.rename source target := by
  have hentry := h.entry?_renamed (fileAt?_eq_some_iff.mp hs).1 ht hne
  funext p
  rw [Files.rename, fileAt?, hentry]
  by_cases hpt : p = target
  · have hbytes : (d.renamed source target).content s.id = s.bytes :=
      (fileAt?_eq_some_iff.mp hs).2
    simp only [if_pos hpt, hs, hbytes]
  · rw [if_neg hpt, if_neg hpt]
    by_cases hps : p = source
    · rw [if_pos hps, if_pos hps]
    · rw [if_neg hps, if_neg hps]
      rfl

/-- A disk stays in order when a file is renamed into a directory that is there. -/
theorem Tidy.renamed (h : d.Tidy) {source target : Place} {s : Stored}
    (hs : d.fileAt? source = some s) (ht : d.entry? target ≠ some .directory)
    (hway : ∀ n < target.length, d.entry? (target.take n) = some .directory)
    (hne : source ≠ target) : (d.renamed source target).Tidy := by
  have hs' := (fileAt?_eq_some_iff.mp hs).1
  have hentry := h.entry?_renamed hs' ht hne
  have hdir : ∀ p, d.entry? p = some .directory →
      Disk.entry? (d.renamed source target) p = some .directory := by
    intro p hp
    have hpt : p ≠ target := fun e => ht (e ▸ hp)
    have hps : p ≠ source := fun e => by
      rw [e, hs'] at hp
      cases hp
    rw [hentry, if_neg hpt, if_neg hps, hp]
  -- a file of the new disk is the one that was renamed, or lies where it lay
  have hfile : ∀ {p id}, Disk.entry? (d.renamed source target) p = some (.file id) →
      p = target ∧ id = s.id ∨ p ≠ source ∧ d.entry? p = some (.file id) := by
    intro p id hp
    rw [hentry] at hp
    split at hp
    · rename_i e
      cases hp
      exact .inl ⟨e, rfl⟩
    · split at hp
      · cases hp
      · rename_i hps
        exact .inr ⟨hps, hp⟩
  refine ⟨fun p hp n hn => ?_, fun p q id hp hq => ?_, fun p id hp => ?_⟩
  · refine hdir _ ?_
    by_cases hpt : p = target
    · rw [hpt] at hn ⊢
      exact hway n hn
    · rw [hentry, if_neg hpt] at hp
      split at hp
      · exact absurd rfl hp
      · exact h.parents p hp n hn
  · rcases hfile hp with ⟨ep, ei⟩ | ⟨hps, hp⟩ <;> rcases hfile hq with ⟨eq, ei'⟩ | ⟨hqs, hq⟩
    · rw [ep, eq]
    · exact absurd (h.unique q source id hq (ei ▸ hs')) hqs
    · exact absurd (h.unique p source id hp (ei' ▸ hs')) hps
    · exact h.unique p q id hp hq
  · rcases hfile hp with ⟨-, ei⟩ | ⟨-, hp⟩
    · rw [ei]
      exact h.made source s.id hs'
    · exact h.made p id hp

/-! ## 3. The calls -/

/-- A call that does nothing. -/
theorem Tidy.called (h : d.Tidy) (plan : FaultPlan) (call : Call) :
    d.Turns d.fileAt? [call] { d with plan := plan, calls := d.calls ++ [call] } :=
  ⟨⟨h.parents, h.unique, h.made⟩, rfl, rfl⟩

/-- Making directories that are missing makes no file. -/
theorem Tidy.makeMissing (h : d.Tidy) {n : Nat} (hmk : d.makeMissing p n = .ok d') :
    d.Turns d.fileAt? [] d' ∧ ∀ m ≤ n, d'.entry? (p.take m) = some .directory := by
  induction n generalizing d' with
  | zero =>
    cases hmk
    refine ⟨h.turns, fun m hm => ?_⟩
    rw [Nat.le_zero.mp hm, List.take_zero]
    rfl
  | succ n ih =>
    rw [Disk.makeMissing] at hmk
    cases hn : d.makeMissing p n with
    | error reason =>
      rw [hn] at hmk
      cases hmk
    | ok d₁ =>
      obtain ⟨h₁, hdir⟩ := ih hn
      simp only [hn, bind, Except.bind] at hmk
      split at hmk
      · rename_i he
        cases hmk
        refine ⟨h₁, fun m hm => ?_⟩
        rcases Nat.le_succ_iff.mp hm with hm | rfl
        · exact hdir m hm
        · exact he
      · cases hmk
      · rename_i he
        cases hmk
        have hway : ∀ m < (p.take (n + 1)).length,
            d₁.entry? ((p.take (n + 1)).take m) = some .directory := by
          intro m hm
          have hle : m ≤ n := by
            rw [List.length_take] at hm
            omega
          rw [List.take_take, Nat.min_eq_left (Nat.le_succ_of_le hle)]
          exact hdir m hle
        obtain ⟨htidy, hsame⟩ := h₁.tidy.addDirectory he hway
        refine ⟨⟨htidy, (fileAt?_congr hsame rfl).trans h₁.files, h₁.calls⟩, fun m hm => ?_⟩
        rcases Nat.le_succ_iff.mp hm with hm | rfl
        · exact entry?_add (hdir m hm) [(p.take (n + 1), .directory)]
        · exact entry?_add_self he .directory

/-- **Making a directory** changes no file, whether it fails or not. -/
theorem Tidy.makeDirs (h : d.Tidy) (path : Path) :
    ∃ answer d', d.makeDirs path = (answer, d') ∧ d.Turns d.fileAt? [.makeDirs path] d' := by
  unfold Disk.makeDirs
  cases nextFault d.plan.makeDirs with
  | mk fault rest =>
    have hcalled := h.called { d.plan with makeDirs := rest } (.makeDirs path)
    cases fault with
    | some reason => exact ⟨_, _, rfl, hcalled⟩
    | none =>
      cases hmk : Disk.makeMissing { d with
          plan := { d.plan with makeDirs := rest }
          calls := d.calls ++ [.makeDirs path] } path.place path.place.length with
      | error reason => exact ⟨.error reason, _, by simp only [hmk], hcalled⟩
      | ok d₁ =>
        exact ⟨.ok (), _, by simp only [hmk], hcalled.trans (hcalled.tidy.makeMissing hmk).1⟩

/-- **Opening a file** fails and changes nothing, or finds the file there, or makes it. -/
theorem Tidy.openAppend (h : d.Tidy) (path : Path) :
    ∃ answer d', d.openAppend path = (answer, d') ∧
      ((∃ reason, answer = .error reason) ∧ d.Turns d.fileAt? [.openFile path] d' ∨
        ∃ s, answer = .ok (s.id, s.bytes.length) ∧
          s = (d.fileAt? path.place).getD ⟨d.contents.length, []⟩ ∧
          d.Turns (d.fileAt?.provide path.place d.contents.length) [.openFile path] d') := by
  unfold Disk.openAppend
  cases nextFault d.plan.openFile with
  | mk fault rest =>
    have hcalled := h.called { d.plan with openFile := rest } (.openFile path)
    cases fault with
    | some reason => exact ⟨_, _, rfl, .inl ⟨⟨reason, rfl⟩, hcalled⟩⟩
    | none =>
      generalize hd₁ : ({ d with
        plan := { d.plan with openFile := rest }
        calls := d.calls ++ [.openFile path] } : Disk) = d₁ at hcalled
      have hlen : d₁.contents.length = d.contents.length := by rw [← hd₁]
      cases hw : d₁.checkWay path.place with
      | error reason => exact ⟨.error reason, d₁, by simp only [hd₁, hw], .inl ⟨⟨_, rfl⟩, hcalled⟩⟩
      | ok u =>
        cases he : d₁.entry? path.place with
        | none =>
          have hnone : d.fileAt? path.place = none := by
            rw [← hcalled.files, fileAt?, he]
          obtain ⟨htidy, hfiles⟩ := hcalled.tidy.addFile he (directory_of_checkWay hw)
          refine ⟨.ok (d₁.contents.length, 0), d₁.addFile path.place, ?_,
            .inr ⟨⟨d.contents.length, []⟩, by rw [hlen]; rfl, by rw [hnone]; rfl, htidy, ?_,
              hcalled.calls⟩⟩
          · simp only [hd₁, hw, he]
            rw [← hd₁]
            rfl
          · rw [hfiles, hcalled.files, hlen]
        | some e =>
          cases e with
          | directory =>
            exact ⟨.error isADirectory, d₁, by simp only [hd₁, hw, he], .inl ⟨⟨_, rfl⟩, hcalled⟩⟩
          | file id =>
            have hs : d.fileAt? path.place = some ⟨id, d₁.content id⟩ := by
              rw [← hcalled.files, fileAt?, he]
            refine ⟨.ok (id, (d₁.content id).length), d₁, by simp only [hd₁, hw, he],
              .inr ⟨⟨id, d₁.content id⟩, rfl, by rw [hs]; rfl, hcalled.tidy, ?_, hcalled.calls⟩⟩
            rw [hcalled.files, Files.provide_of_eq_some hs]

/-- What comes of renaming a file. -/
theorem renameEntry_cases {source target : Place} (hs : d.entry? source = some (.file id)) :
    (∃ reason, d.renameEntry source target = .error reason) ∨
      d.checkWay target = .ok () ∧ d.entry? target ≠ some .directory ∧
        d.renameEntry source target = .ok (d.renamed source target) := by
  cases hsw : d.checkWay source with
  | error reason => exact .inl ⟨reason, by simp only [renameEntry, hsw, bind, Except.bind]⟩
  | ok u =>
    cases htw : d.checkWay target with
    | error reason => exact .inl ⟨reason, by simp only [renameEntry, hsw, htw, bind, Except.bind]⟩
    | ok u =>
      by_cases hn : d.entry? target = some .directory
      · refine .inl ⟨isADirectory, ?_⟩
        simp only [renameEntry, hsw, htw, hs, hn, bind, Except.bind]
        rfl
      · exact .inr ⟨rfl, hn, renameEntry_of_file hsw htw hs hn⟩

/-- **Renaming a file** fails and changes nothing, or gives the file its new place. -/
theorem Tidy.rename (h : d.Tidy) {source target : Path} {s : Stored}
    (hs : d.fileAt? source.place = some s) (hne : source.place ≠ target.place) :
    ∃ answer d', d.rename source target = (answer, d') ∧
      ((∃ reason, answer = .error reason) ∧ d.Turns d.fileAt? [.rename source target] d' ∨
        answer = .ok () ∧
          d.Turns (d.fileAt?.rename source.place target.place) [.rename source target] d') := by
  unfold Disk.rename
  cases nextFault d.plan.rename with
  | mk fault rest =>
    have hcalled := h.called { d.plan with rename := rest } (.rename source target)
    cases fault with
    | some reason => exact ⟨_, _, rfl, .inl ⟨⟨reason, rfl⟩, hcalled⟩⟩
    | none =>
      generalize hd₁ : ({ d with
        plan := { d.plan with rename := rest }
        calls := d.calls ++ [.rename source target] } : Disk) = d₁ at hcalled
      have hs₁ : d₁.fileAt? source.place = some s := by rw [hcalled.files, hs]
      rcases @renameEntry_cases d₁ _ _ target.place (fileAt?_eq_some_iff.mp hs₁).1 with
        ⟨reason, herror⟩ | ⟨hw, hn, hok⟩
      · exact ⟨.error reason, d₁, by simp only [hd₁, herror], .inl ⟨⟨reason, rfl⟩, hcalled⟩⟩
      · have htidy := hcalled.tidy.renamed hs₁ hn (directory_of_checkWay hw) hne
        refine ⟨.ok (), d₁.renamed source.place target.place, by simp only [hd₁, hok],
          .inr ⟨rfl, htidy, ?_, hcalled.calls⟩⟩
        rw [hcalled.tidy.fileAt?_renamed hs₁ hn hne, hcalled.files]

/-- Putting bytes behind a file leaves the others alone. -/
theorem Tidy.append (h : d.Tidy) {s : Stored} (hs : d.fileAt? p = some s) (bytes : List UInt8) :
    d.Turns (d.fileAt?.append p bytes) [] (d.append s.id bytes) := by
  have hlen : (d.append s.id bytes).contents.length = d.contents.length := List.length_set
  refine ⟨⟨h.parents, h.unique, fun q id hq => ?_⟩, ?_, (List.append_nil _).symm⟩
  · rw [hlen]
    exact h.made q id hq
  · funext q
    by_cases hqp : q = p
    · rw [hqp, Files.append_self hs, fileAt?_eq_some_iff, ← (fileAt?_eq_some_iff.mp hs).2]
      refine ⟨(fileAt?_eq_some_iff.mp hs).1, ?_⟩
      rw [content, Disk.append, List.getElem?_set_self (h.id_lt hs), Option.getD_some]
    · rw [Files.append_of_ne hqp]
      refine Option.ext fun t => ?_
      rw [fileAt?_eq_some_iff, fileAt?_eq_some_iff]
      refine and_congr_right fun ht => ?_
      have hid : s.id ≠ t.id := fun e =>
        hqp (h.unique q p s.id (e ▸ ht) (fileAt?_eq_some_iff.mp hs).1)
      rw [content, content, Disk.append, List.getElem?_set_ne hid]

/-- **Writing to a file** appends all, or fails and appends a first part. -/
theorem Tidy.writeAll (h : d.Tidy) {s : Stored} (hs : d.fileAt? p = some s) (bytes : List UInt8) :
    ∃ answer taken d', d.writeAll s.id bytes = (answer, d') ∧
      d.Turns (d.fileAt?.append p taken) [] d' ∧
      (answer = .ok () ∧ taken = bytes ∨
        (∃ reason, answer = .error reason) ∧ ∃ rest, rest ≠ [] ∧ bytes = taken ++ rest) := by
  have happend := h.append hs (takeAll d.plan.write bytes).1
  exact ⟨_, _, _, rfl, ⟨⟨happend.tidy.parents, happend.tidy.unique, happend.tidy.made⟩,
    happend.files, happend.calls⟩, takeAll_cases d.plan.write bytes⟩

/-- **Flushing** changes no file. -/
theorem Tidy.flush (h : d.Tidy) :
    ∃ answer d', d.flush = (answer, d') ∧ d.Turns d.fileAt? [] d' := by
  unfold Disk.flush
  cases nextFault d.plan.flush with
  | mk fault rest =>
    have hsame : d.Turns d.fileAt? [] { d with plan := { d.plan with flush := rest } } :=
      ⟨⟨h.parents, h.unique, h.made⟩, rfl, (List.append_nil _).symm⟩
    cases fault <;> exact ⟨_, _, rfl, hsame⟩

end

end Disk

end Vitals.Log
