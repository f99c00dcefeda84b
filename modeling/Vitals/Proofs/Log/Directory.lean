import Vitals.Log.Disk

/-!
# What lies in a directory

The log works in one directory: it makes it, opens files in it and renames them within it. This
file describes the disk as that directory shows it, so that nothing about the log has to be proved
about whole places:

* `listing`, the names in a directory with what they stand for, and what the entries of a disk do
  to it (`lookup_listing`, `listing_filter_ne`, `listing_moved`);
* `Disk.Passable` and `Disk.HasDir`, what the way to the directory allows, with
  `makeMissing_of_passable` and `HasDir.checkWay`.
-/

namespace Vitals.Log

/-! ## 1. Names in a directory -/

/-- The name of an entry that lies directly in a directory. -/
def nameIn (dir p : Place) : Option String :=
  if p.dropLast = dir then p.getLast? else none

@[simp] theorem nameIn_append_singleton (dir : Place) (name : String) :
    nameIn dir (dir ++ [name]) = some name := by
  rw [nameIn, if_pos List.dropLast_concat, List.getLast?_concat]

theorem nameIn_eq_some_iff {dir p : Place} {name : String} :
    nameIn dir p = some name ↔ p = dir ++ [name] := by
  refine ⟨fun h => ?_, fun h => h ▸ nameIn_append_singleton dir name⟩
  unfold nameIn at h
  split at h
  · rename_i hd
    obtain ⟨ys, rfl⟩ := List.getLast?_eq_some_iff.mp h
    rw [← hd, List.dropLast_concat]
  · cases h

theorem nameIn_of_length_ne {dir p : Place} (h : p.length ≠ dir.length + 1) :
    nameIn dir p = none := by
  cases hn : nameIn dir p with
  | none => rfl
  | some name =>
    rw [nameIn_eq_some_iff] at hn
    rw [hn, List.length_append, List.length_singleton] at h
    exact absurd rfl h

/-- What lies directly in a directory, by name. -/
def listing (dir : Place) (entries : List (Place × Entry)) : List (String × Entry) :=
  entries.filterMap fun x => (nameIn dir x.1).map (·, x.2)

section Listing

variable {dir : Place} {entries : List (Place × Entry)}

theorem listing_cons (p : Place) (e : Entry) :
    listing dir ((p, e) :: entries) =
      ((nameIn dir p).map (·, e)).toList ++ listing dir entries := by
  cases h : nameIn dir p <;> simp [listing, h]

theorem listing_append (more : List (Place × Entry)) :
    listing dir (entries ++ more) = listing dir entries ++ listing dir more :=
  List.filterMap_append

/-- Entries that lie elsewhere do not show. -/
theorem listing_eq_nil (h : ∀ x ∈ entries, x.1.length ≠ dir.length + 1) :
    listing dir entries = [] := by
  refine List.filterMap_eq_nil_iff.mpr fun x hx => ?_
  rw [nameIn_of_length_ne (h x hx), Option.map_none]

theorem lookup_listing (name : String) :
    entries.lookup (dir ++ [name]) = (listing dir entries).lookup name := by
  induction entries with
  | nil => rfl
  | cons x entries ih =>
    obtain ⟨p, e⟩ := x
    rw [listing_cons, List.lookup_append, List.lookup_cons, ih]
    cases hn : nameIn dir p with
    | none =>
      have hp : (dir ++ [name] == p) = false := beq_eq_false_iff_ne.mpr fun h => by
        rw [← h, nameIn_append_singleton] at hn
        cases hn
      simp only [hp, Option.map_none, Option.toList_none, List.lookup_nil, Option.none_or]
    | some n =>
      rw [nameIn_eq_some_iff] at hn
      have hp : (dir ++ [name] == p) = (name == n) := by
        rw [hn, Bool.eq_iff_iff, beq_iff_eq, beq_iff_eq]
        exact ⟨fun h => by simpa using h, fun h => h ▸ rfl⟩
      rw [Option.map_some, Option.toList_some, List.lookup_cons, hp]
      cases hb : name == n <;> simp

/-- Removing an entry of the directory removes its name. -/
theorem listing_filter_ne (target : String) :
    listing dir (entries.filter fun x => x.1 != dir ++ [target]) =
      (listing dir entries).filter fun x => x.1 != target := by
  induction entries with
  | nil => rfl
  | cons x entries ih =>
    obtain ⟨p, e⟩ := x
    by_cases hp : p = dir ++ [target]
    · rw [List.filter_cons_of_neg (by simp [hp]), ih, listing_cons, hp, nameIn_append_singleton]
      simp
    · rw [List.filter_cons_of_pos (by simp [hp]), listing_cons, listing_cons, ih,
        List.filter_append]
      congr 1
      cases hn : nameIn dir p with
      | none => rfl
      | some n =>
        rw [nameIn_eq_some_iff] at hn
        have hne : n ≠ target := fun h => hp (h ▸ hn)
        simp [hne]

/-- A place below another is longer. -/
theorem length_lt_of_isBelow {p q : Place} (h : Disk.isBelow p q = true) : p.length < q.length := by
  simp only [Disk.isBelow, Bool.and_eq_true, decide_eq_true_eq] at h
  exact h.1

theorem moved_cons_of_pos {p source target : Place} {e : Entry}
    (h : p = source ∨ Disk.isBelow source p = true) :
    Disk.moved ((p, e) :: entries) source target =
      (target ++ p.drop source.length, e) :: Disk.moved entries source target := by
  simp only [Disk.moved, List.map_cons, if_pos h]

theorem moved_cons_of_neg {p source target : Place} {e : Entry}
    (h : ¬(p = source ∨ Disk.isBelow source p = true)) :
    Disk.moved ((p, e) :: entries) source target =
      (p, e) :: Disk.moved entries source target := by
  simp only [Disk.moved, List.map_cons, if_neg h]

/-- **Renaming an entry of the directory changes its name and nothing else there.** -/
theorem listing_moved (source target : String) :
    listing dir (Disk.moved entries (dir ++ [source]) (dir ++ [target])) =
      (listing dir entries).map fun x => if x.1 = source then (target, x.2) else x := by
  induction entries with
  | nil => rfl
  | cons x entries ih =>
    obtain ⟨p, e⟩ := x
    rw [listing_cons, List.map_append, ← ih]
    by_cases hp : p = dir ++ [source]
    · rw [moved_cons_of_pos (.inl hp), listing_cons, hp, List.drop_length, List.append_nil,
        nameIn_append_singleton, nameIn_append_singleton]
      simp
    · cases hb : Disk.isBelow (dir ++ [source]) p with
      | true =>
        have hlt := length_lt_of_isBelow hb
        rw [List.length_append, List.length_singleton] at hlt
        have hold : nameIn dir p = none := nameIn_of_length_ne (by omega)
        have hnew : nameIn dir (dir ++ [target] ++ p.drop (dir ++ [source]).length) = none := by
          refine nameIn_of_length_ne ?_
          simp only [List.length_append, List.length_singleton, List.length_drop]
          omega
        rw [moved_cons_of_pos (.inr hb), listing_cons, hold, hnew]
        rfl
      | false =>
        rw [moved_cons_of_neg (by simp [hp, hb]), listing_cons]
        congr 1
        cases hn : nameIn dir p with
        | none => rfl
        | some n =>
          rw [nameIn_eq_some_iff] at hn
          have hne : n ≠ source := fun h => hp (h ▸ hn)
          simp [hne]

end Listing

/-! ## 2. The way to a directory -/

/-- Removing entries by their places. -/
theorem lookup_filter_key (keep : Place → Bool) (entries : List (Place × Entry)) (p : Place) :
    (entries.filter fun x => keep x.1).lookup p = if keep p then entries.lookup p else none := by
  induction entries with
  | nil => simp
  | cons x entries ih =>
    obtain ⟨q, e⟩ := x
    rw [List.filter_cons]
    by_cases hpq : p = q
    · subst hpq
      cases hk : keep p with
      | true => simp
      | false => simp [hk, ih]
    · have hne : (p == q) = false := beq_eq_false_iff_ne.mpr hpq
      cases hk : keep q <;> simp [hne, ih, List.lookup_cons]

theorem lookup_filter_ne {entries : List (Place × Entry)} {p target : Place} (h : p ≠ target) :
    (entries.filter fun x => x.1 != target).lookup p = entries.lookup p := by
  rw [lookup_filter_key (fun q => q != target), if_pos (bne_iff_ne.mpr h)]

/-- Renaming an entry leaves the places that are shorter alone. -/
theorem lookup_moved {entries : List (Place × Entry)} {p source target : Place}
    (hs : p.length < source.length) (ht : p.length < target.length) :
    (Disk.moved entries source target).lookup p = entries.lookup p := by
  induction entries with
  | nil => rfl
  | cons x entries ih =>
    obtain ⟨q, e⟩ := x
    by_cases hq : q = source ∨ Disk.isBelow source q = true
    · have hle : source.length ≤ q.length := by
        rcases hq with h | hb
        · exact Nat.le_of_eq (congrArg List.length h.symm)
        · exact Nat.le_of_lt (length_lt_of_isBelow hb)
      have hold : (p == q) = false := beq_eq_false_iff_ne.mpr fun h => by
        rw [h] at hs
        omega
      have hnew : (p == target ++ q.drop source.length) = false :=
        beq_eq_false_iff_ne.mpr fun h => by
          rw [h, List.length_append] at ht
          omega
      rw [moved_cons_of_pos hq, List.lookup_cons, List.lookup_cons, hold, hnew]
      exact ih
    · rw [moved_cons_of_neg hq, List.lookup_cons, List.lookup_cons, ih]

namespace Disk

theorem entry?_congr {d d' : Disk} {p : Place} (h : d'.entries.lookup p = d.entries.lookup p) :
    d'.entry? p = d.entry? p := by
  unfold entry?
  rw [h]

/-- What an entry of the directory is. -/
theorem entry?_append_singleton (d : Disk) (dir : Place) {name : String} (h : name ≠ "") :
    d.entry? (dir ++ [name]) = (listing dir d.entries).lookup name := by
  unfold entry?
  rw [if_neg, lookup_listing]
  rintro (hp | hp)
  · exact absurd hp (by simp)
  · cases dir with
    | nil => exact h (List.cons.inj hp).1
    | cons n dir =>
      rw [List.cons_append] at hp
      exact absurd (List.cons.inj hp).2 (by simp)

/-- No file stands on the way to a directory. -/
def Passable (d : Disk) (dir : Place) : Prop :=
  ∀ n id, d.entry? (dir.take n) ≠ some (.file id)

/-- A directory is there, and so are all that hold it. -/
def HasDir (d : Disk) (dir : Place) : Prop :=
  ∀ n, d.entry? (dir.take n) = some .directory

theorem HasDir.passable {d : Disk} {dir : Place} (h : d.HasDir dir) : d.Passable dir := by
  intro n id
  rw [h n]
  exact fun h => by cases h

/-- A disk with further entries. -/
def add (d : Disk) (more : List (Place × Entry)) : Disk :=
  { d with entries := d.entries ++ more }

/-- New entries do not hide what is there. -/
theorem entry?_add {d : Disk} {p : Place} {e : Entry} (h : d.entry? p = some e)
    (more : List (Place × Entry)) : Disk.entry? (d.add more) p = some e := by
  unfold entry? at h ⊢
  split at h
  · rename_i hp
    rw [if_pos hp]
    exact h
  · rename_i hp
    rw [if_neg hp, add, List.lookup_append, h, Option.some_or]

/-- The entry that is made where there is none. -/
theorem entry?_add_self {d : Disk} {p : Place} (h : d.entry? p = none) (e : Entry) :
    Disk.entry? (d.add [(p, e)]) p = some e := by
  unfold entry? at h ⊢
  split at h
  · cases h
  · rename_i hp
    rw [if_neg hp, add, List.lookup_append, h, Option.none_or, List.lookup_cons_self]

theorem lookup_directories {more : List (Place × Entry)} (h : ∀ x ∈ more, x.2 = .directory)
    (p : Place) (id : FileId) : more.lookup p ≠ some (.file id) := by
  induction more with
  | nil => exact fun h => by cases h
  | cons x more ih =>
    rw [List.lookup_cons]
    split
    · rw [h x List.mem_cons_self]
      exact fun h => by cases h
    · exact ih fun y hy => h y (List.mem_cons_of_mem _ hy)

/-- New directories put no file anywhere. -/
theorem Passable.add {d : Disk} {p : Place} (h : d.Passable p) {more : List (Place × Entry)}
    (hmore : ∀ x ∈ more, x.2 = .directory) :
    (d.add more).Passable p := by
  intro n id hn
  have hold := h n id
  unfold entry? at hn hold
  split at hn
  · cases hn
  · rename_i hp
    rw [if_neg hp] at hold
    rw [Disk.add, List.lookup_append, Option.or_eq_some_iff] at hn
    rcases hn with hn | ⟨-, hn⟩
    · exact hold hn
    · exact lookup_directories hmore _ id hn

/-- **Making missing directories adds them and nothing else**, if no file is in the way. -/
theorem makeMissing_of_passable {d : Disk} {p : Place} (h : d.Passable p) (n : Nat) :
    ∃ more, d.makeMissing p n = .ok (d.add more) ∧
      (∀ x ∈ more, x.1.length ≤ p.length ∧ x.2 = .directory) ∧
      ∀ m ≤ n, Disk.entry? (d.add more) (p.take m) = some .directory := by
  induction n with
  | zero =>
    refine ⟨[], ?_, fun x hx => absurd hx List.not_mem_nil, fun m hm => ?_⟩
    · rw [makeMissing, add, List.append_nil]
    · rw [Nat.le_zero.mp hm, List.take_zero]
      rfl
  | succ n ih =>
    obtain ⟨more, hmk, hmore, hdir⟩ := ih
    cases he : Disk.entry? (d.add more) (p.take (n + 1)) with
    | some e =>
      cases e with
      | directory =>
        refine ⟨more, ?_, hmore, fun m hm => ?_⟩
        · simp only [makeMissing, hmk, bind, Except.bind, he]
        · rcases Nat.le_succ_iff.mp hm with hm | rfl
          · exact hdir m hm
          · exact he
      | file id => exact absurd he (h.add (fun x hx => (hmore x hx).2) (n + 1) id)
    | none =>
      have hadd : d.add (more ++ [(p.take (n + 1), .directory)]) =
          (d.add more).add [(p.take (n + 1), .directory)] := by
        simp only [add, List.append_assoc]
      refine ⟨more ++ [(p.take (n + 1), .directory)], ?_, fun x hx => ?_, fun m hm => ?_⟩
      · simp only [makeMissing, hmk, bind, Except.bind, he]
        rw [hadd]
        rfl
      · rcases List.mem_append.mp hx with hx | hx
        · exact hmore x hx
        · rw [List.mem_singleton.mp hx, List.length_take]
          exact ⟨Nat.min_le_right _ _, rfl⟩
      · rw [hadd]
        rcases Nat.le_succ_iff.mp hm with hm | rfl
        · exact entry?_add (hdir m hm) _
        · exact entry?_add_self he _

theorem hasDir_of_le {d : Disk} {p : Place}
    (h : ∀ m ≤ p.length, d.entry? (p.take m) = some .directory) : d.HasDir p := by
  intro n
  by_cases hn : n ≤ p.length
  · exact h n hn
  · rw [List.take_of_length_le (by omega), ← @List.take_length _ p]
    exact h p.length (Nat.le_refl _)

/-- A row of checks passes, or fails as one of them does. -/
theorem forM_cases {α ε : Type} (f : α → Except ε Unit) (l : List α) :
    (l.forM f = .ok () ∧ ∀ a ∈ l, f a = .ok ()) ∨
      ∃ a ∈ l, ∃ e, f a = .error e ∧ l.forM f = .error e := by
  induction l with
  | nil => exact .inl ⟨rfl, fun a h => absurd h List.not_mem_nil⟩
  | cons a l ih =>
    rw [List.forM]
    cases ha : f a with
    | error e => exact .inr ⟨a, List.mem_cons_self, e, ha, rfl⟩
    | ok u =>
      rcases ih with ⟨hok, hall⟩ | ⟨b, hb, e, he, herror⟩
      · exact .inl ⟨hok, List.forall_mem_cons.mpr ⟨ha, hall⟩⟩
      · exact .inr ⟨b, List.mem_cons_of_mem _ hb, e, he, herror⟩

theorem forM_eq_ok {α ε : Type} {f : α → Except ε Unit} {l : List α}
    (h : ∀ a ∈ l, f a = .ok ()) : l.forM f = .ok () := by
  rcases forM_cases f l with ⟨hok, -⟩ | ⟨a, ha, e, he, -⟩
  · exact hok
  · cases he.symm.trans (h a ha)

/-- **What a check of the way finds**: directories, or a file that stands in the way, or a gap. -/
theorem checkWay_cases (d : Disk) (p : Place) :
    (d.checkWay p = .ok () ∧ ∀ n < p.length, d.entry? (p.take n) = some .directory) ∨
      (∃ n < p.length, ∃ id, d.entry? (p.take n) = some (.file id) ∧
        d.checkWay p = .error notADirectory) ∨
      ∃ n < p.length, d.entry? (p.take n) = none ∧ d.checkWay p = .error notFound := by
  rcases (forM_cases _ _ : d.checkWay p = .ok () ∧ _ ∨ _) with
    ⟨hok, hall⟩ | ⟨n, hn, e, he, herror⟩
  · refine .inl ⟨hok, fun n hn => ?_⟩
    have hn := hall n (List.mem_range.mpr hn)
    split at hn
    · assumption
    · cases hn
    · cases hn
  · have herror : d.checkWay p = .error e := herror
    split at he
    · cases he
    · rename_i id hfile
      cases he
      exact .inr (.inl ⟨n, List.mem_range.mp hn, id, hfile, herror⟩)
    · rename_i hnone
      cases he
      exact .inr (.inr ⟨n, List.mem_range.mp hn, hnone, herror⟩)

theorem directory_of_checkWay {d : Disk} {p : Place} (h : d.checkWay p = .ok ()) (n : Nat)
    (hn : n < p.length) : d.entry? (p.take n) = some .directory := by
  rcases checkWay_cases d p with ⟨-, hall⟩ | ⟨-, -, -, -, herror⟩ | ⟨-, -, -, herror⟩
  · exact hall n hn
  · cases h.symm.trans herror
  · cases h.symm.trans herror

/-- **A directory that is there can be entered.** -/
theorem HasDir.checkWay {d : Disk} {dir : Place} (h : d.HasDir dir) (name : String) :
    d.checkWay (dir ++ [name]) = .ok () := by
  refine forM_eq_ok fun n hn => ?_
  rw [List.mem_range, List.length_append, List.length_singleton] at hn
  rw [List.take_append_of_le_length (by omega), h n]

end Disk

end Vitals.Log
