import Mathlib.Data.List.Nodup
import Mathlib.Logic.Relation
import Vitals.Proofs.Record.RoundTrip

/-!
# Shapes of records

Which values of a record are structures, and where their members may be moved about. This file fixes

* `Shape`, what a decoder expects at a place: nothing in particular, a list, or a structure with
  known keys;
* `Edit`, one change that keeps the content: members of a structure in another order, or one more
  member with an unknown key, at any depth;
* `Repeats`, that a known key occurs twice somewhere;
* `ByKey`, that a decoder is blind to edits and refuses repetitions;
* the shapes of the groups.

Main statements: an edit leaves the value of every known key, or edits it in turn (`lookup_edit`); a
decoder of a list goes by keys if that of its items does (`ByKey.list`), and one of a structure if
what it does with the fields is blind to their edits and refuses their repetitions
(`ByKey.record`); hence all groups are decoded by their keys.
-/

namespace Vitals.Record

open Vitals.Json

/-! ## 1. Shapes and edits -/

/-- What a decoder expects at a place. -/
inductive Shape where
  /-- A value without structures that are known. -/
  | leaf
  | list (item : Shape)
  /-- A structure with these keys and what is expected behind them. -/
  | record (fields : List (String × Shape))

/-- A structure of plain values. -/
def Shape.leaves (keys : List String) : Shape :=
  .record (keys.map fun key => (key, .leaf))

/-- One change that keeps the content. Where a structure is written as an array of its fields, only
the fields themselves can be edited. -/
inductive Edit : Shape → Value → Value → Prop where
  | order {fields : List (String × Shape)} {ms ms' : List (String × Value)} (h : ms.Perm ms') :
      Edit (.record fields) (.object ms) (.object ms')
  | insert {fields : List (String × Shape)} (before after : List (String × Value)) {key : String}
      (v : Value) (h : key ∉ fields.map Prod.fst) :
      Edit (.record fields) (.object (before ++ after)) (.object (before ++ (key, v) :: after))
  | member {fields : List (String × Shape)} (before after : List (String × Value)) {key : String}
      {shape : Shape} {v v' : Value} (hkey : (key, shape) ∈ fields) (h : Edit shape v v') :
      Edit (.record fields) (.object (before ++ (key, v) :: after))
        (.object (before ++ (key, v') :: after))
  | field {fields : List (String × Shape)} (before after : List Value) {shape : Shape}
      {v v' : Value} (hshape : (fields.map Prod.snd)[before.length]? = some shape)
      (h : Edit shape v v') :
      Edit (.record fields) (.array (before ++ v :: after)) (.array (before ++ v' :: after))
  | item {shape : Shape} (before after : List Value) {v v' : Value} (h : Edit shape v v') :
      Edit (.list shape) (.array (before ++ v :: after)) (.array (before ++ v' :: after))

/-- Any number of edits. -/
def Rearranged (shape : Shape) : Value → Value → Prop :=
  Relation.ReflTransGen (Edit shape)

/-- A known key occurs twice in a structure. -/
inductive Repeats : Shape → Value → Prop where
  | twice {fields : List (String × Shape)} {ms : List (String × Value)} {key : String}
      (hkey : key ∈ fields.map Prod.fst) (h : 2 ≤ (lookup key ms).length) :
      Repeats (.record fields) (.object ms)
  | member {fields : List (String × Shape)} {ms : List (String × Value)} {key : String}
      {shape : Shape} {v : Value} (hkey : (key, shape) ∈ fields) (hv : (key, v) ∈ ms)
      (h : Repeats shape v) : Repeats (.record fields) (.object ms)
  | field {fields : List (String × Shape)} {vs : List Value} {shape : Shape} {v : Value}
      (hv : (shape, v) ∈ (fields.map Prod.snd).zip vs) (h : Repeats shape v) :
      Repeats (.record fields) (.array vs)
  | item {shape : Shape} {vs : List Value} {v : Value} (hv : v ∈ vs) (h : Repeats shape v) :
      Repeats (.list shape) (.array vs)

section

variable {α : Type}

/-- A decoder that goes by keys: it gives the same for a value that is edited, and nothing where a
known key occurs twice. -/
structure ByKey (shape : Shape) (decode : Value → Option α) : Prop where
  blind : ∀ v v', Edit shape v v' → decode v = decode v'
  refuses : ∀ v, Repeats shape v → decode v = none

theorem ByKey.rearranged {shape : Shape} {decode : Value → Option α} (h : ByKey shape decode)
    {v v' : Value} (hedits : Rearranged shape v v') : decode v = decode v' := by
  induction hedits with
  | refl => rfl
  | tail _ hedit ih => exact ih.trans (h.blind _ _ hedit)

/-! ## 2. Plain values and lists -/

theorem ByKey.leaf (decode : Value → Option α) : ByKey .leaf decode :=
  ⟨fun _ _ h => (nomatch h), fun _ h => (nomatch h)⟩

theorem mapM_append_cons {f : Value → Option α} (before after : List Value) {v v' : Value}
    (h : f v = f v') : (before ++ v :: after).mapM f = (before ++ v' :: after).mapM f := by
  rw [List.mapM_append, List.mapM_append, List.mapM_cons, List.mapM_cons, h]

/-- A traversal fails if one item does. -/
theorem mapM_eq_none {β : Type} {f : β → Option α} {a : β} {as : List β} (ha : a ∈ as)
    (h : f a = none) : as.mapM f = none := by
  induction as with
  | nil => exact absurd ha List.not_mem_nil
  | cons b as ih =>
    rw [List.mapM_cons]
    obtain rfl | ha := List.mem_cons.mp ha
    · rw [h]
      rfl
    · rw [ih ha]
      cases f b <;> rfl

theorem ByKey.list {shape : Shape} {decode : Value → Option α} (h : ByKey shape decode) :
    ByKey (.list shape) (toList? decode) := by
  constructor
  · intro v v' hedit
    cases hedit with
    | item before after hitem => exact mapM_append_cons _ _ (h.blind _ _ hitem)
  · intro v hrepeats
    cases hrepeats with
    | item hv hitem => exact mapM_eq_none hv (h.refuses _ hitem)

end

/-! ## 3. The values of one key -/

/-- The same value, or an edited one. -/
def Kept (shape : Shape) (v v' : Value) : Prop :=
  v = v' ∨ Edit shape v v'

theorem ByKey.kept {α : Type} {shape : Shape} {decode : Value → Option α} (h : ByKey shape decode)
    {v v' : Value} (hkept : Kept shape v v') : decode v = decode v' := by
  obtain rfl | hedit := hkept
  · rfl
  · exact h.blind v v' hedit

/-- What the values of a key can come to: none, one that is kept, or too many. -/
inductive Alike (shape : Shape) : List Value → List Value → Prop where
  | none : Alike shape [] []
  | one {v v' : Value} (h : Kept shape v v') : Alike shape [v] [v']
  | many {vs vs' : List Value} (h : 2 ≤ vs.length) (h' : 2 ≤ vs'.length) : Alike shape vs vs'

theorem Alike.of_perm {shape : Shape} {vs vs' : List Value} (h : vs.Perm vs') :
    Alike shape vs vs' := by
  match vs with
  | [] => exact h.nil_eq ▸ .none
  | [v] => exact (List.singleton_perm.mp h) ▸ .one (.inl rfl)
  | v :: w :: vs => exact .many (by simp) (by simp [← h.length_eq])

/-- **An edit of a structure keeps the values of every known key.** -/
theorem lookup_edit {fields : List (String × Shape)} (hkeys : (fields.map Prod.fst).Nodup)
    {ms ms' : List (String × Value)} (h : Edit (.record fields) (.object ms) (.object ms'))
    {key : String} {shape : Shape} (hkey : (key, shape) ∈ fields) :
    Alike shape (lookup key ms) (lookup key ms') := by
  cases h with
  | order hperm => exact .of_perm ((hperm.filter _).map _)
  | insert before after v hnew =>
    rename_i key'
    have hne : (key' == key) = false := by
      rw [beq_eq_false_iff_ne]
      rintro rfl
      exact hnew (List.mem_map_of_mem hkey)
    have hsame : lookup key (before ++ (key', v) :: after) = lookup key (before ++ after) := by
      rw [lookup_append, lookup_append, lookup_cons, hne, if_neg Bool.false_ne_true]
    rw [hsame]
    exact .of_perm (.refl _)
  | member before after hkey' hedit =>
    rename_i key' shape' v v'
    rw [lookup_append, lookup_append, lookup_cons, lookup_cons]
    by_cases hk : key' = key
    · subst hk
      -- a key is known at one place only, so the edit is one of its shape
      obtain rfl : shape' = shape :=
        congrArg Prod.snd (List.inj_on_of_nodup_map hkeys hkey' hkey rfl)
      rw [if_pos (by simp), if_pos (by simp)]
      cases lookup key' before with
      | cons w ws => exact .many (by simp; omega) (by simp; omega)
      | nil =>
        cases lookup key' after with
        | cons w ws => exact .many (by simp) (by simp)
        | nil => exact .one (.inr hedit)
    · rw [if_neg (by simpa using hk), if_neg (by simpa using hk)]
      exact .of_perm (.refl _)

/-- What a known key that is repeated, or has a repetition behind it, comes to. -/
theorem lookup_repeats {fields : List (String × Shape)} {ms : List (String × Value)}
    (h : Repeats (.record fields) (.object ms)) : ∃ key shape, (key, shape) ∈ fields ∧
      (2 ≤ (lookup key ms).length ∨ ∃ v, lookup key ms = [v] ∧ Repeats shape v) := by
  cases h with
  | twice hkey h =>
    obtain ⟨⟨key, shape⟩, hmem, rfl⟩ := List.mem_map.mp hkey
    exact ⟨key, shape, hmem, .inl h⟩
  | member hkey hv h =>
    rename_i key shape v
    have hin : v ∈ lookup key ms := by
      refine List.mem_map.mpr ⟨(key, v), List.mem_filter.mpr ⟨hv, ?_⟩, rfl⟩
      exact beq_self_eq_true key
    refine ⟨key, shape, hkey, ?_⟩
    cases hlookup : lookup key ms with
    | nil =>
      rw [hlookup] at hin
      exact absurd hin List.not_mem_nil
    | cons w ws =>
      cases ws with
      | nil =>
        rw [hlookup, List.mem_singleton] at hin
        exact .inr ⟨w, rfl, hin ▸ h⟩
      | cons w' ws => exact .inl (by simp)

/-! ## 4. Structures -/

/-- Fields that are kept, one by one. -/
inductive KeptAll : List Shape → List Value → List Value → Prop where
  | nil : KeptAll [] [] []
  | cons {shape : Shape} {shapes : List Shape} {v v' : Value} {vs vs' : List Value}
      (h : Kept shape v v') (hs : KeptAll shapes vs vs') :
      KeptAll (shape :: shapes) (v :: vs) (v' :: vs')

/-- A field with a repetition in it. -/
inductive SomeRepeats : List Shape → List Value → Prop where
  | here {shape : Shape} {shapes : List Shape} {v : Value} {vs : List Value} (h : Repeats shape v) :
      SomeRepeats (shape :: shapes) (v :: vs)
  | there {shape : Shape} {shapes : List Shape} {v : Value} {vs : List Value}
      (h : SomeRepeats shapes vs) : SomeRepeats (shape :: shapes) (v :: vs)

theorem KeptAll.refl (shapes : List Shape) {vs : List Value} (h : vs.length = shapes.length) :
    KeptAll shapes vs vs := by
  induction shapes generalizing vs with
  | nil => exact List.eq_nil_of_length_eq_zero h ▸ .nil
  | cons shape shapes ih =>
    match vs, h with
    | v :: vs, h => exact .cons (.inl rfl) (ih (Nat.succ.inj h))

theorem KeptAll.edit {shapes : List Shape} {shape : Shape} {before after : List Value}
    {v v' : Value} (hshape : shapes[before.length]? = some shape) (h : Edit shape v v')
    (hlen : (before ++ v :: after).length = shapes.length) :
    KeptAll shapes (before ++ v :: after) (before ++ v' :: after) := by
  induction before generalizing shapes with
  | nil =>
    match shapes, hshape, hlen with
    | s :: shapes, hshape, hlen =>
      obtain rfl : s = shape := by simpa using hshape
      exact .cons (.inr h) (.refl shapes (Nat.succ.inj hlen))
  | cons w before ih =>
    match shapes, hshape, hlen with
    | s :: shapes, hshape, hlen =>
      exact .cons (.inl rfl) (ih (by simpa using hshape) (Nat.succ.inj hlen))

/-- Plain values that are kept are the same. -/
theorem KeptAll.eq_of_leaves {shapes : List Shape} (hleaves : ∀ shape ∈ shapes, shape = .leaf)
    {vs vs' : List Value} (h : KeptAll shapes vs vs') : vs = vs' := by
  induction h with
  | nil => rfl
  | cons hv _ ih =>
    obtain ⟨rfl, hmore⟩ := List.forall_mem_cons.mp hleaves
    obtain rfl | hedit := hv
    · rw [ih hmore]
    · cases hedit

theorem not_someRepeats_of_leaves {shapes : List Shape} (hleaves : ∀ shape ∈ shapes, shape = .leaf)
    {vs : List Value} : ¬ SomeRepeats shapes vs := by
  intro h
  induction h with
  | here h =>
    obtain ⟨rfl, -⟩ := List.forall_mem_cons.mp hleaves
    cases h
  | there _ ih => exact ih (List.forall_mem_cons.mp hleaves).2

/-- The value of a key that occurs once. -/
def single (key : String) (ms : List (String × Value)) : Option Value :=
  match lookup key ms with
  | [v] => some v
  | _ => none

theorem fieldsOf_members (keys : List String) (ms : List (String × Value)) :
    fieldsOf keys (.object ms) = keys.mapM fun key => single key ms :=
  rfl

theorem single_of_many {key : String} {ms : List (String × Value)}
    (h : 2 ≤ (lookup key ms).length) : single key ms = none := by
  unfold single
  split
  · rename_i v hlookup
    rw [hlookup, List.length_singleton] at h
    omega
  · rfl

theorem single_rel {shape : Shape} {key : String} {ms ms' : List (String × Value)}
    (h : Alike shape (lookup key ms) (lookup key ms')) :
    Option.Rel (Kept shape) (single key ms) (single key ms') := by
  unfold single
  generalize lookup key ms = vs at h ⊢
  generalize lookup key ms' = vs' at h ⊢
  cases h with
  | none => exact .none
  | one h => exact .some h
  | many h h' =>
    match vs, vs', h, h' with
    | _ :: _ :: _, _ :: _ :: _, _, _ => exact .none

theorem mapM_single_rel {fields : List (String × Shape)} {ms ms' : List (String × Value)}
    (h : ∀ f ∈ fields, Option.Rel (Kept f.2) (single f.1 ms) (single f.1 ms')) :
    Option.Rel (KeptAll (fields.map Prod.snd))
      ((fields.map Prod.fst).mapM fun key => single key ms)
      ((fields.map Prod.fst).mapM fun key => single key ms') := by
  induction fields with
  | nil => exact .some .nil
  | cons f fields ih =>
    obtain ⟨hf, hfields⟩ := List.forall_mem_cons.mp h
    have hrest := ih hfields
    rw [List.map_cons, List.map_cons, List.mapM_cons, List.mapM_cons]
    generalize single f.1 ms = a at hf ⊢
    generalize single f.1 ms' = a' at hf ⊢
    generalize ((fields.map Prod.fst).mapM fun key => single key ms) = as at hrest ⊢
    generalize ((fields.map Prod.fst).mapM fun key => single key ms') = as' at hrest ⊢
    cases hf with
    | none => exact .none
    | some hv =>
      cases hrest with
      | none => exact .none
      | some hvs => exact .some (.cons hv hvs)

/-- **An edit of a structure keeps its fields**, whichever way they are written. -/
theorem fieldsOf_edit {fields : List (String × Shape)} (hkeys : (fields.map Prod.fst).Nodup)
    {v v' : Value} (h : Edit (.record fields) v v') :
    Option.Rel (KeptAll (fields.map Prod.snd)) (fieldsOf (fields.map Prod.fst) v)
      (fieldsOf (fields.map Prod.fst) v') := by
  have hobject : ∀ ms ms', Edit (.record fields) (.object ms) (.object ms') →
      Option.Rel (KeptAll (fields.map Prod.snd)) (fieldsOf (fields.map Prod.fst) (.object ms))
        (fieldsOf (fields.map Prod.fst) (.object ms')) := fun ms ms' hedit =>
    mapM_single_rel fun f hf => single_rel (lookup_edit hkeys hedit hf)
  cases h with
  | order hperm => exact hobject _ _ (.order hperm)
  | insert before after v hnew => exact hobject _ _ (.insert before after v hnew)
  | member before after hkey hedit => exact hobject _ _ (.member before after hkey hedit)
  | field before after hshape hedit =>
    simp only [fieldsOf, List.length_map, List.length_append, List.length_cons]
    split
    · rename_i hlen
      exact .some (.edit hshape hedit (by simpa using hlen))
    · exact .none

theorem mapM_single_repeats {fields : List (String × Shape)} {ms : List (String × Value)}
    {key : String} {shape : Shape} {v : Value} (hkey : (key, shape) ∈ fields)
    (hsingle : single key ms = some v) (h : Repeats shape v) {vs : List Value}
    (hvs : ((fields.map Prod.fst).mapM fun key => single key ms) = some vs) :
    SomeRepeats (fields.map Prod.snd) vs := by
  induction fields generalizing vs with
  | nil => exact absurd hkey List.not_mem_nil
  | cons f fields ih =>
    rw [List.map_cons, List.mapM_cons] at hvs
    obtain ⟨w, hw, hvs⟩ := Option.bind_eq_some_iff.mp hvs
    obtain ⟨ws, hws, hvs⟩ := Option.bind_eq_some_iff.mp hvs
    cases hvs
    obtain rfl | hkey := List.mem_cons.mp hkey
    · obtain rfl : w = v := Option.some.inj (hw.symm.trans hsingle)
      exact .here h
    · exact .there (ih hkey hws)

theorem someRepeats_of_mem_zip {shapes : List Shape} {vs : List Value} {shape : Shape} {v : Value}
    (hv : (shape, v) ∈ shapes.zip vs) (h : Repeats shape v) : SomeRepeats shapes vs := by
  induction shapes generalizing vs with
  | nil => exact absurd hv (by simp)
  | cons s shapes ih =>
    cases vs with
    | nil => exact absurd hv (by simp)
    | cons w vs =>
      rw [List.zip_cons_cons, List.mem_cons] at hv
      obtain heq | hv := hv
      · obtain ⟨rfl, rfl⟩ := Prod.mk.inj heq
        exact .here h
      · exact .there (ih hv)

/-- **Of a structure with a repetition no fields are found**, or one of them has it. -/
theorem fieldsOf_repeats {fields : List (String × Shape)} {v : Value}
    (h : Repeats (.record fields) v) {vs : List Value}
    (hvs : fieldsOf (fields.map Prod.fst) v = some vs) : SomeRepeats (fields.map Prod.snd) vs := by
  have hobject : ∀ ms, Repeats (.record fields) (.object ms) →
      fieldsOf (fields.map Prod.fst) (.object ms) = some vs →
        SomeRepeats (fields.map Prod.snd) vs := by
    intro ms hms hvs
    rw [fieldsOf_members] at hvs
    obtain ⟨key, shape, hkey, hmany | ⟨w, hlookup, hw⟩⟩ := lookup_repeats hms
    · have hnone := mapM_eq_none (f := fun key => single key ms)
        (List.mem_map_of_mem (f := Prod.fst) hkey) (single_of_many hmany)
      rw [hnone] at hvs
      cases hvs
    · exact mapM_single_repeats hkey (by rw [single, hlookup]) hw hvs
  cases h with
  | twice hkey hmany => exact hobject _ (.twice hkey hmany) hvs
  | member hkey hv hw => exact hobject _ (.member hkey hv hw) hvs
  | field hv hw =>
    simp only [fieldsOf] at hvs
    split at hvs
    · cases hvs
      exact someRepeats_of_mem_zip hv hw
    · cases hvs

section

variable {α : Type}

/-- **A decoder of a structure goes by keys** if what it does with the fields allows it. -/
theorem ByKey.record {fields : List (String × Shape)} {build : List Value → Option α}
    (hkeys : (fields.map Prod.fst).Nodup)
    (hblind : ∀ vs vs', KeptAll (fields.map Prod.snd) vs vs' → build vs = build vs')
    (hrefuses : ∀ vs, SomeRepeats (fields.map Prod.snd) vs → build vs = none) :
    ByKey (.record fields) fun v => fieldsOf (fields.map Prod.fst) v >>= build := by
  constructor
  · intro v v' hedit
    have hrel := fieldsOf_edit hkeys hedit
    generalize fieldsOf (fields.map Prod.fst) v = a at hrel ⊢
    generalize fieldsOf (fields.map Prod.fst) v' = a' at hrel ⊢
    cases hrel with
    | none => rfl
    | some hkept => exact hblind _ _ hkept
  · intro v hrepeats
    cases hfields : fieldsOf (fields.map Prod.fst) v with
    | none => rfl
    | some vs => exact hrefuses vs (fieldsOf_repeats hrepeats hfields)

/-- A structure of plain values is decoded by its keys, whatever is done with the values. -/
theorem ByKey.leaves {keys : List String} (hkeys : keys.Nodup) (build : List Value → Option α) :
    ByKey (.leaves keys) fun v => fieldsOf keys v >>= build := by
  have hfst : (keys.map fun key => (key, Shape.leaf)).map Prod.fst = keys := by
    rw [List.map_map]
    exact List.map_id keys
  have hleaves : ∀ shape ∈ (keys.map fun key => (key, Shape.leaf)).map Prod.snd,
      shape = .leaf := by
    simp
  have hrecord : ByKey (.leaves keys) fun v =>
      fieldsOf ((keys.map fun key => (key, Shape.leaf)).map Prod.fst) v >>= build :=
    .record (hfst.symm ▸ hkeys) (fun vs vs' hkept => by rw [hkept.eq_of_leaves hleaves])
      (fun vs hsome => absurd hsome (not_someRepeats_of_leaves hleaves))
  rwa [hfst] at hrecord

end

/-! ## 5. Groups -/

def loadAverageShape : Shape := .leaves ["one", "five", "fifteen"]

def cpuUsageShape : Shape := .leaves ["busy_percent", "idle_percent"]

def diskUsageShape : Shape := .leaves ["kb_per_transfer", "mb_per_second", "transfers_per_second"]

def talkerShape : Shape := .leaves ["name", "bytes_in", "bytes_out"]

def topTalkersShape : Shape :=
  .record [("by_bytes_in", .list talkerShape), ("by_bytes_out", .list talkerShape)]

def fileSystemShape : Shape :=
  .leaves ["mount_point", "file_system", "total_bytes", "available_bytes"]

def fileSystemsShape : Shape := .record [("filesystems", .list fileSystemShape)]

/-- The members of the outermost object that are groups. -/
def groupFields : List (String × Shape) :=
  [("load_average", loadAverageShape), ("cpu_usage", cpuUsageShape),
    ("disk_usage", diskUsageShape), ("network_talkers", topTalkersShape),
    ("filesystems", fileSystemsShape)]

theorem byKey_loadAverageOf : ByKey loadAverageShape loadAverageOf :=
  .leaves (by decide) _

theorem byKey_cpuUsageOf : ByKey cpuUsageShape cpuUsageOf :=
  .leaves (by decide) _

theorem byKey_diskUsageOf : ByKey diskUsageShape diskUsageOf :=
  .leaves (by decide) _

theorem byKey_talkerOf : ByKey talkerShape talkerOf :=
  .leaves (by decide) _

theorem byKey_fileSystemOf : ByKey fileSystemShape fileSystemOf :=
  .leaves (by decide) _

theorem byKey_topTalkersOf : ByKey topTalkersShape topTalkersOf := by
  have htalkers := byKey_talkerOf.list
  refine .record (by decide) ?_ ?_
  · intro vs vs' hkept
    cases hkept with
    | cons ha hkept =>
      cases hkept with
      | cons hb hkept =>
        cases hkept
        simp only [htalkers.kept ha, htalkers.kept hb]
  · intro vs hsome
    cases hsome with
    | here ha =>
      rename_i vs
      match vs with
      | [] => rfl
      | [b] => simp [htalkers.refuses _ ha]
      | _ :: _ :: _ => rfl
    | there hsome =>
      cases hsome with
      | here hb =>
        rename_i a b vs
        match vs with
        | [] => simp [htalkers.refuses _ hb]
        | _ :: _ => rfl
      | there hsome => cases hsome

theorem byKey_fileSystemsOf : ByKey fileSystemsShape fileSystemsOf := by
  have hsystems := byKey_fileSystemOf.list
  refine .record (by decide) ?_ ?_
  · intro vs vs' hkept
    cases hkept with
    | cons ha hkept =>
      cases hkept
      exact hsystems.kept ha
  · intro vs hsome
    cases hsome with
    | here ha =>
      rename_i a vs
      match vs with
      | [] => exact hsystems.refuses a ha
      | _ :: _ => rfl
    | there hsome => cases hsome

/-! ## 6. The groups of a record -/

theorem Edit.ne_null {shape : Shape} {v v' : Value} (h : Edit shape v v') :
    v ≠ .null ∧ v' ≠ .null := by
  cases h <;> exact ⟨Value.noConfusion, Value.noConfusion⟩

theorem Repeats.ne_null {shape : Shape} {v : Value} (h : Repeats shape v) : v ≠ .null := by
  cases h <;> exact Value.noConfusion

section

variable {α : Type} {shape : Shape} {decode : Value → Option α} {key : String}
  {ms ms' : List (String × Value)}

theorem groupOf_of_ne_null {v : Value} (hlookup : lookup key ms = [v]) (hv : v ≠ .null) :
    groupOf key decode ms = (decode v).map some := by
  unfold groupOf
  rw [hlookup]
  cases v with
  | null => exact absurd rfl hv
  | _ => rfl

theorem groupOf_of_many (h : 2 ≤ (lookup key ms).length) : groupOf key decode ms = none := by
  unfold groupOf
  match lookup key ms, h with
  | v :: _ :: _, _ => cases v <;> rfl

/-- A group is the same if what stands behind its key is kept. -/
theorem ByKey.groupOf_eq (h : ByKey shape decode)
    (halike : Alike shape (lookup key ms) (lookup key ms')) :
    groupOf key decode ms = groupOf key decode ms' := by
  generalize hvs : lookup key ms = vs at halike
  generalize hvs' : lookup key ms' = vs' at halike
  cases halike with
  | none => rw [groupOf, groupOf, hvs, hvs']
  | many hmany hmany' => rw [groupOf_of_many (hvs ▸ hmany), groupOf_of_many (hvs' ▸ hmany')]
  | one hkept =>
    obtain rfl | hedit := hkept
    · rw [groupOf, groupOf, hvs, hvs']
    · rw [groupOf_of_ne_null hvs hedit.ne_null.1, groupOf_of_ne_null hvs' hedit.ne_null.2,
        h.blind _ _ hedit]

/-- There is no group where its key occurs twice, or one that it knows. -/
theorem ByKey.groupOf_eq_none (h : ByKey shape decode)
    (hrepeats : 2 ≤ (lookup key ms).length ∨ ∃ v, lookup key ms = [v] ∧ Repeats shape v) :
    groupOf key decode ms = none := by
  obtain hmany | ⟨v, hlookup, hv⟩ := hrepeats
  · exact groupOf_of_many hmany
  · rw [groupOf_of_ne_null hlookup hv.ne_null, h.refuses v hv]
    rfl

end

end Vitals.Record
