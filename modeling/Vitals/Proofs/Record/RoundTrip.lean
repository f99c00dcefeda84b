import Vitals.Record.Reading
import Vitals.Record.Writing
import Vitals.Proofs.Json.RoundTrip

/-!
# Records that are written are read

The record of a snapshot, and the text of a sample, decode to what was written: the same groups with
the same strings and counters in the same order, and each measured value as the reader of numbers
finds it in the digits that were written for it. This file fixes

* `Metrics.map`, which changes the measured values and nothing else;
* `Metrics.reals`, the measured values.

Main statements: the fields of a structure are found by their keys (`fieldsOf_object`); an object
of counters and other members is opened as it was written (`openObject_print`); the groups are
decoded (`metricsOf_members`); hence `records_read_back`.
-/

namespace Vitals

open Vitals.Json Vitals.Record

/-! ## 1. The measured values -/

section

variable {ν μ : Type}

def LoadAverage.map (f : ν → μ) (l : LoadAverage ν) : LoadAverage μ :=
  ⟨f l.one, f l.five, f l.fifteen⟩

def CpuUsage.map (f : ν → μ) (u : CpuUsage ν) : CpuUsage μ :=
  ⟨f u.busyPercent, f u.idlePercent⟩

def DiskUsage.map (f : ν → μ) (d : DiskUsage ν) : DiskUsage μ :=
  ⟨f d.kbPerTransfer, f d.mbPerSecond, f d.transfersPerSecond⟩

/-- The same groups with each measured value changed. -/
def Metrics.map (f : ν → μ) (m : Metrics ν) : Metrics μ where
  loadAverage := m.loadAverage.map (LoadAverage.map f)
  cpuUsage := m.cpuUsage.map (CpuUsage.map f)
  diskUsage := m.diskUsage.map (DiskUsage.map f)
  networkTalkers := m.networkTalkers
  fileSystems := m.fileSystems

theorem Metrics.has_map (f : ν → μ) (m : Metrics ν) (g : MetricGroup) :
    (m.map f).has g = m.has g := by
  cases g <;> simp [Metrics.has, Metrics.map]

def LoadAverage.reals (l : LoadAverage ν) : List ν := [l.one, l.five, l.fifteen]

def CpuUsage.reals (u : CpuUsage ν) : List ν := [u.busyPercent, u.idlePercent]

def DiskUsage.reals (d : DiskUsage ν) : List ν :=
  [d.kbPerTransfer, d.mbPerSecond, d.transfersPerSecond]

/-- The measured values of all groups that are present. -/
def Metrics.reals (m : Metrics ν) : List ν :=
  m.loadAverage.toList.flatMap LoadAverage.reals ++ m.cpuUsage.toList.flatMap CpuUsage.reals
    ++ m.diskUsage.toList.flatMap DiskUsage.reals

end

namespace Record

/-! ## 2. Members and their keys -/

theorem lookup_append (key : String) (ms ns : List (String × Value)) :
    lookup key (ms ++ ns) = lookup key ms ++ lookup key ns := by
  simp [lookup]

theorem lookup_cons (key : String) (m : String × Value) (ms : List (String × Value)) :
    lookup key (m :: ms) = if m.1 == key then m.2 :: lookup key ms else lookup key ms := by
  by_cases h : (m.1 == key) = true
  · simp [lookup, h]
  · simp [lookup, h]

theorem lookup_eq_nil {key : String} {ms : List (String × Value)} (h : key ∉ ms.map Prod.fst) :
    lookup key ms = [] := by
  induction ms with
  | nil => rfl
  | cons m ms ih =>
    rw [List.map_cons, List.mem_cons, not_or] at h
    have hne : (m.1 == key) = false := by simpa using Ne.symm h.1
    rw [lookup_cons, hne]
    exact ih h.2

theorem lookup_rereadMembers (key : String) (ms : List (String × Value)) :
    lookup key (rereadMembers ms) = (lookup key ms).map Value.reread := by
  induction ms with
  | nil => rfl
  | cons m ms ih =>
    obtain ⟨key', v⟩ := m
    rw [rereadMembers, lookup_cons, lookup_cons, ih]
    split
    · rfl
    · rfl

theorem lookup_zip {keys : List String} {vs : List Value} (h : keys.Nodup) {key : String}
    {v : Value} (hmem : (key, v) ∈ keys.zip vs) : lookup key (keys.zip vs) = [v] := by
  induction keys generalizing vs with
  | nil => exact absurd hmem (by simp)
  | cons k keys ih =>
    cases vs with
    | nil => exact absurd hmem (by simp)
    | cons w vs =>
      obtain ⟨hk, hkeys⟩ := List.nodup_cons.1 h
      rw [List.zip_cons_cons, lookup_cons]
      rw [List.zip_cons_cons, List.mem_cons] at hmem
      rcases hmem with heq | hmem
      · obtain ⟨rfl, rfl⟩ := Prod.mk.inj heq
        have hnil : lookup key (keys.zip vs) = [] := by
          refine lookup_eq_nil fun hin => hk ?_
          obtain ⟨p, hp, rfl⟩ := List.mem_map.1 hin
          exact (List.of_mem_zip hp).1
        simp [hnil]
      · have hne : (k == key) = false := by
          have hin : key ∈ keys := (List.of_mem_zip hmem).1
          simp only [beq_eq_false_iff_ne]
          rintro rfl
          exact hk hin
        rw [hne]
        exact ih hkeys hmem

/-- A traversal in which every item succeeds. -/
theorem mapM_eq_some {α β : Type} {f : α → Option β} {as : List α} {bs : List β}
    (h : List.Forall₂ (fun a b => f a = some b) as bs) : as.mapM f = some bs := by
  induction h with
  | nil => rfl
  | cons hab _ ih => simp [List.mapM_cons, hab, ih]

/-- **The fields of a structure are found by their keys.** -/
theorem fieldsOf_object {keys : List String} {v : Value} {vs : List Value}
    (hv : v = .object (keys.zip vs)) (hkeys : keys.Nodup) (hlen : keys.length = vs.length) :
    fieldsOf keys v = some vs := by
  rw [hv]
  refine mapM_eq_some (List.forall₂_iff_zip.2 ⟨hlen, ?_⟩)
  intro key v hmem
  rw [lookup_zip hkeys hmem]

/-- A list reads back if its items do. -/
theorem toList?_array {α : Type} {item : Value → Option α} {toJson : α → Value}
    (h : ∀ a, item (toJson a).reread = some a) (as : List α) :
    toList? item (Value.array (as.map toJson)).reread = some as := by
  rw [Value.reread, rereadItems_eq_map, List.map_map]
  refine mapM_eq_some ?_
  rw [List.forall₂_map_left_iff]
  exact List.forall₂_same.2 fun a _ => h a

/-! ## 3. Groups -/

theorem loadAverageOf_toJson (l : LoadAverage Float) :
    loadAverageOf l.toJson.reread = some (l.map reread) := by
  have hfields : fieldsOf ["one", "five", "fifteen"] l.toJson.reread =
      some [.number (.real (reread l.one)), .number (.real (reread l.five)),
        .number (.real (reread l.fifteen))] :=
    fieldsOf_object rfl (by decide) rfl
  simp only [loadAverageOf, hfields]
  rfl

theorem cpuUsageOf_toJson (u : CpuUsage Float) :
    cpuUsageOf u.toJson.reread = some (u.map reread) := by
  have hfields : fieldsOf ["busy_percent", "idle_percent"] u.toJson.reread =
      some [.number (.real (reread u.busyPercent)), .number (.real (reread u.idlePercent))] :=
    fieldsOf_object rfl (by decide) rfl
  simp only [cpuUsageOf, hfields]
  rfl

theorem diskUsageOf_toJson (d : DiskUsage Float) :
    diskUsageOf d.toJson.reread = some (d.map reread) := by
  have hfields : fieldsOf ["kb_per_transfer", "mb_per_second", "transfers_per_second"]
      d.toJson.reread =
      some [.number (.real (reread d.kbPerTransfer)), .number (.real (reread d.mbPerSecond)),
        .number (.real (reread d.transfersPerSecond))] :=
    fieldsOf_object rfl (by decide) rfl
  simp only [diskUsageOf, hfields]
  rfl

theorem toWord?_toNat (w : UInt64) : toWord? (.number (.natural w.toNat)) = some w := by
  simp [toWord?, toNatural?]

theorem talkerOf_toJson (t : Talker) : talkerOf t.toJson.reread = some t := by
  have hfields : fieldsOf ["name", "bytes_in", "bytes_out"] t.toJson.reread =
      some [.text t.name, .number (.natural t.bytesIn.toNat),
        .number (.natural t.bytesOut.toNat)] :=
    fieldsOf_object rfl (by decide) rfl
  simp [talkerOf, hfields, toText?, toWord?_toNat]

theorem topTalkersOf_toJson (t : TopTalkers) : topTalkersOf t.toJson.reread = some t := by
  have hfields : fieldsOf ["by_bytes_in", "by_bytes_out"] t.toJson.reread =
      some [(Value.array (t.byBytesIn.map Talker.toJson)).reread,
        (Value.array (t.byBytesOut.map Talker.toJson)).reread] :=
    fieldsOf_object rfl (by decide) rfl
  simp [topTalkersOf, hfields, toList?_array talkerOf_toJson]

theorem fileSystemOf_toJson (u : FileSystemUsage) : fileSystemOf u.toJson.reread = some u := by
  have hfields : fieldsOf ["mount_point", "file_system", "total_bytes", "available_bytes"]
      u.toJson.reread =
      some [.text u.mountPoint, .text u.fileSystem, .number (.natural u.totalBytes.toNat),
        .number (.natural u.availableBytes.toNat)] :=
    fieldsOf_object rfl (by decide) rfl
  simp [fileSystemOf, hfields, toText?, toWord?_toNat]

theorem fileSystemsOf_toJson (us : List FileSystemUsage) :
    fileSystemsOf (fileSystemsToJson us).reread = some us := by
  have hfields : fieldsOf ["filesystems"] (fileSystemsToJson us).reread =
      some [(Value.array (us.map FileSystemUsage.toJson)).reread] :=
    fieldsOf_object rfl (by decide) rfl
  simp only [fileSystemsOf, hfields]
  exact toList?_array fileSystemOf_toJson us

/-! ## 4. The groups of a record -/

theorem lookup_memberOf {α : Type} (key key' : String) (toJson : α → Value) (a : Option α) :
    lookup key (memberOf key' toJson a) = if key' = key then a.toList.map toJson else [] := by
  cases a with
  | none => simp [memberOf, lookup]
  | some a =>
    by_cases h : key' = key
    · simp [memberOf, lookup, h]
    · simp [memberOf, lookup, h]

/-- A group that is decoded from every value written for it is found among the members. -/
theorem groupOf_rereadMembers {α : Type} {key : String} {decode : Value → Option α}
    {toJson : α → Value} {f : α → α} {a : Option α} {ms : List (String × Value)}
    (hnull : decode .null = none) (hdecode : ∀ a, decode (toJson a).reread = some (f a))
    (hlookup : lookup key ms = a.toList.map toJson) :
    groupOf key decode (rereadMembers ms) = some (a.map f) := by
  rw [groupOf, lookup_rereadMembers, hlookup]
  cases a with
  | none => rfl
  | some a =>
    have hdecoded := hdecode a
    simp only [Option.toList_some, List.map_cons, List.map_nil]
    split
    · contradiction
    · rename_i heq
      rw [(List.cons.inj heq).1, hnull] at hdecoded
      contradiction
    · rename_i v _ heq
      rw [← (List.cons.inj heq).1, hdecoded]
      rfl
    · rename_i hother
      exact absurd rfl (hother _)

/-- **The groups are decoded**, each measured value as it is read back. -/
theorem metricsOf_members (m : Metrics Float) :
    metricsOf (rereadMembers m.members) = some (m.map reread) := by
  have hload : lookup "load_average" m.members = m.loadAverage.toList.map LoadAverage.toJson := by
    simp [Metrics.members, lookup_append, lookup_memberOf]
  have hcpu : lookup "cpu_usage" m.members = m.cpuUsage.toList.map CpuUsage.toJson := by
    simp [Metrics.members, lookup_append, lookup_memberOf]
  have hdisk : lookup "disk_usage" m.members = m.diskUsage.toList.map DiskUsage.toJson := by
    simp [Metrics.members, lookup_append, lookup_memberOf]
  have htalkers : lookup "network_talkers" m.members =
      m.networkTalkers.toList.map TopTalkers.toJson := by
    simp [Metrics.members, lookup_append, lookup_memberOf]
  have hsystems : lookup "filesystems" m.members = m.fileSystems.toList.map fileSystemsToJson := by
    simp [Metrics.members, lookup_append, lookup_memberOf]
  simp only [metricsOf, groupOf_rereadMembers rfl loadAverageOf_toJson hload,
    groupOf_rereadMembers rfl cpuUsageOf_toJson hcpu,
    groupOf_rereadMembers rfl diskUsageOf_toJson hdisk,
    groupOf_rereadMembers rfl (f := id) topTalkersOf_toJson htalkers,
    groupOf_rereadMembers rfl (f := id) fileSystemsOf_toJson hsystems, Option.map_id]
  rfl

/-! ## 5. What can be read back -/

theorem readable_memberOf {α : Type} {key : String} {toJson : α → Value} {a : Option α}
    {depth : Nat} (h : ∀ b ∈ a, (toJson b).Readable depth) :
    ∀ m ∈ memberOf key toJson a, m.2.Readable depth := by
  intro m hm
  cases a with
  | none => exact absurd hm (by simp [memberOf])
  | some b =>
    rw [memberOf, List.mem_singleton] at hm
    rw [hm]
    exact h b rfl

theorem readable_array {α : Type} {toJson : α → Value} {depth : Nat}
    (h : ∀ a, (toJson a).Readable depth) (as : List α) :
    (Value.array (as.map toJson)).Readable (depth + 1) := by
  rw [Value.Readable, itemsReadable_iff]
  intro v hv
  obtain ⟨a, -, rfl⟩ := List.mem_map.1 hv
  exact h a

theorem readable_word (depth : Nat) (w : UInt64) :
    (Value.number (.natural w.toNat)).Readable depth := by
  rw [Value.Readable]
  exact w.toNat_lt

theorem readable_real (depth : Nat) {x : Float} (hx : x.isFinite = true) :
    (Value.number (.real x)).Readable depth := by
  rw [Value.Readable]
  exact hx

theorem readable_talker (depth : Nat) (t : Talker) : t.toJson.Readable (depth + 1) :=
  ⟨trivial, readable_word depth _, readable_word depth _, trivial⟩

theorem readable_fileSystem (depth : Nat) (u : FileSystemUsage) :
    u.toJson.Readable (depth + 1) :=
  ⟨trivial, trivial, readable_word depth _, readable_word depth _, trivial⟩

/-- Groups without a measured value that is infinite or not a number can be read back. -/
theorem readable_members {m : Metrics Float} (h : ∀ x ∈ m.reals, x.isFinite = true) (depth : Nat) :
    ∀ p ∈ m.members, p.2.Readable (depth + 3) := by
  simp only [Metrics.reals, List.mem_append, List.mem_flatMap, Option.mem_toList] at h
  have hload : ∀ l ∈ m.loadAverage, l.toJson.Readable (depth + 3) := by
    intro l hl
    have hreal : ∀ x ∈ l.reals, x.isFinite = true := fun x hx => h x (.inl (.inl ⟨l, hl, hx⟩))
    simp only [LoadAverage.reals, List.forall_mem_cons] at hreal
    exact ⟨readable_real _ hreal.1, readable_real _ hreal.2.1, readable_real _ hreal.2.2.1, trivial⟩
  have hcpu : ∀ u ∈ m.cpuUsage, u.toJson.Readable (depth + 3) := by
    intro u hu
    have hreal : ∀ x ∈ u.reals, x.isFinite = true := fun x hx => h x (.inl (.inr ⟨u, hu, hx⟩))
    simp only [CpuUsage.reals, List.forall_mem_cons] at hreal
    exact ⟨readable_real _ hreal.1, readable_real _ hreal.2.1, trivial⟩
  have hdisk : ∀ d ∈ m.diskUsage, d.toJson.Readable (depth + 3) := by
    intro d hd
    have hreal : ∀ x ∈ d.reals, x.isFinite = true := fun x hx => h x (.inr ⟨d, hd, hx⟩)
    simp only [DiskUsage.reals, List.forall_mem_cons] at hreal
    exact ⟨readable_real _ hreal.1, readable_real _ hreal.2.1, readable_real _ hreal.2.2.1, trivial⟩
  have htalkers : ∀ t ∈ m.networkTalkers, t.toJson.Readable (depth + 3) := by
    intro t _
    exact ⟨readable_array (readable_talker depth) _, readable_array (readable_talker depth) _,
      trivial⟩
  have hsystems : ∀ us ∈ m.fileSystems, (fileSystemsToJson us).Readable (depth + 3) := by
    intro us _
    exact ⟨readable_array (readable_fileSystem depth) us, trivial⟩
  intro p hp
  simp only [Metrics.members, List.mem_append] at hp
  rcases hp with (((hp | hp) | hp) | hp) | hp
  · exact readable_memberOf hload p hp
  · exact readable_memberOf hcpu p hp
  · exact readable_memberOf hdisk p hp
  · exact readable_memberOf htalkers p hp
  · exact readable_memberOf hsystems p hp

/-! ## 6. The outermost object -/

/-- Members that are no counters are passed on. -/
theorem walk_others {known : List String} {ms : List (String × Value)}
    (h : ∀ m ∈ ms, m.1 ∉ known) (o : Opened) (rest : List Char) :
    Opened.walk known o (.ofMembers rest ms) = .ok (⟨o.counters, o.others ++ ms⟩, rest) := by
  induction ms generalizing o with
  | nil => simp [Outline.ofMembers, Opened.walk]
  | cons m ms ih =>
    obtain ⟨hm, hms⟩ := List.forall_mem_cons.1 h
    rw [Outline.ofMembers, Opened.walk, if_neg hm, ih hms]
    simp

/-- The member of a counter. -/
def counterMember (c : String × Nat) : String × Value :=
  (c.1, .number (.natural c.2))

/-- Counters are taken, each once, in front of the other members. -/
theorem walk_counters {known : List String} {cs : List (String × Nat)}
    {ms : List (String × Value)} (hknown : ∀ c ∈ cs, c.1 ∈ known)
    (hms : ∀ m ∈ ms, m.1 ∉ known) (o : Opened)
    (hnew : (o.counters ++ cs).Pairwise fun c d => c.1 ≠ d.1) (rest : List Char) :
    Opened.walk known o (.ofMembers rest (cs.map counterMember ++ ms)) =
      .ok (⟨o.counters ++ cs, o.others ++ ms⟩, rest) := by
  induction cs generalizing o with
  | nil => simpa using walk_others hms o rest
  | cons c cs ih =>
    obtain ⟨hc, hcs⟩ := List.forall_mem_cons.1 hknown
    have hfresh : (o.counters.map Prod.fst).contains c.1 = false := by
      rw [← Bool.not_eq_true, List.contains_iff_mem]
      intro hin
      obtain ⟨d, hd, hsame⟩ := List.mem_map.1 hin
      exact (List.pairwise_append.1 hnew).2.2 d hd c List.mem_cons_self hsame
    have hrest := ih hcs ⟨o.counters ++ [c], o.others⟩ (by simpa using hnew)
    rw [List.map_cons, List.cons_append, counterMember, Outline.ofMembers, Opened.walk, if_pos hc,
      hfresh]
    simp only [toNatural?]
    simpa using hrest

/-- **An object of counters and other members is opened as it was written.** -/
theorem openObject_print {known : List String} {cs : List (String × Nat)}
    {ms : List (String × Value)} (hknown : ∀ c ∈ cs, c.1 ∈ known)
    (hdistinct : cs.Pairwise fun c d => c.1 ≠ d.1) (hfits : ∀ c ∈ cs, c.2 < UInt64.size)
    (hms : ∀ m ∈ ms, m.1 ∉ known) (hreadable : ∀ m ∈ ms, m.2.Readable (depthLimit - 1)) :
    openObject known (Value.object (cs.map counterMember ++ ms)).print =
      .ok (⟨cs, rereadMembers ms⟩, []) := by
  obtain ⟨all, hall⟩ : ∃ all, all = cs.map counterMember ++ ms := ⟨_, rfl⟩
  have hmembers : MembersReadable (depthLimit - 1) all := by
    rw [membersReadable_iff, hall]
    intro m hm
    rcases List.mem_append.1 hm with hm | hm
    · obtain ⟨c, hc, rfl⟩ := List.mem_map.1 hm
      rw [counterMember, Value.Readable]
      exact hfits c hc
    · exact hreadable m hm
  have hreread : rereadMembers all = cs.map counterMember ++ rereadMembers ms := by
    rw [hall, rereadMembers_eq_map, rereadMembers_eq_map, List.map_append, List.map_map]
    rfl
  have hkeys : ∀ m ∈ rereadMembers ms, m.1 ∉ known := by
    rw [rereadMembers_eq_map]
    intro m hm
    obtain ⟨m', hm', rfl⟩ := List.mem_map.1 hm
    exact hms m' hm'
  rw [← hall]
  show Opened.walk known ⟨[], []⟩ (outline (printMembers true all ++ ['}'])) = _
  rw [outline_print hmembers, hreread]
  exact walk_counters hknown hkeys ⟨[], []⟩ hdistinct []

theorem key_of_mem_memberOf {α : Type} {key : String} {toJson : α → Value} {a : Option α}
    {m : String × Value} (h : m ∈ memberOf key toJson a) : m.1 = key := by
  cases a with
  | none => exact absurd h (by simp [memberOf])
  | some a =>
    rw [memberOf, List.mem_singleton] at h
    rw [h]

/-- No group has the key of a counter. -/
theorem not_counter_of_mem_members {m : Metrics Float} {p : String × Value} (h : p ∈ m.members) :
    p.1 ∉ ["timestamp", "samples"] := by
  simp only [Metrics.members, List.mem_append] at h
  rcases h with (((h | h) | h) | h) | h
  all_goals
    rw [key_of_mem_memberOf h]
    decide

/-- The counters and groups of a record are opened as they were written. -/
theorem openObject_members {known : List String} {cs : List (String × Nat)} {m : Metrics Float}
    (hcounters : ∀ key ∈ known, key ∈ ["timestamp", "samples"]) (hknown : ∀ c ∈ cs, c.1 ∈ known)
    (hdistinct : cs.Pairwise fun c d => c.1 ≠ d.1) (hfits : ∀ c ∈ cs, c.2 < UInt64.size)
    (hreal : ∀ x ∈ m.reals, x.isFinite = true) :
    openObject known (Value.object (cs.map counterMember ++ m.members)).print =
      .ok (⟨cs, rereadMembers m.members⟩, []) := by
  refine openObject_print hknown hdistinct hfits ?_ (readable_members hreal 123)
  intro p hp hkey
  exact not_counter_of_mem_members hp (hcounters p.1 hkey)

theorem metrics_opened (cs : List (String × Nat)) (m : Metrics Float) :
    Opened.metrics ⟨cs, rereadMembers m.members⟩ = .ok (m.map reread) := by
  rw [Opened.metrics, metricsOf_members]

end Record

/-! ## 7. Records -/

/-- What a record carries fits unless the moment is beyond 64 bits of nanoseconds. -/
theorem Moment.unixNanos_lt_iff (t : Moment) :
    t.unixNanos < UInt64.size ↔ ¬ (UInt64.size : Int) ≤ t.sinceEpoch := by
  unfold Moment.unixNanos
  have hsize : 0 < UInt64.size := by decide
  omega

/-- The moment that is read back: the epoch for every moment before it. -/
theorem Moment.ofUnixNanos_unixNanos_eq_max (t : Moment) :
    Moment.ofUnixNanos t.unixNanos = ⟨max 0 t.sinceEpoch⟩ := by
  simp only [Moment.ofUnixNanos, Moment.unixNanos, Moment.mk.injEq]
  omega

/-- A text is refused exactly when its moment is beyond 64 bits of nanoseconds. -/
theorem stamped_error_iff (t : Moment) (text : List Char) :
    (∃ fault, (if t.unixNanos < UInt64.size then .ok text else .error timestampTooLarge) =
      (.error fault : Except Fault (List Char))) ↔ (UInt64.size : Int) ≤ t.sinceEpoch := by
  by_cases h : t.unixNanos < UInt64.size
  · rw [if_pos h]
    constructor
    · rintro ⟨fault, hfault⟩
      contradiction
    · intro hlate
      exact absurd hlate (t.unixNanos_lt_iff.1 h)
  · rw [if_neg h]
    constructor
    · intro _
      by_contra hearly
      exact h (t.unixNanos_lt_iff.2 hearly)
    · intro _
      exact ⟨_, rfl⟩

theorem stamped_ok {t : Moment} {text text' : List Char}
    (h : (if t.unixNanos < UInt64.size then .ok text else .error timestampTooLarge) =
      (.ok text' : Except Fault (List Char))) : t.unixNanos < UInt64.size ∧ text = text' := by
  by_cases hfits : t.unixNanos < UInt64.size
  · rw [if_pos hfits] at h
    exact ⟨hfits, Except.ok.inj h⟩
  · rw [if_neg hfits] at h
    contradiction

/-- **The record of a snapshot reads back.** -/
theorem Snapshot.ofText_record {s : Snapshot Float} (hsamples : s.samples < UInt64.size)
    (hreal : ∀ x ∈ s.metrics.reals, x.isFinite = true) {text : List Char}
    (h : s.record = .ok text) :
    Snapshot.ofText text =
      .ok ⟨⟨max 0 s.timestamp.sinceEpoch⟩, s.samples, s.metrics.map reread⟩ := by
  obtain ⟨hfits, htext⟩ := stamped_ok h
  obtain ⟨cs, hcs⟩ : ∃ cs, cs = [("timestamp", s.timestamp.unixNanos), ("samples", s.samples)] :=
    ⟨_, rfl⟩
  have hopen : openObject ["timestamp", "samples"] text =
      .ok (⟨cs, rereadMembers s.metrics.members⟩, []) := by
    have hwritten : text = (Value.object (cs.map counterMember ++ s.metrics.members)).print := by
      rw [← htext, hcs]
      rfl
    rw [hwritten]
    exact openObject_members (by simp) (by simp [hcs]) (by simp [hcs])
      (by simpa [hcs] using ⟨hfits, hsamples⟩) hreal
  simp only [Snapshot.ofText, hopen, bind, Except.bind, metrics_opened]
  rw [← Moment.ofUnixNanos_unixNanos_eq_max, hcs]
  rfl

/-- **The text of a sample reads back.** -/
theorem Sample.ofText_text {s : Sample Float}
    (hreal : ∀ x ∈ s.metrics.reals, x.isFinite = true) {text : List Char}
    (h : s.text = .ok text) :
    Sample.ofText text = .ok ⟨⟨max 0 s.timestamp.sinceEpoch⟩, s.metrics.map reread⟩ := by
  obtain ⟨hfits, htext⟩ := stamped_ok h
  obtain ⟨cs, hcs⟩ : ∃ cs, cs = [("timestamp", s.timestamp.unixNanos)] := ⟨_, rfl⟩
  have hopen : openObject ["timestamp"] text =
      .ok (⟨cs, rereadMembers s.metrics.members⟩, []) := by
    have hwritten : text = (Value.object (cs.map counterMember ++ s.metrics.members)).print := by
      rw [← htext, hcs]
      rfl
    rw [hwritten]
    exact openObject_members (by simp) (by simp [hcs]) (by simp [hcs]) (by simpa [hcs] using hfits)
      hreal
  simp only [Sample.ofText, hopen, bind, Except.bind, metrics_opened]
  rw [← Moment.ofUnixNanos_unixNanos_eq_max, hcs]
  rfl

/-- **Records and the texts of samples read back.** A text is refused exactly for a moment beyond 64
bits of nanoseconds. Otherwise, if the measured values are finite, it decodes to the same number of
samples and the same groups, strings, counters and lists, at the same moment or at the epoch if that
was before it; each measured value is the one that the digits written for it stand for. -/
theorem records_read_back :
    (∀ s : Snapshot Float,
      ((∃ fault, s.record = .error fault) ↔ (UInt64.size : Int) ≤ s.timestamp.sinceEpoch) ∧
      (s.samples < UInt64.size → (∀ x ∈ s.metrics.reals, x.isFinite = true) →
        ∀ text, s.record = .ok text → Snapshot.ofText text =
          .ok ⟨⟨max 0 s.timestamp.sinceEpoch⟩, s.samples, s.metrics.map reread⟩)) ∧
    (∀ s : Sample Float,
      ((∃ fault, s.text = .error fault) ↔ (UInt64.size : Int) ≤ s.timestamp.sinceEpoch) ∧
      ((∀ x ∈ s.metrics.reals, x.isFinite = true) → ∀ text, s.text = .ok text →
        Sample.ofText text = .ok ⟨⟨max 0 s.timestamp.sinceEpoch⟩, s.metrics.map reread⟩)) ∧
    ∀ x : Float, x.isFinite = true → readNumber (printReal x) = .ok (.real (reread x), []) := by
  refine ⟨?_, ?_, ?_⟩
  · intro s
    refine ⟨stamped_error_iff _ _, ?_⟩
    intro hsamples hreal text htext
    exact Snapshot.ofText_record hsamples hreal htext
  · intro s
    refine ⟨stamped_error_iff _ _, ?_⟩
    intro hreal text htext
    exact Sample.ofText_text hreal htext
  · intro x hx
    have hread := readNumber_real hx endsNumber_nil
    rwa [List.append_nil] at hread

/-- A snapshot from before the epoch, with a name that is escaped. -/
def escapedSnapshot : Snapshot Float where
  timestamp := ⟨-5⟩
  samples := 3
  metrics := {
    loadAverage := some ⟨0.5, 1.0, 1e22⟩
    networkTalkers := some ⟨[⟨"a\"\\\n", 1, 2⟩, ⟨"ö", 18446744073709551615, 0⟩], []⟩ }

theorem escapedSnapshot_reads_back :
    (∃ text, escapedSnapshot.record = .ok text ∧
      Snapshot.ofText text = .ok ⟨⟨0⟩, 3, escapedSnapshot.metrics.map reread⟩) ∧
    (∃ text, (Sample.mk ⟨-5⟩ escapedSnapshot.metrics).text = .ok text ∧
      Sample.ofText text = .ok ⟨⟨0⟩, escapedSnapshot.metrics.map reread⟩) ∧
    readNumber (printReal 0.5) = .ok (.real (reread 0.5), []) := by
  obtain ⟨hsnapshots, hsamples, hreals⟩ := records_read_back
  have hfinite : ∀ x ∈ escapedSnapshot.metrics.reals, x.isFinite = true := by decide +kernel
  refine ⟨⟨_, rfl, ?_⟩, ⟨_, rfl, ?_⟩, ?_⟩
  · exact (hsnapshots escapedSnapshot).2 (by decide) hfinite _ rfl
  · exact (hsamples ⟨⟨-5⟩, escapedSnapshot.metrics⟩).2 hfinite _ rfl
  · exact hreals 0.5 (by decide +kernel)

end Vitals
