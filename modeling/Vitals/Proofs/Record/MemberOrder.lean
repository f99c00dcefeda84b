import Vitals.Proofs.Json.Grammar
import Vitals.Proofs.Record.Shapes

/-!
# Records in any order

Snapshots and samples are decoded by the keys of their members. The outermost object is taken member
by member, counters apart from the groups, and still the order makes no difference, and neither do
members that are not known. This file fixes

* `counterOf`, a counter among members in any order;
* `Snapshot.ofMembers` and `Sample.ofMembers`, what the members of an object come to;
* `ReadsByKey`, that a decoder of texts depends on nothing but what stands behind the known keys.

Main statements: an object text is decoded to what its members come to, and to wrong content if they
come to nothing (`Snapshot.ofText_eq`, `Sample.ofText_eq`); hence
`records_read_by_key`.
-/

namespace Vitals.Record

open Vitals.Json

/-! ## 1. Counters and groups among the members -/

/-- The value of a counter, which must occur exactly once. -/
def counterOf (key : String) (ms : List (String × Value)) : Option Nat :=
  (single key ms).bind toNatural?

/-- What is missing is wrong content. -/
def orContent {α : Type} : Option α → Except Refusal α
  | some a => .ok a
  | none => .error .content

theorem eq_some_of_orContent {α : Type} {a : Option α} {b : α} (h : orContent a = .ok b) :
    a = some b := by
  cases a with
  | none => cases h
  | some a => rw [Except.ok.inj h]

theorem counterOf_append_cons_ne {key : String} {m : String × Value} (h : m.1 ≠ key)
    (ms ns : List (String × Value)) : counterOf key (ms ++ m :: ns) = counterOf key (ms ++ ns) := by
  have hne : (m.1 == key) = false := beq_eq_false_iff_ne.mpr h
  have hsame : lookup key (ms ++ m :: ns) = lookup key (ms ++ ns) := by
    rw [lookup_append, lookup_append, lookup_cons, hne, if_neg Bool.false_ne_true]
  rw [counterOf, counterOf, single, single, hsame]

theorem counterOf_of_many {key : String} {ms : List (String × Value)}
    (h : 2 ≤ (lookup key ms).length) : counterOf key ms = none := by
  rw [counterOf, single_of_many h]
  rfl

theorem keys_counters (cs : List (String × Nat)) :
    (cs.map counterMember).map Prod.fst = cs.map Prod.fst := by
  rw [List.map_map]
  rfl

/-- The counters taken so far are found by their keys. -/
theorem counterOf_counters {cs : List (String × Nat)} (h : (cs.map Prod.fst).Nodup) (key : String) :
    counterOf key (cs.map counterMember) = cs.lookup key := by
  induction cs with
  | nil => rfl
  | cons c cs ih =>
    obtain ⟨hc, hcs⟩ := List.nodup_cons.mp h
    obtain ⟨k, n⟩ := c
    by_cases hk : k = key
    · subst hk
      have hnil : lookup k (cs.map counterMember) = [] :=
        lookup_eq_nil (by rw [keys_counters]; exact hc)
      simp [counterOf, single, lookup_cons, counterMember, hnil, toNatural?]
    · rw [List.map_cons, List.lookup_cons, beq_eq_false_iff_ne.mpr (Ne.symm hk), ← ih hcs]
      exact counterOf_append_cons_ne (m := counterMember (k, n)) hk [] _

/-- A counter that was taken and comes again is wrong content. -/
theorem counterOf_of_taken {cs : List (String × Nat)} {key : String} (h : key ∈ cs.map Prod.fst)
    (v : Value) (ms : List (String × Value)) :
    counterOf key (cs.map counterMember ++ (key, v) :: ms) = none := by
  have htaken : lookup key (cs.map counterMember) ≠ [] := by
    obtain ⟨c, hc, rfl⟩ := List.mem_map.mp h
    refine List.ne_nil_of_mem (a := (counterMember c).2) ?_
    refine List.mem_map.mpr ⟨counterMember c, List.mem_filter.mpr ⟨List.mem_map_of_mem hc, ?_⟩, rfl⟩
    exact beq_self_eq_true c.1
  have hpos := List.length_pos_of_ne_nil htaken
  refine counterOf_of_many ?_
  rw [lookup_append, lookup_cons, if_pos (beq_self_eq_true key), List.length_append,
    List.length_cons]
  omega

theorem counterOf_of_wrong {ns : List (String × Value)} {key : String} {v : Value}
    (h : toNatural? v = none) (ms : List (String × Value)) :
    counterOf key (ns ++ (key, v) :: ms) = none := by
  rw [counterOf, single, lookup_append, lookup_cons, if_pos (beq_self_eq_true key)]
  cases lookup key ns with
  | cons w ws => cases ws <;> rfl
  | nil =>
    cases lookup key ms with
    | nil => exact h
    | cons w ws => rfl

theorem eq_of_toNatural? {v : Value} {n : Nat} (h : toNatural? v = some n) :
    v = .number (.natural n) := by
  unfold toNatural? at h
  split at h
  · rw [Option.some.inj h]
  · cases h

/-- **Members are taken in any order**: the counters are found by their keys, and if the members are
not taken to their end, one of the counters is wrong. -/
theorem walk_ofMembers (known : List String) (rest : List Char) (ms : List (String × Value))
    (o : Opened) (ho : (o.counters.map Prod.fst).Nodup) :
    (∃ o', Opened.walk known o (.ofMembers rest ms) = .ok (o', rest) ∧
      o'.others = o.others ++ ms.filter (fun m => m.1 ∉ known) ∧
      ∀ key ∈ known, o'.counters.lookup key = counterOf key (o.counters.map counterMember ++ ms)) ∨
    (Opened.walk known o (.ofMembers rest ms) = .error .content ∧
      ∃ key ∈ known, counterOf key (o.counters.map counterMember ++ ms) = none) := by
  induction ms generalizing o with
  | nil =>
    refine .inl ⟨o, rfl, (List.append_nil _).symm, fun key _ => ?_⟩
    rw [List.append_nil, counterOf_counters ho]
  | cons m ms ih =>
    obtain ⟨key, v⟩ := m
    rw [Outline.ofMembers, Opened.walk]
    by_cases hkey : key ∈ known
    · rw [if_pos hkey]
      by_cases htaken : key ∈ o.counters.map Prod.fst
      · rw [if_pos (List.contains_iff_mem.mpr htaken)]
        exact .inr ⟨rfl, key, hkey, counterOf_of_taken htaken v ms⟩
      · rw [if_neg (fun h => htaken (List.contains_iff_mem.mp h))]
        cases hv : toNatural? v with
        | none => exact .inr ⟨rfl, key, hkey, counterOf_of_wrong hv ms⟩
        | some n =>
          obtain rfl := eq_of_toNatural? hv
          have hnodup : ((o.counters ++ [(key, n)]).map Prod.fst).Nodup := by
            rw [List.map_append, List.nodup_append]
            refine ⟨ho, List.nodup_singleton key, fun a ha b hb => ?_⟩
            rintro rfl
            rw [List.mem_singleton.mp hb] at ha
            exact htaken ha
          have hmembers : (o.counters ++ [(key, n)]).map counterMember ++ ms =
              o.counters.map counterMember ++ (key, .number (.natural n)) :: ms := by
            rw [List.map_append, List.append_assoc]
            rfl
          have hfilter : ((key, Value.number (.natural n)) :: ms).filter (fun m => m.1 ∉ known) =
              ms.filter (fun m => m.1 ∉ known) := List.filter_cons_of_neg (by simp [hkey])
          have hstep := ih ⟨o.counters ++ [(key, n)], o.others⟩ hnodup
          rw [hmembers] at hstep
          rw [hfilter]
          exact hstep
    · rw [if_neg hkey]
      have hfilter : ((key, v) :: ms).filter (fun m => m.1 ∉ known) =
          (key, v) :: ms.filter (fun m => m.1 ∉ known) := List.filter_cons_of_pos (by simp [hkey])
      have hother : ∀ key' ∈ known, counterOf key' (o.counters.map counterMember ++ (key, v) :: ms) =
          counterOf key' (o.counters.map counterMember ++ ms) := by
        intro key' hkey'
        refine counterOf_append_cons_ne ?_ _ _
        rintro rfl
        exact hkey hkey'
      obtain ⟨o', hwalk, hothers, hcounters⟩ | ⟨hwalk, key', hkey', hnone⟩ :=
        ih ⟨o.counters, o.others ++ [(key, v)]⟩ ho
      · refine .inl ⟨o', hwalk, ?_, fun key' hkey' => ?_⟩
        · rw [hothers, hfilter, List.append_assoc, List.singleton_append]
        · rw [hcounters key' hkey', hother key' hkey']
      · exact .inr ⟨hwalk, key', hkey', (hother key' hkey').trans hnone⟩

/-- The groups depend on what stands behind their keys. -/
theorem metricsOf_eq {ms ms' : List (String × Value)}
    (h : ∀ f ∈ groupFields, Alike f.2 (lookup f.1 ms) (lookup f.1 ms')) :
    metricsOf ms = metricsOf ms' := by
  simp only [groupFields, List.forall_mem_cons] at h
  obtain ⟨hload, hcpu, hdisk, htalkers, hsystems, -⟩ := h
  rw [metricsOf, byKey_loadAverageOf.groupOf_eq hload, byKey_cpuUsageOf.groupOf_eq hcpu,
    byKey_diskUsageOf.groupOf_eq hdisk, byKey_topTalkersOf.groupOf_eq htalkers,
    byKey_fileSystemsOf.groupOf_eq hsystems]
  rfl

/-- There are no groups where one of their keys occurs twice, or one that they know. -/
theorem metricsOf_eq_none {ms : List (String × Value)} {key : String} {shape : Shape}
    (hkey : (key, shape) ∈ groupFields)
    (h : 2 ≤ (lookup key ms).length ∨ ∃ v, lookup key ms = [v] ∧ Repeats shape v) :
    metricsOf ms = none := by
  simp only [groupFields, List.mem_cons, List.not_mem_nil, or_false, Prod.mk.injEq] at hkey
  rcases hkey with ⟨rfl, rfl⟩ | ⟨rfl, rfl⟩ | ⟨rfl, rfl⟩ | ⟨rfl, rfl⟩ | ⟨rfl, rfl⟩
  · simp [metricsOf, byKey_loadAverageOf.groupOf_eq_none h]
  · simp [metricsOf, byKey_cpuUsageOf.groupOf_eq_none h]
  · simp [metricsOf, byKey_diskUsageOf.groupOf_eq_none h]
  · simp [metricsOf, byKey_topTalkersOf.groupOf_eq_none h]
  · simp [metricsOf, byKey_fileSystemsOf.groupOf_eq_none h]

/-- Members that are taken out are no groups. -/
theorem metricsOf_filter {known : List String} (h : ∀ f ∈ groupFields, f.1 ∉ known)
    (ms : List (String × Value)) :
    metricsOf (ms.filter fun m => m.1 ∉ known) = metricsOf ms := by
  refine metricsOf_eq fun f hf => ?_
  have hsame : lookup f.1 (ms.filter fun m => m.1 ∉ known) = lookup f.1 ms := by
    rw [lookup, lookup, List.filter_filter]
    refine congrArg _ (List.filter_congr fun m _ => ?_)
    by_cases hm : m.1 = f.1
    · simp [hm, h f hf]
    · simp [hm]
  rw [hsame]
  exact .of_perm (.refl _)

/-! ## 2. Object texts -/

/-- The counters and groups of an object text are those among its members. -/
theorem openObject_objectText (known : List String) (hknown : ∀ f ∈ groupFields, f.1 ∉ known)
    {cs : List Char} {ms : List (String × Value)} (h : ObjectText cs ms) :
    (∃ o rest, openObject known cs = .ok (o, rest) ∧ checkEnd rest = .ok () ∧
      o.metrics = orContent (metricsOf ms) ∧
      ∀ key ∈ known, o.counter key = orContent (counterOf key ms)) ∨
    (openObject known cs = .error .content ∧ ∃ key ∈ known, counterOf key ms = none) := by
  obtain ⟨inner, rest, hopen, hrest, houtline⟩ := objectText_iff.mp h
  have hwalk : openObject known cs = Opened.walk known ⟨[], []⟩ (.ofMembers rest ms) := by
    simp only [openObject, hopen, houtline]
  obtain ⟨o, ho, hothers, hcounters⟩ | ⟨herror, hnone⟩ :=
    walk_ofMembers known rest ms ⟨[], []⟩ List.nodup_nil
  · refine .inl ⟨o, rest, hwalk.trans ho, if_pos (skipBlanks_eq_nil_iff.mpr hrest), ?_, ?_⟩
    · rw [Opened.metrics, hothers, List.nil_append, metricsOf_filter hknown]
      cases metricsOf ms <;> rfl
    · intro key hkey
      rw [Opened.counter, hcounters key hkey, List.map_nil, List.nil_append]
      cases counterOf key ms <;> rfl
  · exact .inr ⟨hwalk.trans herror, hnone⟩

/-- Members are taken to the end of an object only. -/
theorem eq_ofMembers_of_walk {known : List String} {o o' : Opened} {out : Outline}
    {rest : List Char} (h : Opened.walk known o out = .ok (o', rest)) :
    ∃ ms, out = .ofMembers rest ms := by
  induction out generalizing o with
  | member key v next ih =>
    rw [Opened.walk] at h
    have hnext : ∃ o, Opened.walk known o next = .ok (o', rest) := by
      split at h
      · split at h
        · cases h
        · split at h
          · exact ⟨_, h⟩
          · cases h
      · exact ⟨_, h⟩
    obtain ⟨o, ho⟩ := hnext
    obtain ⟨ms, rfl⟩ := ih ho
    exact ⟨(key, v) :: ms, rfl⟩
  | torn key opened flaw =>
    rw [Opened.walk] at h
    split at h <;> cases h
  | stopped flaw => cases h
  | closed rest' =>
    cases h
    exact ⟨[], rfl⟩

/-- **What is opened is an object text.** -/
theorem exists_objectText {known : List String} {cs rest : List Char} {o : Opened}
    (h : openObject known cs = .ok (o, rest)) (hend : checkEnd rest = .ok ()) :
    ∃ ms, ObjectText cs ms := by
  unfold openObject at h
  split at h
  · rename_i inner hopen
    obtain ⟨ms, houtline⟩ := eq_ofMembers_of_walk h
    refine ⟨ms, objectText_iff.mpr ⟨inner, rest, hopen, ?_, houtline⟩⟩
    unfold checkEnd at hend
    split at hend
    · rename_i hblank
      exact skipBlanks_eq_nil_iff.mp hblank
    · cases hend
  · cases h
  · split at h <;> cases h

end Vitals.Record

namespace Vitals

open Vitals.Json Vitals.Record

/-! ## 3. Snapshots and samples -/

/-- The snapshot that the members of an object come to. -/
def Snapshot.ofMembers (ms : List (String × Value)) : Option (Snapshot Float) := do
  let timestamp ← counterOf "timestamp" ms
  let samples ← counterOf "samples" ms
  let metrics ← metricsOf ms
  return ⟨Moment.ofUnixNanos timestamp, samples, metrics⟩

/-- The sample that the members of an object come to. -/
def Sample.ofMembers (ms : List (String × Value)) : Option (Sample Float) := do
  let timestamp ← counterOf "timestamp" ms
  let metrics ← metricsOf ms
  return ⟨Moment.ofUnixNanos timestamp, metrics⟩

/-- **An object text is decoded to the snapshot that its members come to**, or it is wrong
content. -/
theorem Snapshot.ofText_eq {cs : List Char} {ms : List (String × Value)} (h : ObjectText cs ms) :
    Snapshot.ofText cs = orContent (Snapshot.ofMembers ms) := by
  obtain ⟨o, rest, hopen, hend, hmetrics, hcounters⟩ | ⟨herror, key, hkey, hnone⟩ :=
    openObject_objectText ["timestamp", "samples"] (by decide) h
  · have htimestamp := hcounters "timestamp" (by decide)
    have hsamples := hcounters "samples" (by decide)
    simp only [Snapshot.ofText, hopen, bind, Except.bind, htimestamp, hsamples, hmetrics, hend,
      Snapshot.ofMembers]
    cases counterOf "timestamp" ms with
    | none => rfl
    | some t =>
      cases counterOf "samples" ms with
      | none => rfl
      | some n => cases metricsOf ms <;> rfl
  · have hmembers : Snapshot.ofMembers ms = none := by
      rw [List.mem_cons, List.mem_singleton] at hkey
      rcases hkey with rfl | rfl <;> simp [Snapshot.ofMembers, hnone]
    rw [hmembers, Snapshot.ofText, herror]
    rfl

theorem Sample.ofText_eq {cs : List Char} {ms : List (String × Value)} (h : ObjectText cs ms) :
    Sample.ofText cs = orContent (Sample.ofMembers ms) := by
  obtain ⟨o, rest, hopen, hend, hmetrics, hcounters⟩ | ⟨herror, key, hkey, hnone⟩ :=
    openObject_objectText ["timestamp"] (by decide) h
  · have htimestamp := hcounters "timestamp" (by decide)
    simp only [Sample.ofText, hopen, bind, Except.bind, htimestamp, hmetrics, hend,
      Sample.ofMembers]
    cases counterOf "timestamp" ms with
    | none => rfl
    | some t => cases metricsOf ms <;> rfl
  · have hmembers : Sample.ofMembers ms = none := by
      rw [List.mem_singleton] at hkey
      subst hkey
      simp [Sample.ofMembers, hnone]
    rw [hmembers, Sample.ofText, herror]
    rfl

/-- What is looked for in the outermost object: counters and groups. -/
def recordShape (counters : List String) : Shape :=
  .record (counters.map (fun key => (key, .leaf)) ++ groupFields)

/-- What an object comes to; any other value comes to nothing. -/
def ofObject {α : Type} (build : List (String × Value) → Option α) : Value → Option α
  | .object ms => build ms
  | _ => none

theorem counterOf_eq {key : String} {ms ms' : List (String × Value)}
    (h : Alike .leaf (lookup key ms) (lookup key ms')) : counterOf key ms = counterOf key ms' := by
  have hrel := single_rel h
  unfold counterOf
  generalize single key ms = a at hrel ⊢
  generalize single key ms' = a' at hrel ⊢
  cases hrel with
  | none => rfl
  | some hkept => exact (ByKey.leaf toNatural?).kept hkept

/-- **A record is decoded by its keys** if it is built from its counters and groups, and not without
one of them. -/
theorem byKey_ofObject {α : Type} {counters : List String}
    {build : List (String × Value) → Option α}
    (hkeys : ((counters.map fun key => (key, Shape.leaf)) ++ groupFields).map Prod.fst |>.Nodup)
    (hsame : ∀ ms ms', (∀ key ∈ counters, counterOf key ms = counterOf key ms') →
      metricsOf ms = metricsOf ms' → build ms = build ms')
    (hcounters : ∀ ms, ∀ key ∈ counters, counterOf key ms = none → build ms = none)
    (hmetrics : ∀ ms, metricsOf ms = none → build ms = none) :
    ByKey (recordShape counters) (ofObject build) := by
  have hcounter : ∀ key ∈ counters,
      (key, Shape.leaf) ∈ (counters.map fun key => (key, Shape.leaf)) ++ groupFields :=
    fun key hkey => List.mem_append_left _ (List.mem_map_of_mem hkey)
  have hobject : ∀ ms ms', Edit (recordShape counters) (.object ms) (.object ms') →
      build ms = build ms' := by
    intro ms ms' hedit
    refine hsame ms ms' (fun key hkey => ?_) (metricsOf_eq fun f hf => ?_)
    · exact counterOf_eq (lookup_edit hkeys hedit (hcounter key hkey))
    · exact lookup_edit hkeys hedit (List.mem_append_right _ hf)
  constructor
  · intro v v' hedit
    cases hedit with
    | order hperm => exact hobject _ _ (.order hperm)
    | insert before after v hnew => exact hobject _ _ (.insert before after v hnew)
    | member before after hkey hv => exact hobject _ _ (.member before after hkey hv)
    | field before after hshape hv => rfl
  · intro v hrepeats
    cases v with
    | object ms =>
      obtain ⟨key, shape, hkey, h⟩ := lookup_repeats hrepeats
      obtain hkey | hkey := List.mem_append.mp hkey
      · obtain ⟨key, hin, hpair⟩ := List.mem_map.mp hkey
        cases hpair
        obtain hmany | ⟨v, -, hv⟩ := h
        · exact hcounters ms key hin (counterOf_of_many hmany)
        · cases hv
      · exact hmetrics ms (metricsOf_eq_none hkey h)
    | _ => rfl

def snapshotShape : Shape := recordShape ["timestamp", "samples"]

def sampleShape : Shape := recordShape ["timestamp"]

theorem byKey_snapshot : ByKey snapshotShape (ofObject Snapshot.ofMembers) := by
  refine byKey_ofObject (by decide) ?_ ?_ ?_
  · intro ms ms' hcounters hmetrics
    rw [Snapshot.ofMembers, Snapshot.ofMembers, hcounters "timestamp" (by decide),
      hcounters "samples" (by decide), hmetrics]
  · intro ms key hkey hnone
    rw [List.mem_cons, List.mem_singleton] at hkey
    rcases hkey with rfl | rfl <;> simp [Snapshot.ofMembers, hnone]
  · intro ms hnone
    simp [Snapshot.ofMembers, hnone]

theorem byKey_sample : ByKey sampleShape (ofObject Sample.ofMembers) := by
  refine byKey_ofObject (by decide) ?_ ?_ ?_
  · intro ms ms' hcounters hmetrics
    rw [Sample.ofMembers, Sample.ofMembers, hcounters "timestamp" (by decide), hmetrics]
  · intro ms key hkey hnone
    rw [List.mem_singleton] at hkey
    subst hkey
    simp [Sample.ofMembers, hnone]
  · intro ms hnone
    simp [Sample.ofMembers, hnone]

/-! ## 4. Texts -/

/-- A decoder of texts that goes by the keys of members. -/
structure ReadsByKey {α : Type} (shape : Shape) (ofText : List Char → Except Refusal α) : Prop where
  /-- What decodes is the text of an object. -/
  whole : ∀ cs a, ofText cs = .ok a → ∃ ms, ObjectText cs ms
  /-- Every text of the object after any number of edits decodes to the same. -/
  rearranged : ∀ cs ms cs' ms', ObjectText cs ms → ObjectText cs' ms' →
    Rearranged shape (.object ms) (.object ms') → ofText cs' = ofText cs
  /-- A known key that occurs twice at its place is wrong content. -/
  repeated : ∀ cs ms, ObjectText cs ms → Repeats shape (.object ms) → ofText cs = .error .content

theorem readsByKey_of_byKey {α : Type} {shape : Shape} {build : List (String × Value) → Option α}
    {ofText : List Char → Except Refusal α} (h : ByKey shape (ofObject build))
    (heq : ∀ cs ms, ObjectText cs ms → ofText cs = orContent (build ms))
    (hwhole : ∀ cs a, ofText cs = .ok a → ∃ ms, ObjectText cs ms) : ReadsByKey shape ofText where
  whole := hwhole
  rearranged := by
    intro cs ms cs' ms' hcs hcs' hedits
    have hbuild : build ms = build ms' := h.rearranged hedits
    rw [heq cs ms hcs, heq cs' ms' hcs', hbuild]
  repeated := by
    intro cs ms hcs hrepeats
    have hbuild : build ms = none := h.refuses _ hrepeats
    rw [heq cs ms hcs, hbuild]
    rfl

theorem Snapshot.exists_objectText {cs : List Char} {s : Snapshot Float}
    (h : Snapshot.ofText cs = .ok s) : ∃ ms, ObjectText cs ms := by
  obtain ⟨⟨o, rest⟩, hopen, h⟩ := exists_of_bind_ok h
  obtain ⟨t, -, h⟩ := exists_of_bind_ok h
  obtain ⟨n, -, h⟩ := exists_of_bind_ok h
  obtain ⟨m, -, h⟩ := exists_of_bind_ok h
  obtain ⟨⟨⟩, hend, -⟩ := exists_of_bind_ok h
  exact Record.exists_objectText hopen hend

theorem Sample.exists_objectText {cs : List Char} {s : Sample Float}
    (h : Sample.ofText cs = .ok s) : ∃ ms, ObjectText cs ms := by
  obtain ⟨⟨o, rest⟩, hopen, h⟩ := exists_of_bind_ok h
  obtain ⟨t, -, h⟩ := exists_of_bind_ok h
  obtain ⟨m, -, h⟩ := exists_of_bind_ok h
  obtain ⟨⟨⟩, hend, -⟩ := exists_of_bind_ok h
  exact Record.exists_objectText hopen hend

/-- **A text of a snapshot is one of a sample**, with the same time stamp and groups. -/
theorem Sample.ofText_of_snapshot {cs : List Char} {s : Snapshot Float}
    (h : Snapshot.ofText cs = .ok s) : Sample.ofText cs = .ok ⟨s.timestamp, s.metrics⟩ := by
  obtain ⟨ms, hms⟩ := Snapshot.exists_objectText h
  rw [Snapshot.ofText_eq hms] at h
  obtain ⟨t, ht, hsome⟩ := Option.bind_eq_some_iff.mp (eq_some_of_orContent h)
  obtain ⟨n, -, hsome⟩ := Option.bind_eq_some_iff.mp hsome
  obtain ⟨m, hm, hsome⟩ := Option.bind_eq_some_iff.mp hsome
  cases hsome
  rw [Sample.ofText_eq hms, Sample.ofMembers, ht, hm]
  rfl

/-- **Snapshots and samples are decoded by the keys of their members.** The members of the object,
and those of the structures in its groups, may come in any order and have others with unknown keys
between them, as long as the text is one of JSON; a known key that occurs twice is always wrong
content. What decodes as a snapshot decodes as a sample with the same time stamp and groups, and so
do records, if their measured values are finite. -/
theorem records_read_by_key :
    ReadsByKey snapshotShape Snapshot.ofText ∧ ReadsByKey sampleShape Sample.ofText ∧
    (∀ cs s, Snapshot.ofText cs = .ok s → Sample.ofText cs = .ok ⟨s.timestamp, s.metrics⟩) ∧
    ∀ s : Snapshot Float, s.samples < UInt64.size → (∀ x ∈ s.metrics.reals, x.isFinite = true) →
      ∀ text, s.record = .ok text → Sample.ofText text =
        .ok ⟨⟨max 0 s.timestamp.sinceEpoch⟩, s.metrics.map reread⟩ := by
  refine ⟨?_, ?_, ?_, ?_⟩
  · exact readsByKey_of_byKey byKey_snapshot (fun _ _ => Snapshot.ofText_eq)
      (fun _ _ => Snapshot.exists_objectText)
  · exact readsByKey_of_byKey byKey_sample (fun _ _ => Sample.ofText_eq)
      (fun _ _ => Sample.exists_objectText)
  · intro cs s h
    exact Sample.ofText_of_snapshot h
  · intro s hsamples hreal text htext
    exact Sample.ofText_of_snapshot (Snapshot.ofText_record hsamples hreal htext)

/-- A talker that has the given members in front of its own. -/
def talkerValue (more : List (String × Value)) : Value :=
  .object (more ++ [("name", .text "e"), ("bytes_in", .number (.natural 1)),
    ("bytes_out", .number (.natural 2))])

def talkersValue (more : List (String × Value)) : Value :=
  .object [("by_bytes_in", .array [talkerValue more]), ("by_bytes_out", .array [])]

def talkerMembers (more : List (String × Value)) : List (String × Value) :=
  [("timestamp", .number (.natural 5)), ("samples", .number (.natural 2)),
    ("network_talkers", talkersValue more)]

theorem membersReadable_talkerMembers {more : List (String × Value)}
    (h : MembersReadable 123 more) : MembersReadable (depthLimit - 1) (talkerMembers more) := by
  have htalker : (talkerValue more).Readable 124 := by
    rw [talkerValue, Value.Readable, membersReadable_iff]
    refine List.forall_mem_append.mpr ⟨membersReadable_iff.mp h, ?_⟩
    have hsize : 1 < UInt64.size ∧ 2 < UInt64.size := by decide
    simp [Value.Readable, Number.Readable, hsize]
  have hsize : 5 < UInt64.size ∧ 2 < UInt64.size := by decide
  simp [talkerMembers, talkersValue, MembersReadable, ItemsReadable, Value.Readable,
    Number.Readable, hsize, htalker]

/-- A record, the same in another order with a member that is not known, and one in which a member
is repeated. -/
theorem records_read_by_key_talkers :
    Snapshot.ofText (Value.object (talkerMembers [("speed", .null)]).reverse).print =
      Snapshot.ofText (Value.object (talkerMembers [])).print ∧
    Snapshot.ofText (Value.object (talkerMembers [("name", .null)])).print = .error .content ∧
    ∃ text, escapedSnapshot.record = .ok text ∧
      Sample.ofText text = .ok ⟨⟨0⟩, escapedSnapshot.metrics.map reread⟩ := by
  obtain ⟨hsnapshot, -, -, hrecord⟩ := records_read_by_key
  have htalkers : ("network_talkers", topTalkersShape) ∈
      (["timestamp", "samples"].map fun key => (key, Shape.leaf)) ++ groupFields := by
    simp [groupFields]
  have hlist : ("by_bytes_in", Shape.list talkerShape) ∈
      [("by_bytes_in", Shape.list talkerShape), ("by_bytes_out", .list talkerShape)] := by
    simp
  have hnull : ∀ key, MembersReadable 123 [(key, .null)] := by
    simp [MembersReadable, Value.Readable]
  refine ⟨?_, ?_, ?_⟩
  · have hplain : ObjectText (Value.object (talkerMembers [])).print (talkerMembers []) :=
      objectText_print (membersReadable_talkerMembers trivial)
    have hmoved : ObjectText (Value.object (talkerMembers [("speed", .null)]).reverse).print
        (talkerMembers [("speed", .null)]).reverse := by
      have hreadable := membersReadable_iff.mp (membersReadable_talkerMembers (hnull "speed"))
      exact objectText_print (membersReadable_iff.mpr fun m hm =>
        hreadable m (List.mem_reverse.mp hm))
    refine hsnapshot.rearranged _ _ _ _ hplain hmoved ?_
    have htalker : Edit talkerShape (talkerValue []) (talkerValue [("speed", .null)]) :=
      .insert [] _ .null (by decide)
    have hgroup : Edit topTalkersShape (talkersValue []) (talkersValue [("speed", .null)]) :=
      .member [] _ hlist (.item [] [] htalker)
    exact .tail (.single (.order (List.reverse_perm _).symm)) (.member [] _ htalkers hgroup)
  · have htwice : ObjectText (Value.object (talkerMembers [("name", .null)])).print
        (talkerMembers [("name", .null)]) :=
      objectText_print (membersReadable_talkerMembers (hnull "name"))
    refine hsnapshot.repeated _ _ htwice ?_
    have htalker : Repeats talkerShape (talkerValue [("name", .null)]) :=
      .twice (by decide : "name" ∈ _) (by decide)
    have hgroup : Repeats topTalkersShape (talkersValue [("name", .null)]) :=
      .member hlist List.mem_cons_self (.item List.mem_cons_self htalker)
    exact .member htalkers (by simp [talkerMembers]) hgroup
  · exact ⟨_, rfl, hrecord escapedSnapshot (by decide) (by decide +kernel) _ rfl⟩

end Vitals
