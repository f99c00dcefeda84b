import Mathlib.Data.List.Forall2
import Vitals.Proofs.Log.Collision
import Vitals.Record.Writing
import Vitals.Streaming.Service

/-!
# A record is one line

The log and the stream to peers put one record on a line, and readers take the lines apart again.
Names of interfaces, mount points and file systems come from the host and may hold any character, so
everything rests on the writer: whatever the values are, no control character is written. This file
fixes

* `IsPlain`, the texts without control characters, and `bytesOf`, the bytes of a text;
* `Snapshot.recordBytes`, the record as it is stored and sent.

Main statements: the text of every JSON value is plain (`isPlain_print`); the bytes of a plain text
are none below space (`le_of_mem_bytesOf`); hence the lines of records are the records
(`records_are_lines`).
-/

namespace Vitals

/-! ## 1. Texts without control characters -/

/-- A text without control characters. -/
def IsPlain (cs : List Char) : Prop :=
  ∀ c ∈ cs, 32 ≤ c.toNat

@[simp] theorem isPlain_nil : IsPlain [] :=
  fun _ h => absurd h List.not_mem_nil

@[simp] theorem isPlain_cons {c : Char} {cs : List Char} :
    IsPlain (c :: cs) ↔ 32 ≤ c.toNat ∧ IsPlain cs :=
  List.forall_mem_cons

@[simp] theorem isPlain_append {cs ds : List Char} :
    IsPlain (cs ++ ds) ↔ IsPlain cs ∧ IsPlain ds :=
  List.forall_mem_append

theorem IsPlain.take {cs : List Char} (h : IsPlain cs) (n : Nat) : IsPlain (cs.take n) :=
  fun c hc => h c (List.mem_of_mem_take hc)

theorem IsPlain.drop {cs : List Char} (h : IsPlain cs) (n : Nat) : IsPlain (cs.drop n) :=
  fun c hc => h c (List.mem_of_mem_drop hc)

theorem isPlain_digits (n : Nat) : IsPlain (Numeral.digits n) := by
  intro c hc
  have hd := Numeral.isDigit_of_mem_digits n c hc
  simp only [Numeral.isDigit, decide_eq_true_eq] at hd
  omega

theorem isPlain_zeros (n : Nat) : IsPlain (List.replicate n '0') := by
  intro c hc
  rw [List.eq_of_mem_replicate hc]
  decide

namespace Decimal

theorem isPlain_writeExponent (e : Int) : IsPlain (writeExponent e) := by
  rw [writeExponent]
  split <;> simp [isPlain_digits]

theorem isPlain_writeFraction {ds : List Char} (h : IsPlain ds) : IsPlain (writeFraction ds) := by
  rw [writeFraction]
  split <;> simp [h]

theorem isPlain_writePositional {ds : List Char} (h : IsPlain ds) (e : Int) :
    IsPlain (writePositional ds e) := by
  rw [writePositional]
  split
  · have hfraction : IsPlain (List.replicate ((-e).toNat - 1) '0' ++ ds) :=
      isPlain_append.mpr ⟨isPlain_zeros _, h⟩
    simp [isPlain_writeFraction hfraction]
  · have hpadded : IsPlain (ds ++ List.replicate (e.toNat + 1 - ds.length) '0') :=
      isPlain_append.mpr ⟨h, isPlain_zeros _⟩
    exact isPlain_append.mpr ⟨hpadded.take _, isPlain_writeFraction (hpadded.drop _)⟩

theorem isPlain_writeScientific {ds : List Char} (h : IsPlain ds) (e : Int) :
    IsPlain (writeScientific ds e) := by
  unfold writeScientific
  split <;> simp_all [isPlain_writeExponent]

theorem Layout.isPlain_write (layout : Layout) (s : Scientific) : IsPlain (layout.write s) := by
  rw [Layout.write]
  split
  · exact isPlain_writePositional (isPlain_digits _) _
  · exact isPlain_writeScientific (isPlain_digits _) _

end Decimal

namespace Json

/-- Also a value that is infinite or not a number has a plain text. -/
theorem isPlain_printReal (x : Float) : IsPlain (printReal x) := by
  rw [printReal, Decimal.Layout.writeFloat?]
  split
  · rename_i negative m e _
    cases negative <;> simp [Decimal.Layout.isPlain_write]
  · simp

theorem isPlain_printNumber (n : Number) : IsPlain n.print := by
  cases n with
  | natural n => exact isPlain_digits n
  | negative n => exact isPlain_cons.mpr ⟨by decide, isPlain_digits n⟩
  | real x => exact isPlain_printReal x

theorem isPlain_quote (s : String) : IsPlain (quote s) := by
  have hs : IsPlain (escapeAll s.toList) := mem_escapeAll_not_control s.toList
  simp [quote, hs]

theorem isPlain_comma (first : Bool) : IsPlain (if first then [] else [',']) := by
  cases first <;> simp

mutual

/-- **No control character is written**, whatever the value. -/
theorem isPlain_print : ∀ v : Value, IsPlain v.print
  | .null => by simp [Value.print]
  | .bool true => by simp [Value.print]
  | .bool false => by simp [Value.print]
  | .number n => isPlain_printNumber n
  | .text s => isPlain_quote s
  | .array items => by simp [Value.print, isPlain_printItems true items]
  | .object members => by simp [Value.print, isPlain_printMembers true members]

theorem isPlain_printItems (first : Bool) : ∀ vs : List Value, IsPlain (printItems first vs)
  | [] => isPlain_nil
  | v :: vs => by
    simp [printItems, isPlain_comma, isPlain_print v, isPlain_printItems false vs]

theorem isPlain_printMembers (first : Bool) :
    ∀ ms : List (String × Value), IsPlain (printMembers first ms)
  | [] => isPlain_nil
  | (key, v) :: ms => by
    simp [printMembers, isPlain_comma, isPlain_quote, isPlain_print v,
      isPlain_printMembers false ms]

end

end Json

theorem Snapshot.isPlain_record {s : Snapshot Float} {record : List Char}
    (h : s.record = .ok record) : IsPlain record := by
  rw [Snapshot.record] at h
  split at h
  · cases h
    exact Json.isPlain_print _
  · cases h

/-! ## 2. Bytes -/

/-- The bytes of a text. -/
def bytesOf (cs : List Char) : List UInt8 :=
  (String.ofList cs).toUTF8.toList

theorem toList_loop (bs : ByteArray) (i : Nat) (r : List UInt8) :
    ByteArray.toList.loop bs i r = r.reverse ++ bs.data.toList.drop i := by
  fun_induction ByteArray.toList.loop bs i r with
  | case1 i r h ih =>
    have hi : i < bs.data.toList.length := by simpa using h
    rw [ih, List.drop_eq_getElem_cons hi]
    simp [ByteArray.get!, getElem!_pos, h]
  | case2 i r h =>
    have hi : bs.data.toList.length ≤ i := by simpa using h
    rw [List.drop_eq_nil_of_le hi, List.append_nil]

theorem bytesOf_eq_flatMap (cs : List Char) : bytesOf cs = cs.flatMap String.utf8EncodeChar := by
  rw [bytesOf, String.toUTF8_eq_toByteArray, String.toByteArray_ofList, ByteArray.toList,
    toList_loop, List.utf8Encode, List.toList_data_toByteArray]
  rfl

theorem bytesOf_append (cs ds : List Char) : bytesOf (cs ++ ds) = bytesOf cs ++ bytesOf ds := by
  simp [bytesOf_eq_flatMap]

/-- A character takes one byte, its code, or bytes from 128 on. -/
theorem le_of_mem_utf8EncodeChar {c : Char} (h : 32 ≤ c.toNat) {b : UInt8}
    (hb : b ∈ String.utf8EncodeChar c) : 32 ≤ b := by
  have hc : 32 ≤ c.val.toNat := h
  rw [UInt8.le_iff_toNat_le]
  show 32 ≤ b.toNat
  unfold String.utf8EncodeChar at hb
  simp only at hb
  split at hb
  · rw [List.mem_singleton] at hb
    rw [hb, UInt8.toNat_ofNat']
    omega
  · split at hb
    · simp only [List.mem_cons, List.not_mem_nil, or_false] at hb
      rcases hb with rfl | rfl <;> rw [UInt8.toNat_ofNat'] <;> omega
    · split at hb
      · simp only [List.mem_cons, List.not_mem_nil, or_false] at hb
        rcases hb with rfl | rfl | rfl <;> rw [UInt8.toNat_ofNat'] <;> omega
      · simp only [List.mem_cons, List.not_mem_nil, or_false] at hb
        rcases hb with rfl | rfl | rfl | rfl <;> rw [UInt8.toNat_ofNat'] <;> omega

/-- **The bytes of a plain text are no control characters either.** -/
theorem le_of_mem_bytesOf {cs : List Char} (h : IsPlain cs) {b : UInt8} (hb : b ∈ bytesOf cs) :
    32 ≤ b := by
  rw [bytesOf_eq_flatMap, List.mem_flatMap] at hb
  obtain ⟨c, hc, hb⟩ := hb
  exact le_of_mem_utf8EncodeChar (h c hc) hb

/-! ## 3. Lines -/

/-- The record of a snapshot as it is stored and sent. -/
def Snapshot.recordBytes (s : Snapshot Float) : Except Fault (List UInt8) :=
  s.record.map bytesOf

theorem Snapshot.le_of_mem_recordBytes {s : Snapshot Float} {record : List UInt8}
    (h : s.recordBytes = .ok record) {b : UInt8} (hb : b ∈ record) : 32 ≤ b := by
  rw [Snapshot.recordBytes] at h
  cases hr : s.record with
  | error fault =>
    rw [hr] at h
    cases h
  | ok text =>
    rw [hr] at h
    cases h
    exact le_of_mem_bytesOf (Snapshot.isPlain_record hr) hb

/-- What is sent to a peer is what is appended to the log. -/
theorem Streaming.line?_of_recordBytes {s : Snapshot Float} {record : List UInt8}
    (h : s.recordBytes = .ok record) : Streaming.line? s = some (Log.RotatingLog.line record) := by
  rw [Snapshot.recordBytes] at h
  rw [Streaming.line?]
  cases hr : s.record with
  | error fault =>
    rw [hr] at h
    cases h
  | ok text =>
    rw [hr] at h
    cases h
    have hend : bytesOf ['\n'] = [10] := by simp [bytesOf_eq_flatMap, String.utf8EncodeChar]
    have hline := bytesOf_append text ['\n']
    rw [hend] at hline
    exact congrArg some hline

theorem splitOn_line {record : List UInt8} (h : 10 ∉ record) (rest : List UInt8) :
    (Log.RotatingLog.line record ++ rest).splitOn 10 = record :: rest.splitOn 10 := by
  rw [Log.RotatingLog.line, List.append_assoc, List.singleton_append]
  exact List.splitOn_append_cons_self_of_not_mem h rest

/-- Nothing stands behind the newline of the last line. -/
theorem splitOn_flatMap_line {records : List (List UInt8)} (h : ∀ r ∈ records, 10 ∉ r) :
    (records.flatMap Log.RotatingLog.line).splitOn 10 = records ++ [[]] := by
  induction records with
  | nil => rfl
  | cons r records ih =>
    obtain ⟨hr, hrecords⟩ := List.forall_mem_cons.mp h
    rw [List.flatMap_cons, splitOn_line hr, ih hrecords]
    rfl

/-- **What a row of records is to a reader of lines.** -/
structure Framed (snapshots : List (Snapshot Float)) (records : List (List UInt8)) : Prop where
  /-- No byte of a record is a control character. -/
  plain : ∀ record ∈ records, ∀ b ∈ record, 32 ≤ b
  /-- Cut at the newlines, the lines of the log are the records, with nothing behind them, -/
  split : (records.flatMap Log.RotatingLog.line).splitOn 10 = records ++ [[]]
  read : Log.linesOf (records.flatMap Log.RotatingLog.line) = records
  /-- and so are the lines sent to a peer. -/
  sent : snapshots.filterMap Streaming.line? = records.map Log.RotatingLog.line

/-- **The lines of records are the records**, whatever names and numbers the snapshots hold. -/
theorem records_are_lines {snapshots : List (Snapshot Float)} {records : List (List UInt8)}
    (h : List.Forall₂ (fun s record => s.recordBytes = .ok record) snapshots records) :
    Framed snapshots records := by
  have hplain : ∀ record ∈ records, ∀ b ∈ record, 32 ≤ b := by
    induction h with
    | nil => exact fun _ h => absurd h List.not_mem_nil
    | cons hs _ ih =>
      exact List.forall_mem_cons.mpr ⟨fun b hb => Snapshot.le_of_mem_recordBytes hs hb, ih⟩
  have hsent : snapshots.filterMap Streaming.line? = records.map Log.RotatingLog.line := by
    induction h with
    | nil => rfl
    | cons hs _ ih =>
      rw [List.filterMap_cons, Streaming.line?_of_recordBytes hs,
        ih fun r hr => hplain r (List.mem_cons_of_mem _ hr), List.map_cons]
  have hline : ∀ record ∈ records, 10 ∉ record := fun record hrecord hb =>
    absurd (hplain record hrecord 10 hb) (by decide)
  exact ⟨hplain, splitOn_flatMap_line hline, Log.linesOf_flatMap_line hline, hsent⟩

/-- A snapshot whose names break lines and whose numbers are none. -/
def awkwardSnapshot : Snapshot Float where
  timestamp := ⟨7⟩
  samples := 1
  metrics := {
    loadAverage := some ⟨0.0 / 0.0, 1.0 / 0.0, -1.0 / 0.0⟩
    networkTalkers := some ⟨[⟨"eth0\n\x00\x1f", 1, 2⟩, ⟨"\"ö\\\r", 3, 4⟩], []⟩
    fileSystems := some [⟨"/mnt\n/disk\t", "\n\n", 5, 6⟩] }

theorem records_are_lines_awkward : ∃ records,
    List.Forall₂ (fun s record => s.recordBytes = .ok record)
      [awkwardSnapshot, { awkwardSnapshot with metrics := {} }] records ∧
    Framed [awkwardSnapshot, { awkwardSnapshot with metrics := {} }] records := by
  have h : List.Forall₂ (fun s record => s.recordBytes = .ok record)
      [awkwardSnapshot, { awkwardSnapshot with metrics := {} }]
      [bytesOf (Json.Value.object (("timestamp", .number (.natural 7))
        :: ("samples", .number (.natural 1)) :: awkwardSnapshot.metrics.members)).print,
        bytesOf (Json.Value.object [("timestamp", .number (.natural 7)),
          ("samples", .number (.natural 1))]).print] :=
    .cons rfl (.cons rfl .nil)
  exact ⟨_, h, records_are_lines h⟩

end Vitals
