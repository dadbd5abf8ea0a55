import Mathlib.Algebra.Group.Nat.Defs
import TokenBroker.Record.Archive
/-!
# Writing a record and reading it back

An archive gives back the record that it was made from, whatever the record says of itself; a
record that describes its blob truly is also verified.

* `ofArchive?_encode` and `decode_encode_ofBlob` are these two statements.
* `timeless` blots out the time of storing in the bytes of an archive.  It is how two files are
  compared that may have been stored at different times: `ofArchive?_timeless` says that nothing
  else of the record is lost, `timeless_encode` that nothing of the time is left.
-/

set_option autoImplicit false

namespace TokenBroker
namespace Record

/-! ## Fields of a byte string -/

theorem field_append_of_le {a b : Bytes} {start width : Nat} (h : a.length ≤ start) :
    field (a ++ b) start width = field b (start - a.length) width := by
  rw [field, field, List.drop_append, List.drop_eq_nil_of_le h, List.nil_append]

theorem field_append_zero {a b : Bytes} {width : Nat} (h : a.length = width) :
    field (a ++ b) 0 width = LittleEndian.decode a := by
  rw [field, List.drop_zero, List.take_left' h]

theorem field_zero {a : Bytes} {width : Nat} (h : a.length = width) :
    field a 0 width = LittleEndian.decode a := by
  rw [field, List.drop_zero, List.take_of_length_le (Nat.le_of_eq h)]

theorem le_paddedLength (n : Nat) : n ≤ paddedLength n := by
  rw [paddedLength]
  omega

theorem paddedLength_mod (n : Nat) : paddedLength n % 8 = 0 := by
  rw [paddedLength]
  omega

/-- A blob with the zero bytes behind it, as it stands in a file. -/
def padded (blob : Bytes) : Bytes :=
  blob ++ List.replicate (paddedLength blob.length - blob.length) 0

@[simp] theorem length_padded (blob : Bytes) :
    (padded blob).length = paddedLength blob.length := by
  have hle := le_paddedLength blob.length
  rw [padded, List.length_append, List.length_replicate]
  omega

@[simp] theorem length_encodeRoot (r : Record) : (encodeRoot r).length = rootSize := by
  simp [encodeRoot, rootSize]

/-! ## The fields of a root -/

theorem decode_encode_of_lt {width n : Nat} (h : n < LittleEndian.capacity width) :
    LittleEndian.decode (LittleEndian.encode width n) = n := by
  rw [LittleEndian.decode_encode, Nat.mod_eq_of_lt h]

/-- What the fields of a root hold. -/
theorem fields_encodeRoot (r : Record)
    (h : paddedLength r.blob.length + distanceOffset ≤ maxDistance) :
    field (encodeRoot r) 0 2 = r.version.toNat ∧ field (encodeRoot r) 4 4 = r.size.toNat
      ∧ field (encodeRoot r) 8 4 = r.checksum.toNat ∧ field (encodeRoot r) 16 8 = r.storedAt.toNat
      ∧ field (encodeRoot r) 24 4 = UInt32.size - (paddedLength r.blob.length + distanceOffset)
      ∧ field (encodeRoot r) 28 4 = r.blob.length := by
  have hlen := le_paddedLength r.blob.length
  simp only [distanceOffset, maxDistance] at h ⊢
  simp (disch := simp) only [encodeRoot, List.append_assoc, field_append_of_le, field_append_zero,
    field_zero, LittleEndian.length_encode, List.length_cons, List.length_nil, distanceOffset,
    Nat.reduceAdd, Nat.reduceSub]
  refine ⟨decode_encode_of_lt r.version.toNat_lt, decode_encode_of_lt r.size.toNat_lt,
    decode_encode_of_lt r.checksum.toNat_lt, decode_encode_of_lt r.storedAt.toNat_lt,
    decode_encode_of_lt ?_, decode_encode_of_lt ?_⟩
  · rw [LittleEndian.capacity_four, UInt32.size]
    omega
  · rw [LittleEndian.capacity_four, UInt32.size]
    omega

/-! ## The round trip -/

theorem encode_eq_ok_iff {r : Record} {bytes : Bytes} :
    encode r = .ok bytes ↔ paddedLength r.blob.length + distanceOffset ≤ maxDistance
      ∧ bytes = padded r.blob ++ encodeRoot r := by
  rw [encode, padded]
  split
  · rename_i h
    simp [h, eq_comm]
  · rename_i h
    simp [h]

theorem signed32_distance {back : Nat} (hpos : 0 < back) (h : back ≤ maxDistance) :
    signed32 (UInt32.size - back) = -(back : Int) := by
  rw [maxDistance] at h
  rw [signed32, UInt32.size, if_neg (by omega)]
  omega

/-- **An archive holds the record it was made from.** -/
theorem ofArchive?_encode {r : Record} {bytes : Bytes} (h : encode r = .ok bytes) :
    ofArchive? bytes = some r := by
  obtain ⟨hfit, rfl⟩ := encode_eq_ok_iff.mp h
  have hle := le_paddedLength r.blob.length
  have hmod := paddedLength_mod r.blob.length
  obtain ⟨hversion, hsize, hsum, htime, hback, hlength⟩ := fields_encodeRoot r hfit
  have hsigned : signed32 (UInt32.size - (paddedLength r.blob.length + distanceOffset))
      = -((paddedLength r.blob.length + distanceOffset : Nat) : Int) :=
    signed32_distance (by rw [distanceOffset]; omega) hfit
  rw [ofArchive?, List.length_append, length_padded, length_encodeRoot,
    if_neg (by rw [rootSize]; omega)]
  simp only [Nat.add_sub_cancel]
  rw [List.drop_left' (length_padded r.blob), hback, hlength, hsigned, hversion, hsize, hsum, htime,
    Int.add_right_neg]
  rw [if_neg (by omega), Int.toNat_zero, List.drop_zero, padded, List.append_assoc,
    List.take_left' rfl, UInt16.ofNat_toNat, UInt32.ofNat_toNat, UInt32.ofNat_toNat,
    UInt64.ofNat_toNat]

theorem verify_ofBlob {blob : Bytes} (h : blob.length < UInt32.size) (now : UInt64) :
    (ofBlob blob now).verify = .ok () := by
  have hsize : (UInt32.ofNat blob.length).toNat = blob.length := UInt32.toNat_ofNat_of_lt' h
  simp [verify, ofBlob, hsize]

/-- Blobs that are short enough to have a file form. -/
def Representable (blob : Bytes) : Prop :=
  paddedLength blob.length + distanceOffset ≤ maxDistance

instance (blob : Bytes) : Decidable (Representable blob) :=
  inferInstanceAs (Decidable (_ ≤ _))

theorem Representable.length_lt {blob : Bytes} (h : Representable blob) :
    blob.length < UInt32.size := by
  have hle := le_paddedLength blob.length
  rw [Representable, distanceOffset, maxDistance] at h
  rw [UInt32.size]
  omega

/-- What the writer complains of. -/
def unrepresentable : String := "offset does not fit into 32 bits"

theorem encode_ofBlob_of_not {blob : Bytes} (h : ¬ Representable blob) (now : UInt64) :
    encode (ofBlob blob now) = .error unrepresentable := if_neg h

theorem length_of_encode {r : Record} {bytes : Bytes} (h : encode r = .ok bytes) :
    bytes.length = paddedLength r.blob.length + rootSize := by
  obtain ⟨-, rfl⟩ := encode_eq_ok_iff.mp h
  rw [List.length_append, length_padded, length_encodeRoot]

/-- The file of a record is read as the record itself, or refused for what is wrong with it. -/
theorem decode_of_encode {r : Record} {bytes : Bytes} (h : encode r = .ok bytes) :
    decode bytes = r.verify.map fun () => r := by
  rw [decode, ofArchive?_encode h]
  cases hverify : r.verify with
  | error defect => simp only [hverify, Except.map]
  | ok _ => simp only [hverify, Except.map]

/-- **The record of a representable blob can be written, and reads back as a sound record.** -/
theorem decode_encode_ofBlob {blob : Bytes} (h : Representable blob) (now : UInt64) :
    ∃ bytes, encode (ofBlob blob now) = .ok bytes ∧ decode bytes = .ok (ofBlob blob now) := by
  have hencode := encode_eq_ok_iff (r := ofBlob blob now).mpr ⟨h, rfl⟩
  refine ⟨_, hencode, ?_⟩
  rw [decode_of_encode hencode, verify_ofBlob h.length_lt now]
  rfl

/-- **What is written is read back.**  A record of any content whose blob can be pointed at has a
file of a known length, from which a reader gets the record, or the very defect that it has; the
record made of its blob has none. -/
theorem written_is_read_back {r : Record} (h : paddedLength r.blob.length + 24 ≤ 2 ^ 31) :
    (∃ bytes, r.encode = .ok bytes ∧ bytes.length = paddedLength r.blob.length + 32
        ∧ decode bytes = r.verify.map fun () => r)
      ∧ ∀ now, ∃ bytes read, (ofBlob r.blob now).encode = .ok bytes ∧ decode bytes = .ok read
          ∧ read.blob = r.blob := by
  refine ⟨?_, fun now => ?_⟩
  · have hencode := encode_eq_ok_iff.mpr ⟨h, rfl⟩
    exact ⟨_, hencode, length_of_encode hencode, decode_of_encode hencode⟩
  · obtain ⟨bytes, hencode, hdecode⟩ := decode_encode_ofBlob (show Representable r.blob from h) now
    exact ⟨bytes, _, hencode, hdecode, rfl⟩

/-- A record that declares three bytes and has nine is written, and refused for that. -/
theorem written_is_read_back_misdeclared :
    paddedLength 9 + 24 ≤ 2 ^ 31
      ∧ (∃ bytes, (⟨1, 3, 0, 1700000000000, [1, 2, 3, 4, 5, 6, 7, 8, 9]⟩ : Record).encode
            = .ok bytes ∧ bytes.length = 48 ∧ decode bytes = .error (.size 3 9))
      ∧ ∀ now, ∃ bytes read, (ofBlob [1, 2, 3, 4, 5, 6, 7, 8, 9] now).encode = .ok bytes
          ∧ decode bytes = .ok read ∧ read.blob = [1, 2, 3, 4, 5, 6, 7, 8, 9] :=
  ⟨by decide, written_is_read_back (r := ⟨1, 3, 0, 1700000000000, [1, 2, 3, 4, 5, 6, 7, 8, 9]⟩)
    (by decide)⟩

/-! ## The time of storing -/

/-- A record with the time of storing blotted out. -/
def untimed (r : Record) : Record := { r with storedAt := 0 }

/-- A byte string with its bytes 16 to 9 from the end zero: where an archive has the time of
storing. -/
def blotted (bytes : Bytes) : Bytes :=
  bytes.take (bytes.length - 16) ++ List.replicate 8 0 ++ bytes.drop (bytes.length - 8)

/-- The bytes of a file with the time of storing blotted out, if it is an archive. -/
def timeless (bytes : Bytes) : Bytes :=
  if (ofArchive? bytes).isSome then blotted bytes else bytes

theorem length_blotted {bytes : Bytes} (h : 16 ≤ bytes.length) :
    (blotted bytes).length = bytes.length := by
  simp only [blotted, List.length_append, List.length_take, List.length_replicate,
    List.length_drop]
  omega

/-- Whatever of a byte string ends before the time of storing stays. -/
theorem take_drop_blotted_before {bytes : Bytes} {start width : Nat}
    (h : start + width + 16 ≤ bytes.length) :
    ((blotted bytes).drop start).take width = (bytes.drop start).take width := by
  have hlen : (bytes.take (bytes.length - 16)).length = bytes.length - 16 := by
    rw [List.length_take]
    omega
  rw [blotted, List.append_assoc, List.drop_append_of_le_length (by omega),
    List.take_append_of_le_length (by rw [List.length_drop]; omega), List.drop_take, List.take_take,
    Nat.min_eq_left (by omega)]

/-- Whatever of a byte string starts behind the time of storing stays. -/
theorem drop_blotted_behind {bytes : Bytes} {start : Nat} (hlong : 16 ≤ bytes.length)
    (h : bytes.length ≤ start + 8) : (blotted bytes).drop start = bytes.drop start := by
  have hlen : (bytes.take (bytes.length - 16) ++ List.replicate 8 (0 : UInt8)).length
      = bytes.length - 8 := by
    rw [List.length_append, List.length_take, List.length_replicate]
    omega
  rw [blotted, List.drop_append, List.drop_eq_nil_of_le (by omega), List.nil_append, hlen,
    List.drop_drop]
  congr 1
  omega

theorem field_drop (bytes : Bytes) (rootAt start width : Nat) :
    field (bytes.drop rootAt) start width = field bytes (rootAt + start) width := by
  rw [field, field, List.drop_drop]

theorem field_blotted_before {bytes : Bytes} {start width : Nat}
    (h : start + width + 16 ≤ bytes.length) :
    field (blotted bytes) start width = field bytes start width := by
  rw [field, field, take_drop_blotted_before h]

theorem field_blotted_behind {bytes : Bytes} {start : Nat} (hlong : 16 ≤ bytes.length)
    (h : bytes.length ≤ start + 8) (width : Nat) :
    field (blotted bytes) start width = field bytes start width := by
  rw [field, field, drop_blotted_behind hlong h]

theorem field_blotted_time {bytes : Bytes} {start : Nat} (hlong : 16 ≤ bytes.length)
    (h : start + 16 = bytes.length) : field (blotted bytes) start 8 = 0 := by
  have hlen : (bytes.take (bytes.length - 16)).length = start := by
    rw [List.length_take]
    omega
  rw [field, blotted, List.append_assoc, List.drop_left' hlen,
    List.take_left' List.length_replicate]
  rfl

/-- **Blotting out the time of storing takes the time from the record and nothing else.** -/
theorem ofArchive?_blotted (bytes : Bytes) :
    ofArchive? (blotted bytes) = (ofArchive? bytes).map untimed := by
  by_cases hshape : bytes.length < rootSize ∨ bytes.length % 8 ≠ 0
  · have hblot : (blotted bytes).length < rootSize ∨ (blotted bytes).length % 8 ≠ 0 := by
      rcases Nat.lt_or_ge bytes.length 16 with hshort | hlong
      · left
        simp only [blotted, List.length_append, List.length_take, List.length_replicate,
          List.length_drop, rootSize]
        omega
      · rwa [length_blotted hlong]
    rw [ofArchive?, if_pos hblot, ofArchive?, if_pos hshape]
    rfl
  · have hlong : 32 ≤ bytes.length := by
      rw [rootSize] at hshape
      omega
    obtain ⟨rootAt, hroot⟩ : ∃ rootAt, bytes.length = rootAt + 32 :=
      ⟨_, (Nat.sub_add_cancel hlong).symm⟩
    have hbefore : ∀ start width, start + width ≤ 16 →
        field (blotted bytes) (rootAt + start) width = field bytes (rootAt + start) width :=
      fun start width h => field_blotted_before (by omega)
    have hbehind : ∀ start width, 24 ≤ start →
        field (blotted bytes) (rootAt + start) width = field bytes (rootAt + start) width :=
      fun start width h => field_blotted_behind (by omega) (by omega) width
    have htime : field (blotted bytes) (rootAt + 16) 8 = 0 :=
      field_blotted_time (by omega) (by omega)
    rw [ofArchive?, ofArchive?, length_blotted (by omega), if_neg hshape, if_neg hshape]
    simp only [rootSize, hroot, Nat.add_sub_cancel, field_drop, distanceOffset]
    rw [hbefore 0 2 (by decide), hbefore 4 4 (by decide), hbefore 8 4 (by decide), htime,
      hbehind 24 4 (by decide), hbehind 28 4 (by decide)]
    split
    · rfl
    · rename_i hstart
      rw [take_drop_blotted_before (by omega)]
      rfl

theorem ofArchive?_timeless (bytes : Bytes) :
    ofArchive? (timeless bytes) = (ofArchive? bytes).map untimed := by
  rw [timeless]
  split
  · exact ofArchive?_blotted bytes
  · rename_i h
    rw [Option.not_isSome_iff_eq_none.mp h]
    rfl

theorem verify_untimed (r : Record) : (untimed r).verify = r.verify := rfl

/-- Reading a file with the time of storing blotted out gives what reading it gives, without the
time. -/
theorem decode_timeless (bytes : Bytes) : decode (timeless bytes) = (decode bytes).map untimed := by
  rw [decode, ofArchive?_timeless, decode]
  cases ofArchive? bytes with
  | none => rfl
  | some r =>
    simp only [Option.map_some, verify_untimed]
    cases r.verify with
    | error defect => rfl
    | ok _ => rfl

/-- The blob of a file has nothing to do with the time of storing. -/
theorem decode_timeless_blob (bytes : Bytes) :
    (decode (timeless bytes)).map (·.blob) = (decode bytes).map (·.blob) := by
  rw [decode_timeless]
  cases decode bytes with
  | error defect => rfl
  | ok r => rfl

theorem blotted_append {front time back : Bytes} (htime : time.length = 8)
    (hback : back.length = 8) :
    blotted (front ++ time ++ back) = front ++ List.replicate 8 0 ++ back := by
  have hlen : (front ++ time ++ back).length = front.length + 16 := by
    rw [List.length_append, List.length_append, htime, hback]
  rw [blotted, hlen, Nat.add_sub_cancel, show front.length + 16 - 8 = (front ++ time).length by
    rw [List.length_append, htime]; omega]
  rw [List.drop_left, List.append_assoc front time back, List.take_left]

/-- The files of one blob differ at most in the time of storing. -/
theorem timeless_encode {blob a b : Bytes} {now later : UInt64}
    (ha : encode (ofBlob blob now) = .ok a) (hb : encode (ofBlob blob later) = .ok b) :
    timeless a = timeless b := by
  rw [timeless, timeless, ofArchive?_encode ha, ofArchive?_encode hb]
  obtain ⟨-, rfl⟩ := encode_eq_ok_iff.mp ha
  obtain ⟨-, rfl⟩ := encode_eq_ok_iff.mp hb
  have hback : ∀ distance length : Nat,
      (LittleEndian.encode 4 distance ++ LittleEndian.encode 4 length).length = 8 := by
    intro distance length
    rw [List.length_append, LittleEndian.length_encode, LittleEndian.length_encode]
  simp only [Option.isSome_some, if_true, encodeRoot, ← List.append_assoc]
  simp only [List.append_assoc _ (LittleEndian.encode 4 _) (LittleEndian.encode 4 blob.length),
    ofBlob, blotted_append (LittleEndian.length_encode 8 _) (hback _ _)]

end Record
end TokenBroker
