import TokenBroker.Proofs.Record.RoundTrip
import TokenBroker.Registry.Basic
/-!
# What makes a byte string readable

A reader that hands out a record has found a root at the end of the byte string, and in it the
version, the length of the blob twice over, the checksum of the blob, and the way to the blob.

* `Readable` says all of this, field by field, and `readable_of_decode` that it is so.  Whatever
  contradicts one of the fields is therefore refused (`exists_defect`), by the registry too
  (`read_of_decode_error`).
* `readable_of_encode` says where root and blob are in the file of a sound record.
-/

set_option autoImplicit false

namespace TokenBroker
namespace Record

/-- The bytes of a readable file with its root at `rootAt` and its blob at `place`, and the record
that is read. -/
structure Readable (rootAt place : Nat) (bytes : Bytes) (r : Record) : Prop where
  length_eq : bytes.length = rootAt + rootSize
  aligned : rootAt % 8 = 0
  version : field bytes rootAt 2 = 1
  size : field bytes (rootAt + 4) 4 = r.blob.length
  checksum : field bytes (rootAt + 8) 4 = (Checksum.crc32 r.blob).toNat
  length : field bytes (rootAt + 28) 4 = r.blob.length
  distance : (place : Int) = (rootAt + 24 : Nat) + signed32 (field bytes (rootAt + 24) 4)
  inside : place + r.blob.length ≤ rootAt
  blob : r.blob = (bytes.drop place).take r.blob.length

/-! ## Reading -/

theorem field_lt {bytes : Bytes} {start width : Nat} (h : start + width ≤ bytes.length) :
    field bytes start width < LittleEndian.capacity width := by
  have hlt := LittleEndian.decode_lt ((bytes.drop start).take width)
  rwa [List.length_take, List.length_drop, Nat.min_eq_left (by omega)] at hlt

theorem sound_of_verify {r : Record} (h : r.verify = .ok ()) : r.version = currentVersion
    ∧ r.size.toNat = r.blob.length ∧ Checksum.crc32 r.blob = r.checksum := by
  rw [verify] at h
  split at h
  · cases h
  next hversion =>
  split at h
  · cases h
  next hsize =>
  split at h
  · cases h
  next hsum =>
  exact ⟨Decidable.not_not.1 hversion, Decidable.not_not.1 hsize, Decidable.not_not.1 hsum⟩

theorem sound_of_decode {bytes : Bytes} {r : Record} (h : decode bytes = .ok r) :
    ofArchive? bytes = some r ∧ r.verify = .ok () := by
  rw [decode] at h
  split at h
  · cases h
  next found hfound =>
  split at h
  · cases h
  next hverify =>
  obtain rfl := Except.ok.inj h
  exact ⟨hfound, hverify⟩

/-- **What a reader has found when it hands out a record.** -/
theorem readable_of_decode {bytes : Bytes} {r : Record} (h : decode bytes = .ok r) :
    ∃ rootAt place, Readable rootAt place bytes r := by
  obtain ⟨harchive, hverify⟩ := sound_of_decode h
  obtain ⟨hversion, hsize, hsum⟩ := sound_of_verify hverify
  rw [ofArchive?] at harchive
  split at harchive
  · cases harchive
  next hshape =>
  rw [rootSize] at hshape
  obtain ⟨rootAt, hroot⟩ : ∃ rootAt, bytes.length = rootAt + 32 :=
    ⟨_, (Nat.sub_add_cancel (by omega)).symm⟩
  simp only [rootSize, hroot, Nat.add_sub_cancel, field_drop, distanceOffset] at harchive
  split at harchive
  · cases harchive
  next hinside =>
  obtain ⟨place, hplace⟩ := Int.eq_ofNat_of_zero_le (Int.not_lt.1 fun h => hinside (.inl h))
  rw [hplace] at hinside harchive
  rw [Int.toNat_natCast] at harchive
  obtain rfl := Option.some.inj harchive
  have hbelow : ∀ {start width : Nat}, start + width ≤ 32 →
      field bytes (rootAt + start) width < LittleEndian.capacity width :=
    fun h => field_lt (by omega)
  have hblob : ((bytes.drop place).take (field bytes (rootAt + 28) 4)).length
      = field bytes (rootAt + 28) 4 := by
    rw [List.length_take, List.length_drop]
    omega
  dsimp only at hversion hsize hsum
  rw [hblob, UInt32.toNat_ofNat_of_lt' (hbelow (by decide))] at hsize
  refine ⟨rootAt, place, hroot, by omega, ?_, ?_, ?_, hblob.symm, hplace.symm, ?_, ?_⟩
  · rw [← UInt16.toNat_inj, UInt16.toNat_ofNat_of_lt' (hbelow (by decide))] at hversion
    exact hversion
  · rw [hblob, hsize]
  · rw [hsum, UInt32.toNat_ofNat_of_lt' (hbelow (by decide))]
  · rw [hblob]
    omega
  · rw [hblob]

theorem exists_defect {bytes : Bytes} (h : ∀ r, decode bytes ≠ .ok r) :
    ∃ defect, decode bytes = .error defect := by
  cases hdecode : decode bytes with
  | error defect => exact ⟨defect, rfl⟩
  | ok r => exact absurd hdecode (h r)

theorem read_of_decode_error {registry : Registry} {t : Tree} {key : IdentityKey} {bytes : Bytes}
    {defect : Defect} (hfile : t.readFile (registry.entryPlace key) = .ok bytes)
    (h : decode bytes = .error defect) : registry.read t key = .error (.corrupt defect) := by
  rw [Registry.read, Registry.load, hfile]
  simp only [h]

/-! ## The file of a record -/

theorem field_of_encode {r : Record} {file : Bytes} (h : encode r = .ok file) (start width : Nat) :
    field file (paddedLength r.blob.length + start) width = field (encodeRoot r) start width := by
  obtain ⟨-, rfl⟩ := encode_eq_ok_iff.mp h
  rw [field_append_of_le (by rw [length_padded]; omega), length_padded, Nat.add_sub_cancel_left]

/-- A sound record is readable from its file, which starts with the blob and has its root behind
the padding. -/
theorem readable_of_encode {r : Record} {file : Bytes} (h : r.encode = .ok file)
    (hsound : r.verify = .ok ()) : Readable (paddedLength r.blob.length) 0 file r := by
  obtain ⟨hfit, -⟩ := encode_eq_ok_iff.mp h
  obtain ⟨-, -, -, -, hback, -⟩ := fields_encodeRoot r hfit
  obtain ⟨rootAt, place, hread⟩ := readable_of_decode (r := r) (by
    rw [decode_of_encode h, hsound, Except.map])
  obtain rfl : rootAt = paddedLength r.blob.length :=
    Nat.add_right_cancel (hread.length_eq.symm.trans (length_of_encode h))
  obtain rfl : place = 0 := by
    have hdistance := hread.distance
    rw [field_of_encode h, hback, signed32_distance (by rw [distanceOffset]; omega) hfit,
      distanceOffset] at hdistance
    omega
  exact hread

theorem readable_ofBlob {blob file : Bytes} {now : UInt64}
    (h : (ofBlob blob now).encode = .ok file) :
    Readable (paddedLength blob.length) 0 file (ofBlob blob now) := by
  have hfit : Representable blob := (encode_eq_ok_iff.mp h).1
  exact readable_of_encode h (verify_ofBlob hfit.length_lt now)

/-- The file of a token of eight bytes stored at the start of 1970, with the four bytes in the
middle of the token replaced. -/
def tokenFile (middle : Bytes) : Bytes :=
  [0x41, 0x42] ++ middle ++ [0x33, 0x34, 1, 0, 0, 0, 8, 0, 0, 0, 0xBE, 0xC0, 0x99, 0xCD, 0, 0, 0, 0,
    0, 0, 0, 0, 0, 0, 0, 0, 0xE0, 0xFF, 0xFF, 0xFF, 8, 0, 0, 0]

theorem encode_token : (ofBlob [0x41, 0x42, 0x43, 0x44, 0x31, 0x32, 0x33, 0x34] 0).encode
    = .ok (tokenFile [0x43, 0x44, 0x31, 0x32]) :=
  encode_eq_ok_iff.mpr ⟨by decide, by decide +kernel⟩

end Record
end TokenBroker
