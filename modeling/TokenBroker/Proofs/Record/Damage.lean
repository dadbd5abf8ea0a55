import TokenBroker.Proofs.Record.Checksum
import TokenBroker.Proofs.Record.Readable
/-!
# Local damage

What a reader verifies is enough to notice damage that stays within a few bytes of a file: in the
blob the checksum tells (`Checksum.crc32_ne_of_burst`), and in the root every field that is looked
at is held against another one.

* `DamagedWithin` says that two byte strings differ, and where at most.
* `Guarded` lists the windows, `Readable.not_decode` says that damage to them makes any readable
  file unreadable, and `local_damage_is_noticed` says it of the file of a blob.

The time of storing is guarded by nothing, and neither is the distance to the blob.
-/

set_option autoImplicit false

namespace TokenBroker
namespace Record

/-! ## Byte strings that differ within a window -/

/-- A byte string of the same length in which something is changed, but nothing outside of the
`width` bytes from `start` on. -/
structure DamagedWithin (start width : Nat) (bytes damaged : Bytes) : Prop where
  length_eq : damaged.length = bytes.length
  outside : ∀ i, i < start ∨ start + width ≤ i → damaged[i]? = bytes[i]?
  ne : damaged ≠ bytes

/-- A part of a byte string is replaced by another one of the same length. -/
theorem damagedWithin_append (before after : Bytes) {old new : Bytes}
    (hlen : new.length = old.length) (hne : new ≠ old) :
    DamagedWithin before.length old.length (before ++ old ++ after) (before ++ new ++ after) := by
  refine ⟨by simp only [List.length_append, hlen], fun i hi => ?_, fun h => hne ?_⟩
  · rcases hi with hi | hi
    · rw [List.append_assoc, List.append_assoc, List.getElem?_append_left hi,
        List.getElem?_append_left hi]
    · have hold : (before ++ old).length ≤ i := by rwa [List.length_append]
      have hnew : (before ++ new).length ≤ i := by rwa [List.length_append, hlen]
      rw [List.getElem?_append_right hold, List.getElem?_append_right hnew, List.length_append,
        List.length_append, hlen]
  · exact List.append_cancel_left (List.append_cancel_right h)

namespace DamagedWithin

variable {start width : Nat} {bytes damaged : Bytes}

theorem slice_eq (h : DamagedWithin start width bytes damaged) {i n : Nat}
    (hapart : i + n ≤ start ∨ start + width ≤ i) :
    (damaged.drop i).take n = (bytes.drop i).take n := by
  apply List.ext_getElem?
  intro j
  rw [List.getElem?_take, List.getElem?_take]
  split
  · rw [List.getElem?_drop, List.getElem?_drop]
    exact h.outside _ (by omega)
  · rfl

theorem slice_ne (h : DamagedWithin start width bytes damaged) :
    (damaged.drop start).take width ≠ (bytes.drop start).take width := by
  intro hslice
  apply h.ne
  apply List.ext_getElem?
  intro i
  by_cases hi : i < start ∨ start + width ≤ i
  · exact h.outside i hi
  · have hget := congrArg (·[i - start]?) hslice
    rw [List.getElem?_take_of_lt (by omega), List.getElem?_take_of_lt (by omega),
      List.getElem?_drop, List.getElem?_drop, Nat.add_sub_cancel' (by omega)] at hget
    exact hget

theorem field_eq (h : DamagedWithin start width bytes damaged) {i n : Nat}
    (hapart : i + n ≤ start ∨ start + width ≤ i) : field damaged i n = field bytes i n :=
  congrArg LittleEndian.decode (h.slice_eq hapart)

theorem length_slice_eq (h : DamagedWithin start width bytes damaged) :
    ((damaged.drop start).take width).length = ((bytes.drop start).take width).length := by
  rw [List.length_take, List.length_take, List.length_drop, List.length_drop, h.length_eq]

/-- A field that is damaged holds another number. -/
theorem field_ne (h : DamagedWithin start width bytes damaged) :
    field damaged start width ≠ field bytes start width := by
  intro hfield
  apply h.slice_ne
  rw [← LittleEndian.encode_decode ((damaged.drop start).take width), h.length_slice_eq,
    ← LittleEndian.encode_decode ((bytes.drop start).take width), LittleEndian.length_encode]
  exact congrArg _ hfield

/-- The checksum of a stretch of bytes tells whether it was damaged. -/
theorem crc32_ne (h : DamagedWithin start width bytes damaged) (hshort : width ≤ 4) {i n : Nat}
    (hfrom : i ≤ start) (hto : start + width ≤ i + n) :
    Checksum.crc32 ((damaged.drop i).take n) ≠ Checksum.crc32 ((bytes.drop i).take n) := by
  have hcut : ∀ b : Bytes, (b.drop i).take n = (b.drop i).take (start - i)
      ++ (b.drop start).take width ++ (b.drop (start + width)).take (i + n - (start + width)) := by
    intro b
    have hwindow : b.drop start = (b.drop i).drop (start - i) := by
      rw [List.drop_drop, Nat.add_sub_cancel' hfrom]
    have hrest : b.drop (start + width) = (b.drop i).drop (start - i + width) := by
      rw [List.drop_drop, ← Nat.add_assoc, Nat.add_sub_cancel' hfrom]
    have htotal : start - i + width + (i + n - (start + width)) = n := by omega
    rw [hwindow, hrest, ← List.take_add, ← List.take_add, htotal]
  rw [hcut damaged, hcut bytes, h.slice_eq (.inl (by omega)), h.slice_eq (.inr (Nat.le_refl _))]
  exact Checksum.crc32_ne_of_burst _ h.length_slice_eq (by rw [List.length_take]; omega) h.slice_ne

end DamagedWithin

/-! ## Damage to a file -/

/-- The windows in which damage is noticed: any four consecutive bytes of the blob, and four fields
of the root. -/
inductive Guarded (rootAt place n : Nat) : (start width : Nat) → Prop
  | blob {start width : Nat} (short : width ≤ 4) (starts : place ≤ start)
    (ends : start + width ≤ place + n) : Guarded rootAt place n start width
  | version : Guarded rootAt place n rootAt 2
  | size : Guarded rootAt place n (rootAt + 4) 4
  | checksum : Guarded rootAt place n (rootAt + 8) 4
  | length : Guarded rootAt place n (rootAt + 28) 4

/-- **Damage within a guarded window of a readable file makes it unreadable.** -/
theorem Readable.not_decode {rootAt place start width : Nat} {bytes damaged : Bytes} {r : Record}
    (h : Readable rootAt place bytes r) (hwindow : Guarded rootAt place r.blob.length start width)
    (hdamaged : DamagedWithin start width bytes damaged) (r' : Record) :
    decode damaged ≠ .ok r' := by
  intro hdecode
  obtain ⟨rootAt', place', h'⟩ := readable_of_decode hdecode
  obtain rfl : rootAt' = rootAt := by
    have hlength := h'.length_eq
    rw [hdamaged.length_eq, h.length_eq] at hlength
    exact (Nat.add_right_cancel hlength).symm
  have hinside := h.inside
  -- no guarded window has the distance, so the blob is looked for where it was
  obtain rfl : place' = place := by
    have hdistance := h'.distance
    rw [hdamaged.field_eq (by cases hwindow <;> omega), ← h.distance] at hdistance
    exact Int.ofNat_inj.1 hdistance
  have hblob := h'.blob
  have hne := hdamaged.field_ne
  cases hwindow with
  | version => exact hne (h'.version.trans h.version.symm)
  | size =>
    have hlength := h'.length
    rw [hdamaged.field_eq (.inr (by omega)), h.length] at hlength
    exact hne (by rw [h'.size, h.size, hlength])
  | checksum =>
    have hlength := h'.length
    rw [hdamaged.field_eq (.inr (by omega)), h.length] at hlength
    rw [← hlength, hdamaged.slice_eq (.inl (by omega)), ← h.blob] at hblob
    exact hne (by rw [h'.checksum, h.checksum, hblob])
  | length =>
    have hsize := h'.size
    rw [hdamaged.field_eq (.inl (by omega)), h.size] at hsize
    exact hne (by rw [h'.length, h.length, hsize])
  | blob short starts ends =>
    have hlength := h'.length
    rw [hdamaged.field_eq (.inr (by omega)), h.length] at hlength
    have hsum := h'.checksum
    rw [hdamaged.field_eq (.inr (by omega)), h.checksum] at hsum
    have hdiffers := hdamaged.crc32_ne short starts ends
    rw [← h.blob, hlength, ← hblob] at hdiffers
    exact hdiffers (UInt32.toNat_inj.1 hsum).symm

/-- **Local damage to a record is always noticed**, by a reader of the file and by the registry that
has it for an entry. -/
theorem local_damage_is_noticed {blob file damaged : Bytes} {now : UInt64} {start width : Nat}
    (hfile : (ofBlob blob now).encode = .ok file)
    (hwindow : Guarded (paddedLength blob.length) 0 blob.length start width)
    (hdamaged : DamagedWithin start width file damaged) :
    ∃ defect, decode damaged = .error defect
      ∧ ∀ (registry : Registry) (t : Tree) (key : IdentityKey),
        t.readFile (registry.entryPlace key) = .ok damaged →
          registry.read t key = .error (.corrupt defect) := by
  obtain ⟨defect, hdefect⟩ :=
    exists_defect ((readable_ofBlob hfile).not_decode hwindow hdamaged)
  exact ⟨defect, hdefect, fun registry t key hentry => read_of_decode_error hentry hdefect⟩

/-- Four bytes in the middle of a token are zeroed. -/
theorem local_damage_is_noticed_midway :
    (ofBlob [0x41, 0x42, 0x43, 0x44, 0x31, 0x32, 0x33, 0x34] 0).encode
        = .ok (tokenFile [0x43, 0x44, 0x31, 0x32])
      ∧ Guarded (paddedLength 8) 0 8 2 4
      ∧ DamagedWithin 2 4 (tokenFile [0x43, 0x44, 0x31, 0x32]) (tokenFile [0, 0, 0, 0])
      ∧ ∃ defect, decode (tokenFile [0, 0, 0, 0]) = .error defect
        ∧ ∀ (registry : Registry) (t : Tree) (key : IdentityKey),
          t.readFile (registry.entryPlace key) = .ok (tokenFile [0, 0, 0, 0]) →
            registry.read t key = .error (.corrupt defect) :=
  have hwindow : Guarded (paddedLength 8) 0 8 2 4 := .blob (by decide) (by decide) (by decide)
  have hdamaged : DamagedWithin 2 4 (tokenFile [0x43, 0x44, 0x31, 0x32]) (tokenFile [0, 0, 0, 0]) :=
    damagedWithin_append [0x41, 0x42] _
      (show [0, 0, 0, 0].length = [0x43, 0x44, 0x31, 0x32].length from rfl) (by decide)
  ⟨encode_token, hwindow, hdamaged, local_damage_is_noticed encode_token hwindow hdamaged⟩

end Record
end TokenBroker
