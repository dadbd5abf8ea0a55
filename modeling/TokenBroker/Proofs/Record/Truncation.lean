import TokenBroker.Proofs.Record.Readable
/-!
# Truncated files

The root of a file is at its end, so a file that was cut off is read with whatever then stands at
the end as its root: bytes of the blob, which its owner chose.

* `cut_is_unreadable` says which cut files are safe: all, but for those where a root begins within
  the blob (`RootBegins`), right where the last 32 bytes of the cut file start.
* Files of the other kind exist.  A blob that is itself the file of a record is one
  (`decode_of_encode`): cut off behind the blob, its file is that record, and
  `cut_reads_part_of_token` shows it.
-/

set_option autoImplicit false

namespace TokenBroker
namespace Record

/-- What a reader looks at first when it takes a root to be at some place of a blob: the version,
and the length of a blob that there is room for before the root. -/
structure RootBegins (blob : Bytes) (place : Nat) : Prop where
  aligned : place % 8 = 0
  inside : place + 8 ≤ paddedLength blob.length
  version : field (padded blob) place 2 = 1
  size : field (padded blob) (place + 4) 4 ≤ place

theorem field_of_begins {a b : Bytes} (h : a <+: b) {start width : Nat}
    (hinside : start + width ≤ a.length) : field a start width = field b start width := by
  obtain ⟨rest, rfl⟩ := h
  rw [field, field, List.drop_append_of_le_length (by omega),
    List.take_append_of_le_length (by rw [List.length_drop]; omega)]

theorem padded_prefix_of_encode {r : Record} {file : Bytes} (h : r.encode = .ok file) :
    padded r.blob <+: file := by
  obtain ⟨-, rfl⟩ := encode_eq_ok_iff.mp h
  exact List.prefix_append _ _

/-- A cut file that is readable has the beginning of a root in its blob. -/
theorem Readable.rootBegins {blob file cut : Bytes} {now : UInt64} {rootAt place : Nat} {r : Record}
    (hread : Readable rootAt place cut r) (hfile : (ofBlob blob now).encode = .ok file)
    (hcut : cut <+: file) (hproper : cut ≠ file) : RootBegins blob rootAt := by
  have hlength := hread.length_eq
  have haligned := hread.aligned
  have hmod := paddedLength_mod blob.length
  have hshorter : cut.length < paddedLength blob.length + rootSize := by
    have hfull : file.length = paddedLength blob.length + rootSize := length_of_encode hfile
    rw [← hfull]
    exact Nat.lt_of_le_of_ne hcut.length_le fun h => hproper (hcut.eq_of_length h)
  have hinside : rootAt + 8 ≤ paddedLength blob.length := by omega
  have hbegins : padded blob <+: file := padded_prefix_of_encode hfile
  have hfield : ∀ start width, start + width ≤ rootAt + 8 →
      field (padded blob) start width = field cut start width := by
    intro start width h
    rw [field_of_begins hbegins (by rw [length_padded]; omega),
      field_of_begins hcut (by rw [hlength, rootSize]; omega)]
  refine ⟨haligned, hinside, ?_, ?_⟩
  · rw [hfield _ _ (by omega)]
    exact hread.version
  · rw [hfield _ _ (by omega), hread.size]
    have := hread.inside
    omega

/-- **A truncated record is not readable**, unless its blob has a root at the very place. -/
theorem cut_is_unreadable {blob file cut : Bytes} {now : UInt64}
    (hfile : (ofBlob blob now).encode = .ok file) (hcut : cut <+: file) (hproper : cut ≠ file)
    (hroot : ∀ rootAt, cut.length = rootAt + rootSize → ¬ RootBegins blob rootAt) :
    ∃ defect, decode cut = .error defect
      ∧ ∀ (registry : Registry) (t : Tree) (key : IdentityKey),
        t.readFile (registry.entryPlace key) = .ok cut →
          registry.read t key = .error (.corrupt defect) := by
  obtain ⟨defect, hdefect⟩ := exists_defect fun r hdecode => by
    obtain ⟨rootAt, place, hread⟩ := readable_of_decode hdecode
    exact hroot rootAt hread.length_eq (hread.rootBegins hfile hcut hproper)
  exact ⟨defect, hdefect, fun registry t key hentry => read_of_decode_error hentry hdefect⟩

/-! ## A file within a file -/

/-- The file of a blob that is itself the file of a token. -/
def nestedFile : Bytes :=
  tokenFile [0x43, 0x44, 0x31, 0x32] ++ [1, 0, 0, 0, 0x28, 0, 0, 0, 0x24, 0x0B, 0x59, 0xAB,
    0, 0, 0, 0, 0, 0, 0, 0, 0, 0, 0, 0, 0xC0, 0xFF, 0xFF, 0xFF, 0x28, 0, 0, 0]

theorem encode_nested :
    (ofBlob (tokenFile [0x43, 0x44, 0x31, 0x32]) 0).encode = .ok nestedFile :=
  encode_eq_ok_iff.mpr ⟨by decide, by decide +kernel⟩

/-- The root within the blob begins at 8.  A cut that takes another place for the root is
harmless. -/
theorem cut_is_unreadable_beside_root :
    (ofBlob (tokenFile [0x43, 0x44, 0x31, 0x32]) 0).encode = .ok nestedFile
      ∧ nestedFile.take 48 <+: nestedFile ∧ nestedFile.take 48 ≠ nestedFile
      ∧ (∀ rootAt, (nestedFile.take 48).length = rootAt + rootSize →
          ¬ RootBegins (tokenFile [0x43, 0x44, 0x31, 0x32]) rootAt)
      ∧ ∃ defect, decode (nestedFile.take 48) = .error defect
        ∧ ∀ (registry : Registry) (t : Tree) (key : IdentityKey),
          t.readFile (registry.entryPlace key) = .ok (nestedFile.take 48) →
            registry.read t key = .error (.corrupt defect) := by
  have hcut : nestedFile.take 48 <+: nestedFile := List.take_prefix 48 nestedFile
  have hproper : nestedFile.take 48 ≠ nestedFile := by decide
  have hroot : ∀ rootAt, (nestedFile.take 48).length = rootAt + rootSize →
      ¬ RootBegins (tokenFile [0x43, 0x44, 0x31, 0x32]) rootAt := by
    intro rootAt hlength hbegins
    obtain rfl : rootAt = 16 := Nat.add_right_cancel hlength.symm
    exact absurd hbegins.version (by decide)
  exact ⟨encode_nested, hcut, hproper, hroot,
    cut_is_unreadable encode_nested hcut hproper hroot⟩

/-- The file of a blob of forty bytes, cut off behind the blob, reads as the first eight of them. -/
theorem cut_reads_part_of_token :
    (ofBlob (tokenFile [0x43, 0x44, 0x31, 0x32]) 0).encode = .ok nestedFile
      ∧ nestedFile.take 40 <+: nestedFile ∧ nestedFile.take 40 ≠ nestedFile
      ∧ decode (nestedFile.take 40)
        = .ok (ofBlob [0x41, 0x42, 0x43, 0x44, 0x31, 0x32, 0x33, 0x34] 0) := by
  refine ⟨encode_nested, List.take_prefix 40 nestedFile, by decide, ?_⟩
  have htake : nestedFile.take 40 = tokenFile [0x43, 0x44, 0x31, 0x32] := rfl
  rw [htake, decode_of_encode encode_token, verify_ofBlob (by decide), Except.map]

end Record
end TokenBroker
