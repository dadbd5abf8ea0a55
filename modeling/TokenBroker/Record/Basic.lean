import TokenBroker.Bytes.Hex
import TokenBroker.Record.Checksum
/-!
# Records

A token is stored as a record: the blob itself, with the layout version, the declared size, the
checksum and the time of storing.  `Record.verify` is what a reader checks before it hands out the
blob.
-/

set_option autoImplicit false

namespace TokenBroker

/-- A stored token and what guards it. -/
structure Record where
  /-- The version of the layout. -/
  version : UInt16
  /-- The declared number of bytes of the blob. -/
  size : UInt32
  /-- The CRC-32 of the blob. -/
  checksum : UInt32
  /-- Milliseconds from the start of 1970 to the storing. -/
  storedAt : UInt64
  /-- The token, never interpreted. -/
  blob : Bytes
  deriving DecidableEq

namespace Record

/-- The only layout version there is. -/
def currentVersion : UInt16 := 1

/-- What makes a file unusable as a record. -/
inductive Defect where
  /-- The bytes are no archive of a record. -/
  | archive (detail : String)
  | version (found : UInt16)
  | size (declared : UInt32) (actual : Nat)
  | checksum (expected actual : UInt32)
  deriving DecidableEq

/-- A defect in words. -/
def Defect.message : Defect → String
  | archive detail => detail
  | version found => "unsupported record version " ++ toString found.toNat
  | size declared actual =>
    "declared size " ++ toString declared.toNat ++ " but blob has " ++ toString actual ++ " bytes"
  | checksum expected actual =>
    "checksum mismatch: expected " ++ Hex.padded 8 expected.toNat ++ ", got "
      ++ Hex.padded 8 actual.toNat

/-- The record of a blob.  The declared size keeps the low 32 bits of the length. -/
def ofBlob (blob : Bytes) (storedAt : UInt64) : Record :=
  ⟨currentVersion, UInt32.ofNat blob.length, Checksum.crc32 blob, storedAt, blob⟩

/-- Check version, declared size and checksum, in this order. -/
def verify (r : Record) : Except Defect Unit :=
  if r.version ≠ currentVersion then .error (.version r.version)
  else if r.size.toNat ≠ r.blob.length then .error (.size r.size r.blob.length)
  else if Checksum.crc32 r.blob ≠ r.checksum then
    .error (.checksum r.checksum (Checksum.crc32 r.blob))
  else .ok ()

end Record
end TokenBroker
