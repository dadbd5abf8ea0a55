import TokenBroker.Record.Basic
/-!
# The file form of a record

An archive is the blob, zero bytes up to a multiple of eight, and a root of 32 bytes:

| offset in the root | field |
|---|---|
| 0 | version, 16 bits, then two zero bytes |
| 4 | declared size, 32 bits |
| 8 | checksum, 32 bits, then four zero bytes |
| 16 | time of storing, 64 bits |
| 24 | signed 32-bit distance from this field to the first byte of the blob |
| 28 | length of the blob, 32 bits |

A reader finds the root at the end of the file and the blob through the distance, which may point
anywhere before the root; it does not look at the padding.
-/

set_option autoImplicit false

namespace TokenBroker
namespace Record

/-- The number of bytes of a root. -/
def rootSize : Nat := 32

/-- Where in the root the distance to the blob stands, and from where it counts. -/
def distanceOffset : Nat := 24

/-- A length rounded up to a multiple of eight. -/
def paddedLength (n : Nat) : Nat := (n + 7) / 8 * 8

/-- How far a blob of `n` bytes may lie from the field that points back to it. -/
def maxDistance : Nat := 0x80000000

/-- The root of a record whose blob starts the file. -/
def encodeRoot (r : Record) : Bytes :=
  let back := paddedLength r.blob.length + distanceOffset
  LittleEndian.encode 2 r.version.toNat ++ [0, 0]
    ++ LittleEndian.encode 4 r.size.toNat
    ++ LittleEndian.encode 4 r.checksum.toNat ++ [0, 0, 0, 0]
    ++ LittleEndian.encode 8 r.storedAt.toNat
    ++ LittleEndian.encode 4 (UInt32.size - back)
    ++ LittleEndian.encode 4 r.blob.length

/-- The file form of a record, or a complaint if its blob is too long to be pointed at, which is
from about 2^31 bytes on.  The complaint is a result like any other here.  A serializer may as well
abort where the pointer is formed; nothing has been written then either, and whoever asked for the
store is told of a failure of the storage all the same. -/
def encode (r : Record) : Except String Bytes :=
  let n := r.blob.length
  if paddedLength n + distanceOffset ≤ maxDistance then
    .ok (r.blob ++ List.replicate (paddedLength n - n) 0 ++ encodeRoot r)
  else .error "offset does not fit into 32 bits"

/-- The defect of bytes that are no archive. -/
def notAnArchive : Defect := .archive "invalid archive"

/-- Some bytes of a byte string, as a number. -/
def field (bytes : Bytes) (start width : Nat) : Nat :=
  LittleEndian.decode ((bytes.drop start).take width)

/-- The number that 32 bits stand for in two's complement. -/
def signed32 (n : Nat) : Int := if n < 0x80000000 then n else (n : Int) - UInt32.size

/-- The record an archive holds, as it is. -/
def ofArchive? (bytes : Bytes) : Option Record :=
  if bytes.length < rootSize ∨ bytes.length % 8 ≠ 0 then none
  else
    let rootAt := bytes.length - rootSize
    let root := bytes.drop rootAt
    let start : Int := ((rootAt + distanceOffset : Nat) : Int) + signed32 (field root 24 4)
    let length := field root 28 4
    if start < 0 ∨ (rootAt : Int) < start + length then none
    else
      some {
        version := UInt16.ofNat (field root 0 2)
        size := UInt32.ofNat (field root 4 4)
        checksum := UInt32.ofNat (field root 8 4)
        storedAt := UInt64.ofNat (field root 16 8)
        blob := (bytes.drop start.toNat).take length }

/-- Read and verify a record. -/
def decode (bytes : Bytes) : Except Defect Record :=
  match ofArchive? bytes with
  | none => .error notAnArchive
  | some r =>
    match r.verify with
    | .error defect => .error defect
    | .ok () => .ok r

end Record
end TokenBroker
