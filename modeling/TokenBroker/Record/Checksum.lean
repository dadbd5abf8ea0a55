import TokenBroker.Bytes.LittleEndian
/-!
# CRC-32

The checksum of a blob is the CRC-32 of IEEE 802.3 in its reflected form: a 32-bit register that
starts with all bits set, takes in one byte after the other, least significant bit first, and is
inverted at the end.
-/

set_option autoImplicit false

namespace TokenBroker
namespace Checksum

/-- The generator polynomial, least significant bit first. -/
def polynomial : UInt32 := 0xEDB88320

/-- Divide by the generator for one bit. -/
def bitStep (register : UInt32) : UInt32 :=
  if register &&& 1 = 1 then (register >>> 1) ^^^ polynomial else register >>> 1

/-- Divide for eight bits. -/
def byteShift (register : UInt32) : UInt32 :=
  bitStep (bitStep (bitStep (bitStep (bitStep (bitStep (bitStep (bitStep register)))))))

/-- Take in one byte. -/
def step (register : UInt32) (byte : UInt8) : UInt32 :=
  byteShift (register ^^^ byte.toUInt32)

/-- The register after a byte string. -/
def run (register : UInt32) (bytes : Bytes) : UInt32 := bytes.foldl step register

/-- The checksum of a byte string. -/
def crc32 (bytes : Bytes) : UInt32 := ~~~ run 0xFFFFFFFF bytes

@[simp] theorem run_nil (register : UInt32) : run register [] = register := rfl

@[simp] theorem run_cons (register : UInt32) (byte : UInt8) (bytes : Bytes) :
    run register (byte :: bytes) = run (step register byte) bytes := rfl

theorem run_append (register : UInt32) (a b : Bytes) :
    run register (a ++ b) = run (run register a) b := List.foldl_append

end Checksum
end TokenBroker
