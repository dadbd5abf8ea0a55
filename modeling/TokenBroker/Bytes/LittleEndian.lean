/-!
# Byte strings and little-endian numbers

Every field on the wire and in a stored record is an unsigned number of fixed width, least
significant byte first.

* `LittleEndian.encode width n` writes the `width` low-order bytes of `n`;
  `LittleEndian.decode` reads a whole byte string as one number.
* `LittleEndian.decode_encode` and `LittleEndian.encode_decode` say that the two undo each other,
  up to the bits that do not fit into `width` bytes.
-/

set_option autoImplicit false

namespace TokenBroker

/-- A string of bytes: a payload, a file's content, or what has arrived on a stream. -/
abbrev Bytes := List UInt8

namespace LittleEndian

/-- The `width` low-order bytes of `n`, least significant first. -/
def encode : (width : Nat) → (n : Nat) → Bytes
  | 0, _ => []
  | width + 1, n => UInt8.ofNat n :: encode width (n / 256)

/-- The number whose bytes, least significant first, are the given ones. -/
def decode : Bytes → Nat
  | [] => 0
  | b :: rest => b.toNat + 256 * decode rest

/-- How many numbers a byte string of this width can stand for. -/
def capacity : (width : Nat) → Nat
  | 0 => 1
  | width + 1 => 256 * capacity width

theorem capacity_four : capacity 4 = UInt32.size := rfl

@[simp] theorem length_encode (width n : Nat) : (encode width n).length = width := by
  induction width generalizing n with
  | zero => rfl
  | succ width ih => simp [encode, ih]

/-- Only the bits beyond the width are lost by writing a number. -/
theorem decode_encode (width n : Nat) : decode (encode width n) = n % capacity width := by
  induction width generalizing n with
  | zero => simp [encode, decode, capacity, Nat.mod_one]
  | succ width ih =>
    rw [encode, decode, ih, capacity, Nat.mod_mul]
    simp

theorem decode_lt (bytes : Bytes) : decode bytes < capacity bytes.length := by
  induction bytes with
  | nil => simp [decode, capacity]
  | cons b rest ih =>
    have hb : b.toNat < 256 := b.toNat_lt
    rw [decode, List.length_cons, capacity]
    omega

/-- Reading loses nothing: the bytes come back from the number and their count. -/
theorem encode_decode (bytes : Bytes) : encode bytes.length (decode bytes) = bytes := by
  induction bytes with
  | nil => rfl
  | cons b rest ih =>
    have hb : b.toNat < 256 := b.toNat_lt
    have hdiv : (b.toNat + 256 * decode rest) / 256 = decode rest := by omega
    have hmod : UInt8.ofNat (b.toNat + 256 * decode rest) = b := by
      apply UInt8.toNat_inj.mp
      simp
    rw [List.length_cons, encode, decode, hdiv, ih, hmod]

end LittleEndian

end TokenBroker
