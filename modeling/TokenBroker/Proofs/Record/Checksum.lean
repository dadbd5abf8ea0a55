import Mathlib.Algebra.Group.Nat.Defs
import Mathlib.Logic.Function.Iterate
import TokenBroker.Record.Checksum
/-!
# Which changes the checksum notices

A checksum of 32 bits cannot tell all byte strings apart, but it does tell apart those that differ
only within four consecutive bytes, however long they are.

* The register is linear: `run_xor` takes the exclusive or of two runs to the run of their
  difference.  So it is enough to see which differences leave nothing in the register.
* The generator has its top bit set.  A register whose top bits are clear has therefore only been
  shifted (`toNat_of_bitStep_lt`), and what was shifted can be told backwards, byte by byte.
* `eq_of_run_eq` says that what differs in the register before some bytes differs after them,
  `eq_of_run_eq_of_short` that different strings of up to four bytes lead to different registers,
  and `crc32_ne_of_burst` is the two together.
-/

set_option autoImplicit false

namespace TokenBroker
namespace Checksum

/-! ## One bit -/

/-- What the bit that leaves the register adds to what stays. -/
def feedback (leaving : Bool) : UInt32 := if leaving then polynomial else 0

theorem feedback_xor (a b : Bool) : feedback (a ^^ b) = feedback a ^^^ feedback b := by
  cases a <;> cases b <;> decide

theorem bitStep_eq (x : UInt32) : bitStep x = (x >>> 1) ^^^ feedback (x.toNat.testBit 0) := by
  have hbit : x &&& 1 = 1 ↔ x.toNat.testBit 0 = true := by
    rw [← UInt32.toNat_inj, UInt32.toNat_and, Nat.testBit_zero, decide_eq_true_iff]
    exact iff_of_eq (congrArg (· = 1) (Nat.and_one_is_mod x.toNat))
  rw [bitStep, feedback]
  simp only [hbit]
  split
  · rfl
  · exact UInt32.xor_zero.symm

/-- Dividing for one bit is linear over exclusive or. -/
theorem bitStep_xor (x y : UInt32) : bitStep (x ^^^ y) = bitStep x ^^^ bitStep y := by
  rw [bitStep_eq, bitStep_eq, bitStep_eq, UInt32.toNat_xor, Nat.testBit_xor, feedback_xor,
    UInt32.shiftRight_xor]
  ac_rfl

/-- The generator sets the top bit, so a register without it has only been shifted. -/
theorem toNat_of_bitStep_lt {x : UInt32} (h : (bitStep x).toNat < 2 ^ 31) :
    x.toNat = 2 * (bitStep x).toNat := by
  have hshift : (x >>> 1).toNat = x.toNat / 2 := by
    rw [UInt32.toNat_shiftRight]
    exact Nat.shiftRight_eq_div_pow x.toNat 1
  have hhalf : (x >>> 1).toNat < 2 ^ 31 := by
    have := x.toNat_lt
    omega
  cases hbit : x.toNat.testBit 0 with
  | false =>
    rw [Nat.testBit_zero, decide_eq_false_iff_not] at hbit
    rw [bitStep_eq, Nat.testBit_zero, decide_eq_false hbit, feedback, if_neg Bool.false_ne_true,
      UInt32.xor_zero, hshift]
    omega
  | true =>
    have htop := Nat.testBit_lt_two_pow h
    rw [bitStep_eq, hbit, UInt32.toNat_xor, Nat.testBit_xor, Nat.testBit_lt_two_pow hhalf] at htop
    cases htop

/-! ## One byte -/

theorem byteShift_xor (x y : UInt32) : byteShift (x ^^^ y) = byteShift x ^^^ byteShift y := by
  simp only [byteShift, bitStep_xor]

/-- A register that has `k` clear bits at its top after `k` bits has only been shifted by them. -/
theorem toNat_of_iterate_lt {k : Nat} {x : UInt32} (hk : k ≤ 32)
    (h : (bitStep^[k] x).toNat < 2 ^ (32 - k)) : x.toNat = 2 ^ k * (bitStep^[k] x).toNat := by
  induction k generalizing x with
  | zero => exact (Nat.one_mul _).symm
  | succ k ih =>
    rw [Function.iterate_succ_apply] at h ⊢
    have hpow : 2 ^ k * 2 ^ (32 - (k + 1)) = 2 ^ 31 := by
      rw [← Nat.pow_add]
      congr 1
      omega
    have hrest := ih (by omega) (Nat.lt_of_lt_of_le h (Nat.pow_le_pow_right (by decide) (by omega)))
    have hlt : (bitStep x).toNat < 2 ^ 31 := by
      rw [hrest, ← hpow]
      exact Nat.mul_lt_mul_of_pos_left h (Nat.two_pow_pos k)
    rw [toNat_of_bitStep_lt hlt, Nat.pow_succ', Nat.mul_assoc, ← hrest]

/-- The same of a byte. -/
theorem toNat_of_byteShift_lt {x : UInt32} (h : (byteShift x).toNat < 2 ^ 24) :
    x.toNat = 2 ^ 8 * (byteShift x).toNat :=
  toNat_of_iterate_lt (k := 8) (by decide) h

/-- Nothing but an empty register is empty after a byte. -/
theorem byteShift_eq_zero {x : UInt32} (h : byteShift x = 0) : x = 0 := by
  have hx := toNat_of_byteShift_lt (x := x) (by rw [h]; decide)
  rw [h] at hx
  exact UInt32.toNat_inj.1 hx

/-! ## Byte strings -/

/-- The bytewise exclusive or of two byte strings: what one differs in from the other. -/
def difference (a b : Bytes) : Bytes := a.zipWith (· ^^^ ·) b

theorem length_difference {a b : Bytes} (h : a.length = b.length) :
    (difference a b).length = a.length := by
  rw [difference, List.length_zipWith, ← h, Nat.min_self]

theorem step_xor (r s : UInt32) (a b : UInt8) :
    step (r ^^^ s) (a ^^^ b) = step r a ^^^ step s b := by
  rw [step, step, step, ← byteShift_xor, UInt8.toUInt32_xor]
  congr 1
  ac_rfl

/-- The register is linear in itself and in the bytes together. -/
theorem run_xor (r s : UInt32) {a b : Bytes} (hlen : a.length = b.length) :
    run (r ^^^ s) (difference a b) = run r a ^^^ run s b := by
  induction a generalizing b r s with
  | nil =>
    obtain rfl := List.length_eq_zero_iff.1 hlen.symm
    rfl
  | cons x a ih =>
    cases b with
    | nil => cases hlen
    | cons y b =>
      rw [run_cons, run_cons, ← ih _ _ (Nat.succ.inj hlen), ← step_xor]
      rfl

/-- A register whose top byte is clear after a byte had nothing in its lowest byte but that byte. -/
theorem toNat_of_step_lt {r : UInt32} {byte : UInt8} (h : (step r byte).toNat < 2 ^ 24) :
    r.toNat ^^^ byte.toNat = 2 ^ 8 * (step r byte).toNat := by
  rw [step, ← toNat_of_byteShift_lt h, UInt32.toNat_xor, UInt8.toNat_toUInt32]

/-- Up to four bytes clear the register only if it holds no more bytes than these. -/
theorem lt_of_run_eq_zero {bytes : Bytes} {r : UInt32} (hshort : bytes.length ≤ 4)
    (h : run r bytes = 0) : r.toNat < 2 ^ (8 * bytes.length) := by
  induction bytes generalizing r with
  | nil =>
    obtain rfl : r = 0 := h
    decide
  | cons byte bytes ih =>
    rw [List.length_cons] at hshort ⊢
    have hstep := ih (by omega) h
    have hclear : (step r byte).toNat < 2 ^ 24 :=
      Nat.lt_of_lt_of_le hstep (Nat.pow_le_pow_right (by decide) (by omega))
    have hsum : r.toNat ^^^ byte.toNat < 2 ^ (8 * (bytes.length + 1)) := by
      rw [toNat_of_step_lt hclear, Nat.mul_succ, Nat.add_comm, Nat.pow_add]
      exact Nat.mul_lt_mul_of_pos_left hstep (by decide)
    have hbyte : byte.toNat < 2 ^ (8 * (bytes.length + 1)) :=
      Nat.lt_of_lt_of_le byte.toNat_lt (Nat.pow_le_pow_right (by decide) (by omega))
    rw [← Nat.xor_zero r.toNat, ← Nat.xor_self byte.toNat, ← Nat.xor_assoc]
    exact Nat.xor_lt_two_pow hsum hbyte

/-! ## Different bytes, different registers -/

/-- Different registers stay different, whatever bytes follow. -/
theorem eq_of_run_eq {r s : UInt32} {bytes : Bytes} (h : run r bytes = run s bytes) : r = s := by
  induction bytes generalizing r s with
  | nil => exact h
  | cons byte bytes ih =>
    have hstep : step r byte = step s byte := ih h
    have hzero : byteShift ((r ^^^ byte.toUInt32) ^^^ (s ^^^ byte.toUInt32)) = 0 := by
      rw [byteShift_xor]
      exact UInt32.xor_eq_zero_iff.2 hstep
    exact (UInt32.xor_left_inj _).1 (UInt32.xor_eq_zero_iff.1 (byteShift_eq_zero hzero))

/-- Different strings of up to four bytes lead to different registers. -/
theorem eq_of_run_eq_of_short {r : UInt32} {a b : Bytes} (hlen : a.length = b.length)
    (hshort : a.length ≤ 4) (h : run r a = run r b) : a = b := by
  induction a generalizing b r with
  | nil => exact (List.length_eq_zero_iff.1 hlen.symm).symm
  | cons x a ih =>
    cases b with
    | nil => cases hlen
    | cons y b =>
      rw [List.length_cons] at hshort
      have htail : a.length = b.length := Nat.succ.inj hlen
      have hrest : run (step r x ^^^ step r y) (difference a b) = 0 := by
        rw [run_xor _ _ htail]
        exact UInt32.xor_eq_zero_iff.2 h
      have hlt := lt_of_run_eq_zero (by rw [length_difference htail]; omega) hrest
      rw [← step_xor, UInt32.xor_self, length_difference htail] at hlt
      have hclear : (step 0 (x ^^^ y)).toNat < 2 ^ 24 :=
        Nat.lt_of_lt_of_le hlt (Nat.pow_le_pow_right (by decide) (by omega))
      have hfirst := toNat_of_step_lt hclear
      rw [UInt32.toNat_zero, Nat.zero_xor] at hfirst
      have hbyte := (x ^^^ y).toNat_lt
      have hxy : x ^^^ y = 0 := UInt8.toNat_inj.1 (by rw [UInt8.toNat_zero]; omega)
      obtain rfl : x = y := UInt8.xor_eq_zero_iff.1 hxy
      rw [ih htail (by omega) h]

/-- **A burst is detected**: strings of one length that differ only within four consecutive bytes
have different checksums. -/
theorem crc32_ne_of_burst {before a b : Bytes} (after : Bytes) (hlen : a.length = b.length)
    (hshort : a.length ≤ 4) (hne : a ≠ b) :
    crc32 (before ++ a ++ after) ≠ crc32 (before ++ b ++ after) := by
  intro h
  have hrun : run (run (run 0xFFFFFFFF before) a) after
      = run (run (run 0xFFFFFFFF before) b) after := by
    simpa only [crc32, run_append] using UInt32.not_inj.1 h
  exact hne (eq_of_run_eq_of_short hlen hshort (eq_of_run_eq hrun))

end Checksum
end TokenBroker
