import TokenBroker.Proofs.Stream.Write
import TokenBroker.Simulation.Pipe
/-!
# Long payloads on a pipe

A pipe has room for so many bytes, and what finds no room is not looked at.  So it does not matter
how much of a long payload is made.

* `write_filled` is this for one write.
* `sendFilled_eq` says that a payload that is made in part is sent like one that is made as a whole.
-/

set_option autoImplicit false

namespace TokenBroker
namespace Simulation
namespace Pipe

/-- Where so many bytes are taken, a byte more stands for all that follow. -/
theorem write_filled (l : Line) (head : Bytes) (n taken : Nat) (byte : UInt8) :
    l.write [head, List.replicate (min n (taken + 1)) byte] (if taken = 0 then [] else [taken])
      = l.write [head, List.replicate n byte] (if taken = 0 then [] else [taken]) := by
  rcases Nat.le_total n (taken + 1) with hshort | hlong
  · rw [Nat.min_eq_left hshort]
  · rw [Nat.min_eq_right hlong]
    have hsize : ∀ k, taken + 1 ≤ k → taken < Segments.size [head, List.replicate k byte] := by
      intro k hk
      rw [Segments.size, List.flatten_cons, List.flatten_singleton, List.length_append,
        List.length_replicate]
      omega
    have hsame : [head, List.replicate (taken + 1) byte].flatten.take taken
        = [head, List.replicate n byte].flatten.take taken := by
      simp only [List.flatten_cons, List.flatten_nil, List.append_nil, List.take_append,
        List.take_replicate]
      congr 2
      omega
    rw [l.write_blocked (hsize (taken + 1) (Nat.le_refl _)), l.write_blocked (hsize n hlong), hsame]

/-- **A payload of equal bytes is sent as if all of it was made**, however long it is. -/
theorem sendFilled_eq (limit : Nat) (p : Pipe) (side : Side) (id cmd : UInt32) (n : Nat)
    (byte : UInt8) :
    p.perform limit side (.sendCommand id cmd (List.replicate n byte))
      = sendFilled limit p side id cmd n byte := by
  have hlength : (List.replicate n byte).length = n := List.length_replicate
  rw [perform, sendFilled, Frame.ofCommand]
  rcases Nat.lt_or_ge limit n with hlarge | hfits
  · rw [if_pos hlarge, Frame.checkOutgoing_of_lt (by rwa [hlength]), hlength]
  · rw [if_neg (Nat.not_lt.2 hfits), Frame.checkOutgoing_of_le (by rwa [hlength]), hlength]
    have hsize : Segments.size
        [CommandHeader.encode ⟨id, cmd, UInt32.ofNat n⟩, List.replicate n byte]
          = Header.size + n := by
      rw [Segments.size, List.flatten_cons, List.flatten_singleton, List.length_append, hlength,
        CommandHeader.length_encode]
    simp only [send, sendUpTo, hsize, write_filled]

end Pipe
end Simulation
end TokenBroker
