import TokenBroker.Bytes.LittleEndian
/-!
# Damage to a file

Ways in which the content of a file can be spoilt behind the back of the registry.  Positions that
are negative count from the end.
-/

set_option autoImplicit false

namespace TokenBroker
namespace Simulation

/-- One change to a byte string. -/
inductive Damage where
  /-- Keep so many bytes, or lose so many if negative. -/
  | truncate (length : Int)
  | append (bytes : Bytes)
  | prepend (bytes : Bytes)
  /-- Flip bits from a position on. -/
  | flip (position : Int) (mask : Bytes)
  /-- Overwrite bytes from a position on. -/
  | overwrite (position : Int) (bytes : Bytes)

namespace Damage

/-- A position counted from the start. -/
def fromStart (length : Nat) (position : Int) : Nat :=
  if position < 0 then length - position.natAbs else position.toNat

/-- Combine the bytes from a position on with others, as far as both reach. -/
def combineFrom (f : UInt8 → UInt8 → UInt8) (start : Nat) (content other : Bytes) : Bytes :=
  let tail := content.drop start
  content.take start ++ tail.zipWith f other ++ tail.drop other.length

/-- The content after one change. -/
def apply (content : Bytes) : Damage → Bytes
  | truncate length => content.take (fromStart content.length length)
  | append bytes => content ++ bytes
  | prepend bytes => bytes ++ content
  | flip position mask =>
    combineFrom (· ^^^ ·) (fromStart content.length position) content mask
  | overwrite position bytes =>
    combineFrom (fun _ new => new) (fromStart content.length position) content bytes

/-- The content after a series of changes. -/
def applyAll (content : Bytes) (damages : List Damage) : Bytes := damages.foldl apply content

end Damage
end Simulation
end TokenBroker
