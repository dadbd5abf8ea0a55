/-!
# Pairing responses with commands

The side that sends commands numbers them, starting one above an initial value and wrapping at
32 bits, and has at most one command unanswered.  A `Tracker` issues the ids and judges the id of
each response.

* A response to the unanswered command clears it.
* An id that trails the last one issued by more than `maxExpectedDrift`, seen modulo 2^32, means
  that the two sides count differently: from then on every call reports that same error until a
  reset.
* Any other id is a mismatch and leaves the tracker as it was.
-/

set_option autoImplicit false

namespace TokenBroker
namespace Sequence

/-- How far a response may trail its command without proving that the two sides lost step. -/
def maxExpectedDrift : UInt32 := 1

/-- The largest distance that still counts as trailing rather than leading. -/
def maxBehind : UInt32 := 0x7fffffff

/-- Why an id is not issued or not accepted. -/
inductive Error where
  | commandInFlight (outstanding : UInt32)
  | mismatch (expected received : UInt32)
  | desynchronized (expected received : UInt32)
  deriving DecidableEq

namespace Error

/-- The text of an error. -/
def message : Error → String
  | commandInFlight outstanding =>
    "Command " ++ toString outstanding.toNat ++ " is still awaiting its response"
  | mismatch expected received =>
    "Response id " ++ toString received.toNat ++ " does not match command id "
      ++ toString expected.toNat
  | desynchronized expected received =>
    "Desynchronized: response id " ++ toString received.toNat ++ " trails command id "
      ++ toString expected.toNat

/-- Only lost synchronization cannot be waited out. -/
def isFatal : Error → Bool
  | desynchronized _ _ => true
  | _ => false

end Error

/-- The state of numbering on the side that sends commands. -/
structure Tracker where
  /-- The id issued last, or the initial value. -/
  lastIssued : UInt32
  /-- Whether that id still awaits its response. -/
  outstanding : Bool
  /-- The expected and received ids that showed the loss of synchronization. -/
  desync : Option (UInt32 × UInt32)
  deriving DecidableEq

namespace Tracker

/-- Nothing issued yet; the first id will be one above `initial`. -/
def fresh (initial : UInt32) : Tracker := ⟨initial, false, none⟩

/-- Whether synchronization is lost. -/
def isDesynchronized (t : Tracker) : Bool := t.desync.isSome

/-- Take the next id. -/
def issue (t : Tracker) : Except Error UInt32 × Tracker :=
  match t.desync with
  | some (expected, received) => (.error (.desynchronized expected received), t)
  | none =>
    if t.outstanding then (.error (.commandInFlight t.lastIssued), t)
    else
      let id := t.lastIssued + 1
      (.ok id, ⟨id, true, none⟩)

/-- Whether a response id proves that the two sides lost step. -/
def trails (expected received : UInt32) : Bool :=
  let behind := expected - received
  maxExpectedDrift < behind && behind ≤ maxBehind

/-- Judge the id of a response. -/
def pair (t : Tracker) (received : UInt32) : Except Error Unit × Tracker :=
  match t.desync with
  | some (expected, earlier) => (.error (.desynchronized expected earlier), t)
  | none =>
    if t.outstanding && received == t.lastIssued then
      (.ok (), ⟨t.lastIssued, false, none⟩)
    else if trails t.lastIssued received then
      (.error (.desynchronized t.lastIssued received),
        ⟨t.lastIssued, t.outstanding, some (t.lastIssued, received)⟩)
    else (.error (.mismatch t.lastIssued received), t)

/-- Forget everything and start from a new initial value. -/
def reset (_ : Tracker) (initial : UInt32) : Tracker := fresh initial

end Tracker
end Sequence
end TokenBroker
