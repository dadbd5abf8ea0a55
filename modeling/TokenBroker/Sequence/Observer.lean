/-!
# Watching command ids

The side that receives commands does not refuse an id, but notes whether each follows the one
before it, modulo 2^32.
-/

set_option autoImplicit false

namespace TokenBroker
namespace Sequence

/-- How an id stands to the one before it. -/
inductive Observation where
  | first
  | inOrder
  | gap (previous current : UInt32)
  deriving DecidableEq

/-- The id seen last, if any. -/
structure Observer where
  previous : Option UInt32 := none
  deriving DecidableEq

/-- Note an id. -/
def Observer.observe (o : Observer) (current : UInt32) : Observation × Observer :=
  let observation :=
    match o.previous with
    | none => .first
    | some previous => if current - previous = 1 then .inOrder else .gap previous current
  (observation, ⟨some current⟩)

/-- What an observer reports over a whole series of ids. -/
def Observer.observeAll (o : Observer) : List UInt32 → List Observation
  | [] => []
  | id :: rest => (o.observe id).1 :: (o.observe id).2.observeAll rest

end Sequence
end TokenBroker
