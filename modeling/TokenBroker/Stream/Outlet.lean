import TokenBroker.Stream.Buffer
/-!
# The way out to a peer

How far a peer can be written to at a time.  A peer that keeps reading takes whatever is written.
For any other, what is written waits in a buffer until the peer reads it, and a writer may find the
buffer full.

* `Outlet.offer` is one call of a writer; where `Outlet.refuses` holds, it is in vain.
* `Outlet.consume` is what the peer's reading does.
-/

set_option autoImplicit false

namespace TokenBroker

/-- The way out to a peer. -/
inductive Outlet where
  /-- The peer keeps reading, so there is always room. -/
  | flowing
  /-- What was written and not yet read takes up room. -/
  | bounded (buffer : Buffer)
  deriving DecidableEq

namespace Outlet

/-- The way out to a peer that reads when it likes, before anything was written. -/
def empty : Outlet := .bounded {}

/-- Offer `n` bytes; the answer is how many of them are let in. -/
def offer (o : Outlet) (n : Nat) : Nat × Outlet :=
  match o with
  | flowing => (n, flowing)
  | bounded buffer =>
    let (taken, buffer) := buffer.offer n
    (taken, bounded buffer)

/-- Whether a writer was refused, and was not told of any room since. -/
def refuses : Outlet → Bool
  | flowing => false
  | bounded buffer => buffer.refusing

/-- Have the peer read `n` bytes. -/
def consume (o : Outlet) (n : Nat) : Outlet :=
  match o with
  | flowing => flowing
  | bounded buffer => bounded (buffer.consume n)

/-- A peer that keeps reading takes everything. -/
@[simp] theorem offer_flowing (n : Nat) : flowing.offer n = (n, flowing) := rfl

end Outlet
end TokenBroker
