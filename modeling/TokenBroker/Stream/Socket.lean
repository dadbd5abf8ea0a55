import TokenBroker.Bytes.LittleEndian
import TokenBroker.Stream.Error
/-!
# One end of a stream

A `Socket` is one end of a stream as its owner sees it: what has arrived and was not read yet, and
what is known about the other side.

* `Socket.receive` takes in what happens at the other end.
* `Socket.fill` and `Socket.fillSegments` are one attempt to complete a read of exactly so many
  bytes.  Bytes that have arrived come first, then a pending reset, which is reported once, then
  the end of the stream.
* `Socket.isReadable` and `Socket.peek` ask without reading.

The operating system tells its readers when something arrives, and they keep a note of it.  The note
is dropped when a read finds too little; a read that takes exactly what was there leaves it.
-/

set_option autoImplicit false

namespace TokenBroker

/-- What a socket is told by its other end. -/
inductive Arrival where
  | bytes (chunk : Bytes)
  /-- The other end will send nothing more, but still reads. -/
  | finish
  /-- The other end is gone; `reset` says that it left bytes unread. -/
  | hangUp (reset : Bool)
  deriving DecidableEq

/-- The bytes of an arrival. -/
def Arrival.content : Arrival → Bytes
  | .bytes chunk => chunk
  | .finish => []
  | .hangUp _ => []

/-- One end of a stream. -/
structure Socket where
  /-- What has arrived and was not read. -/
  unread : Bytes := []
  /-- Nothing more will arrive. -/
  ended : Bool := false
  /-- The other end is gone, so that nothing can be sent. -/
  gone : Bool := false
  /-- A reset that the next read will report. -/
  reset : Bool := false
  /-- The note that something has arrived. -/
  noted : Bool := false
  deriving DecidableEq

/-- How far an attempt at a read came; `ρ` is what has been read so far. -/
inductive Progress (ρ α : Type) where
  | finished (value : α)
  | failed (error : ConnectionError)
  | waiting (soFar : ρ)

namespace Socket

/-- Take in what happens at the other end. -/
def receive (s : Socket) : Arrival → Socket
  | .bytes chunk =>
    if chunk.isEmpty then s else { s with unread := s.unread ++ chunk, noted := true }
  | .finish => { s with ended := true, noted := true }
  | .hangUp reset => { s with ended := true, gone := true, reset := reset, noted := true }

theorem unread_receive (s : Socket) (arrival : Arrival) :
    (s.receive arrival).unread = s.unread ++ arrival.content := by
  cases arrival with
  | bytes chunk =>
    rw [receive]
    split
    · next hempty => rw [Arrival.content, List.isEmpty_iff.1 hempty, List.append_nil]
    · rfl
  | finish => exact (List.append_nil s.unread).symm
  | hangUp reset => exact (List.append_nil s.unread).symm

/-- Take in a series of arrivals. -/
def receiveAll (s : Socket) (arrivals : List Arrival) : Socket := arrivals.foldl receive s

/-- What a read that finds no bytes reports. -/
def drained {ρ α : Type} (s : Socket) (soFar : ρ) : Progress ρ α × Socket :=
  let s := { s with unread := [], noted := false }
  if s.reset then (.failed (.io (.os .connectionReset)), { s with reset := false })
  else if s.ended then (.failed .closed, s)
  else (.waiting soFar, s)

/-- Try to complete a read of `n` bytes, of which some were read before.  What is there is
consumed even if it is not enough. -/
def fill (s : Socket) (n : Nat) (soFar : Bytes) : Progress Bytes Bytes × Socket :=
  let need := n - soFar.length
  if need ≤ s.unread.length then
    (.finished (soFar ++ s.unread.take need), { s with unread := s.unread.drop need })
  else s.drained (soFar ++ s.unread)

/-- A read of several segments under way. -/
structure Scatter where
  /-- The segments that are full. -/
  filled : List Bytes
  /-- What is in the segment after them. -/
  current : Bytes
  /-- The lengths of that segment and of all later ones. -/
  lengths : List Nat
  deriving DecidableEq

/-- A read of segments of the given lengths, not begun. -/
def Scatter.ofLengths (lengths : List Nat) : Scatter := ⟨[], [], lengths⟩

/-- Try to fill segments one after the other. -/
def fillSegments (s : Socket) (filled : List Bytes) (current : Bytes) :
    List Nat → Progress Scatter (List Bytes) × Socket
  | [] => (.finished filled, s)
  | n :: rest =>
    match s.fill n current with
    | (.finished segment, s') => s'.fillSegments (filled ++ [segment]) [] rest
    | (.failed e, s') => (.failed e, s')
    | (.waiting soFar, s') => (.waiting ⟨filled, soFar, n :: rest⟩, s')

/-- Whether waiting for data would end at once. -/
def isReadable (s : Socket) : Bool := s.noted || s.ended

/-- Ask whether the other end is there, without taking a byte.  Unread bytes count as a sign of
life; a pending reset is used up by asking. -/
def peek (s : Socket) : Bool × Socket :=
  if !s.unread.isEmpty then (true, s)
  else if s.reset then (false, { s with reset := false })
  else (!s.ended, s)

/-- What the other end is told when this one is closed. -/
def farewell (s : Socket) : Arrival := .hangUp (!s.unread.isEmpty)

end Socket
end TokenBroker
