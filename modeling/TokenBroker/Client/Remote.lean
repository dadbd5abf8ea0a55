import TokenBroker.Endpoint.Basic
import TokenBroker.Stream.Line
/-!
# The far side of a client

A client knows the daemon only as something that it can connect to, that takes bytes as far as there
is room for them, and from which bytes arrive in the course of time.  A `Remote` is such a far side,
as a set of functions on its state; there is at most one connection to it at a time.

`arrivals` tells what will arrive on the connection if the client does nothing but wait, and
`waitUntil` is that waiting.  Both are told for how many bytes the client waits: these it reads as
they come, and so it makes room for more; whatever else arrives stays unread.

* `Remote.write` offers bytes, and waits for room when some are left over; it is not limited in time
  but by the caller's patience.
* `Remote.reader` is how the client reads.
-/

set_option autoImplicit false

namespace TokenBroker

/-- How an attempt to connect ends. -/
inductive Attempt where
  | done
  | failed (error : IoError)
  /-- There is no answer. -/
  | blocked

/-- A far side with states `σ`. -/
structure Remote (σ : Type) where
  /-- The time, in milliseconds. -/
  now : σ → Nat
  /-- Open a connection. -/
  connect : Endpoint → σ → Attempt × σ
  /-- Offer bytes; the answer is how many of them, from the front, were taken in. -/
  offer : Bytes → σ → Nat × σ
  /-- When there will be room, if nothing is written until then, for a writer that found too
  little. -/
  roomAt : σ → Option Nat
  /-- What will arrive if nothing more is written, and so many bytes are read. -/
  arrivals : Nat → σ → Schedule
  /-- Have so many bytes be read, and let time pass up to a point; what arrives by then is no longer
  to come. -/
  waitUntil : Nat → Nat → σ → σ
  /-- Be told that the connection is closed. -/
  close : Arrival → σ → σ

namespace Remote

/-- The line of a socket that is connected to a far side, while `wanted` bytes are read from it. -/
def line {σ : Type} (r : Remote σ) (wanted : Nat) (socket : Socket) (w : σ) : Line :=
  ⟨socket, r.now w, r.arrivals wanted w⟩

/-- Wait, as an operation on a line did that read `wanted` bytes. -/
def follow {σ : Type} (r : Remote σ) (wanted : Nat) (l : Line) (w : σ) : Socket × σ :=
  (l.socket, r.waitUntil wanted l.now w)

/-- Let time pass without reading. -/
def sleep {σ : Type} (r : Remote σ) (duration : Nat) (socket : Socket) (w : σ) : Socket × σ :=
  r.follow 0 ((r.line 0 socket w).sleep duration) w

/-- Reading from a socket that is connected to a far side. -/
def reader {σ : Type} (r : Remote σ) (timeout patience : Option Nat) : Reader (Socket × σ) :=
  fun n (socket, w) =>
    let (outcome, l) := (r.line n socket w).read n timeout patience
    (outcome, r.follow n l w)

/-! ## Writing -/

/-- When the far side hangs up, if it does so by itself. -/
def hangUpAt? (coming : Schedule) : Option Nat :=
  (coming.find? fun item =>
    match item.2 with
    | .hangUp _ => true
    | _ => false).map (·.1)

/-- Wait until there is room, or nobody left to write to. -/
def awaitRoom {σ : Type} (r : Remote σ) (patience : Option Nat) (socket : Socket) (w : σ) :
    Outcome ConnectionError Unit × Socket × σ :=
  let now := r.now w
  let abandon := (.abandoned, r.sleep (patience.getD now - now) socket w)
  match Line.earlier (r.roomAt w) (hangUpAt? (r.arrivals 0 w)) with
  | none => abandon
  | some time =>
    if Line.within time patience then
      let (socket, w) := r.sleep (time - now) socket w
      if socket.gone then (.failed (.io (.os .brokenPipe)), socket, w)
      else (.finished (), socket, w)
    else abandon

/-- Go on writing when there was not room for all of `expected` bytes, and `rest` is left. -/
def writeRest {σ : Type} (r : Remote σ) (patience : Option Nat) (expected : Nat) (rest : Bytes)
    (socket : Socket) (w : σ) : Outcome ConnectionError Unit × Socket × σ :=
  if _h : rest = [] then (.finished (), socket, w)
  else
    match r.awaitRoom patience socket w with
    | (.abandoned, socket, w) => (.abandoned, socket, w)
    | (.failed e, socket, w) => (.failed e, socket, w)
    | (.finished (), socket, w) =>
      let (n, w) := r.offer rest w
      if _hn : n = 0 then
        (.failed (.shortWrite (expected - rest.length) expected), socket, w)
      else writeRest r patience expected (rest.drop n) socket w
termination_by rest.length
decreasing_by
  have : 0 < rest.length := List.length_pos_iff.2 _h
  simp only [List.length_drop]
  omega

/-- Write bytes. -/
def write {σ : Type} (r : Remote σ) (patience : Option Nat) (bytes : Bytes) (socket : Socket)
    (w : σ) : Outcome ConnectionError Unit × Socket × σ :=
  if bytes.isEmpty then (.finished (), socket, w)
  else if socket.gone then (.failed (.io (.os .brokenPipe)), socket, w)
  else
    let (n, w) := r.offer bytes w
    r.writeRest patience bytes.length (bytes.drop n) socket w

end Remote
end TokenBroker
