import TokenBroker.Stream.Socket
import TokenBroker.Stream.Write
/-!
# Waiting on a stream

A `Line` is a socket together with the time and with everything that is still to arrive, each
arrival at its time.  Waiting moves the time forward from arrival to arrival.

* `Line.await` repeats an attempt until it is decided, a deadline passes, or the caller loses
  patience altogether.  An attempt comes before the deadline is looked at, so what arrives right at
  the deadline still counts.
* `Line.read`, `Line.readSegments` and `Line.waitData` are the operations built on it.

A read that times out has consumed what was there.
-/

set_option autoImplicit false

namespace TokenBroker

/-- What will arrive, and when, in the order of time. -/
abbrev Schedule := List (Nat × Arrival)

/-- How waiting ends. -/
inductive Outcome (ε α : Type) where
  | finished (value : α)
  | failed (error : ε)
  /-- The caller gave up. -/
  | abandoned

/-- A way of reading exactly so many bytes, from whatever they come. -/
abbrev Reader (τ : Type) := Nat → τ → Outcome ConnectionError Bytes × τ

/-- A socket, the time, and what is still to come. -/
structure Line where
  socket : Socket
  now : Nat
  coming : Schedule

namespace Line

/-- The earlier of two points in time, of which either may be missing. -/
def earlier : Option Nat → Option Nat → Option Nat
  | none, b => b
  | a, none => a
  | some a, some b => some (min a b)

/-- Whether a point in time is not past a limit. -/
def within (time : Nat) (limit : Option Nat) : Bool :=
  match limit with
  | none => true
  | some limit => time ≤ limit

/-- What stops a wait in which nothing more arrives: the deadline, or the caller's patience, or
nothing at all. -/
def expire {α : Type} (deadline patience : Option Nat) (now : Nat) :
    Outcome ConnectionError α × Nat :=
  match earlier deadline patience with
  | none => (.abandoned, now)
  | some limit =>
    if deadline = some limit then (.failed .timedOut, max now limit)
    else (.abandoned, max now limit)

/-- Attempt, wait for the next arrival, and attempt again. -/
def awaitFrom {ρ α : Type} (attempt : ρ → Socket → Progress ρ α × Socket)
    (deadline patience : Option Nat) (soFar : ρ) (socket : Socket) (now : Nat)
    (coming : Schedule) : Outcome ConnectionError α × Line :=
  match attempt soFar socket, coming with
  | (.finished value, socket), _ => (.finished value, ⟨socket, now, coming⟩)
  | (.failed e, socket), _ => (.failed e, ⟨socket, now, coming⟩)
  | (.waiting _, socket), [] =>
    let (outcome, now) := expire deadline patience now
    (outcome, ⟨socket, now, []⟩)
  | (.waiting soFar, socket), (time, arrival) :: later =>
    if within time (earlier deadline patience) then
      awaitFrom attempt deadline patience soFar (socket.receive arrival) (max now time) later
    else
      let (outcome, now) := expire deadline patience now
      (outcome, ⟨socket, now, (time, arrival) :: later⟩)
termination_by structural coming

/-- Take in everything that has arrived by now. -/
def settleFrom (socket : Socket) (now : Nat) : Schedule → Line
  | [] => ⟨socket, now, []⟩
  | (time, arrival) :: later =>
    if time ≤ now then settleFrom (socket.receive arrival) now later
    else ⟨socket, now, (time, arrival) :: later⟩

/-- The line with everything that has arrived by now taken in. -/
def settle (l : Line) : Line := settleFrom l.socket l.now l.coming

/-- Let time pass. -/
def sleep (l : Line) (duration : Nat) : Line := settle { l with now := l.now + duration }

/-- Repeat an attempt until it is decided or `timeout` has passed.  `patience` is the time at which
the caller gives up. -/
def await {ρ α : Type} (l : Line) (attempt : ρ → Socket → Progress ρ α × Socket) (start : ρ)
    (timeout patience : Option Nat) : Outcome ConnectionError α × Line :=
  let result :=
    awaitFrom attempt (timeout.map (l.now + ·)) patience start l.socket l.now l.coming
  (result.1, result.2.settle)

/-- Read exactly `n` bytes. -/
def read (l : Line) (n : Nat) (timeout patience : Option Nat) :
    Outcome ConnectionError Bytes × Line :=
  l.await (fun soFar socket => socket.fill n soFar) [] timeout patience

/-- Reading with a timeout for each read. -/
def reader (timeout patience : Option Nat) : Reader Line := fun n l => l.read n timeout patience

/-- Fill segments of the given lengths, all under one timeout. -/
def readSegments (l : Line) (lengths : List Nat) (timeout patience : Option Nat) :
    Outcome ConnectionError (List Bytes) × Line :=
  l.await (fun (soFar : Socket.Scatter) socket =>
      socket.fillSegments soFar.filled soFar.current soFar.lengths)
    (Socket.Scatter.ofLengths lengths) timeout patience

/-- One attempt of waiting for data. -/
def lookForData (_ : Unit) (socket : Socket) : Progress Unit Unit × Socket :=
  if socket.isReadable then (.finished (), socket) else (.waiting (), socket)

/-- Wait until there is something to read, an end of the stream included, and consume nothing. -/
def waitData (l : Line) (timeout patience : Option Nat) : Outcome ConnectionError Unit × Line :=
  l.await lookForData () timeout patience

/-- Write segments, of which the socket accepts as much as `accepted` says. -/
def write (l : Line) (segments : List Bytes) (accepted : List Nat) : WriteEnd × Bytes :=
  if l.socket.gone && Segments.size segments ≠ 0 then (.failed (.io (.os .brokenPipe)), [])
  else writeSegments segments accepted

end Line
end TokenBroker
