import TokenBroker.Daemon.Dispatcher
import TokenBroker.Frame.Codec
import TokenBroker.Sequence.Observer
import TokenBroker.Stream.Outlet
import TokenBroker.Wire.Validation
/-!
# Serving one connection

A handler reads one command after the other from its socket, has each dispatched, and writes one
response to each.

* A header that declares more than the limit is answered and ends the connection, because its
  payload is never read.
* A header that is refused for another reason is answered after its payload was read and thrown
  away.
* The idle timeout runs anew for every header and every payload, and not while a response waits to
  be written.
* A response is written to its end before anything else is read.  It counts as answered only then,
  and it is lost if the client goes away meanwhile.
* When the daemon stops, a handler that waits for a header ends at once; one that waits for a
  payload answers the command first, and one that is writing comes to the end of its response.

A handler that waits for a header waits for the stop as well.  Where both are there at once, a
daemon may take either, and so may still serve a command that was there after it was told to stop.
Here a handler reads whatever has come before the next input is taken: a header that wins is one
that came before the stop, and a stop that wins is one that came before the header.

Handlers go on after the stop for as long as they have something to do.  The process of a daemon may
end as soon as it accepts nobody any more, and drop the handlers that wait for a payload or for room
to write; that is not modelled here, where such a handler comes to the end of its command.

All that a handler does is a list of `Handler.Event`: what it writes, what it has dispatched, and
what there is to count.
-/

set_option autoImplicit false

namespace TokenBroker

/-- What all handlers of a daemon share; `σ` is the state that the dispatcher works on. -/
structure Service (σ : Type) where
  /-- The largest payload taken or sent. -/
  limit : Nat
  /-- How long, in milliseconds, a client may keep the daemon waiting. -/
  idle : Option Nat
  /-- Whose entry a caller gets. -/
  scope : IdentityScope
  /-- The dispatcher at a point in time. -/
  dispatch : Nat → Dispatcher σ

/-- The service of the daemon itself. -/
def Registry.service (r : Registry) (limit : Nat) (idle : Option Nat) (scope : IdentityScope) :
    Service Tree :=
  ⟨limit, idle, scope, r.dispatch⟩

namespace Handler

/-- What a handler reads next. -/
inductive Wanted where
  | header
  /-- The payload of a command to dispatch. -/
  | payload (header : CommandHeader) (command : Command)
  /-- The payload of a command that is refused. -/
  | refused (header : CommandHeader) (reason : ValidationError)

/-- A response, with what there is to count when it is written. -/
structure Response where
  /-- What the command is called. -/
  label : String
  /-- The size of the payload that is answered. -/
  received : Nat
  result : ResultCode
  frame : Bytes

/-- What a handler is at. -/
inductive Phase where
  | reading (wanted : Wanted)
  /-- Of a response, `rest` is still to be written; `last` says that the connection ends with it. -/
  | writing (response : Response) (rest : Bytes) (last : Bool)
  | ended

/-- What a handler does. -/
inductive Event where
  /-- The caller is known, and its commands will be served. -/
  | started
  /-- A command does not carry the id after the one before it. -/
  | gap (previous current : UInt32)
  | dispatched (command : Command) (payload : Bytes) (reply : Reply)
  /-- Bytes of a response are on their way. -/
  | sent (bytes : Bytes)
  /-- A response is written to its end. -/
  | answered (response : Response)
  /-- The connection is closed; `reset` says that bytes were left unread. -/
  | ended (reset : Bool)
  /-- The connection is closed without having been served. -/
  | rejected (reset : Bool)

/-- The label under which refused commands are counted. -/
def refusedLabel : String := "invalid"

/-- The number of bytes to read. -/
def Wanted.need : Wanted → Nat
  | header => Header.size
  | payload h _ => h.dataSize.toNat
  | refused h _ => h.dataSize.toNat

/-- Whether what is read next begins a command. -/
def Wanted.isHeader : Wanted → Bool
  | header => true
  | _ => false

/-- How many phases can follow upon this one before a header is read. -/
def Phase.weight : Phase → Nat
  | reading .header => 0
  | reading _ => 2
  | writing _ _ _ => 1
  | ended => 0

end Handler

/-- A connection that is being served. -/
structure Handler where
  identity : IdentityKey
  socket : Socket
  outlet : Outlet
  phase : Handler.Phase
  /-- What has been read of the header or payload waited for. -/
  soFar : Bytes
  observer : Sequence.Observer
  /-- When the present wait for a header or payload began. -/
  since : Nat

namespace Handler

/-! ## What follows upon a header or payload -/

/-- The event of closing a connection. -/
def closing (socket : Socket) : Event := .ended (!socket.unread.isEmpty)

/-- Begin to write a response.  A reply that is too large to send ends the connection. -/
def respond (limit : Nat) (socket : Socket) (label : String) (received : Nat) (id : UInt32)
    (reply : Reply) (last : Bool) : List Event × Phase :=
  match Frame.ofResponse limit id reply.result reply.payload with
  | .error _ => ([closing socket], .ended)
  | .ok (_, segments) =>
    let frame := segments.flatten
    ([], .writing ⟨label, received, reply.result, frame⟩ frame last)

/-- Note an id; only a gap is worth an event. -/
def noteId (observer : Sequence.Observer) (id : UInt32) : List Event × Sequence.Observer :=
  match observer.observe id with
  | (.gap previous current, observer) => ([.gap previous current], observer)
  | (_, observer) => ([], observer)

/-- Judge a header. -/
def judge (limit : Nat) (socket : Socket) (header : CommandHeader) : List Event × Phase :=
  match validateCommand header limit with
  | .ok command => ([], .reading (.payload header command))
  | .error (.payloadTooLarge size max) =>
    let reason := ValidationError.payloadTooLarge size max
    respond limit socket refusedLabel 0 header.id (.status reason.resultCode) true
  | .error reason => ([], .reading (.refused header reason))

/-- What comes of a header or payload: what is done, what the handler is at next, and the states of
the observer and of the dispatcher. -/
structure Turn (σ : Type) where
  events : List Event
  phase : Phase
  observer : Sequence.Observer
  state : σ

/-- Act on what was read; `socket` is what remains after that. -/
def act {σ : Type} (service : Service σ) (now : Nat) (identity : IdentityKey)
    (observer : Sequence.Observer) (socket : Socket) (wanted : Wanted) (part : Bytes) (w : σ) :
    Turn σ :=
  match wanted with
  | .header =>
    match CommandHeader.decode? part with
    | none => ⟨[closing socket], .ended, observer, w⟩
    | some header =>
      let noted := noteId observer header.id
      let judged := judge service.limit socket header
      ⟨noted.1 ++ judged.1, judged.2, noted.2, w⟩
  | .payload header command =>
    let dispatched := service.dispatch now identity command part w
    let answer :=
      respond service.limit socket command.name part.length header.id dispatched.1 false
    ⟨.dispatched command part dispatched.1 :: answer.1, answer.2, observer, dispatched.2⟩
  | .refused header reason =>
    let answer :=
      respond service.limit socket refusedLabel 0 header.id (.status reason.resultCode) false
    ⟨answer.1, answer.2, observer, w⟩

/-- Whether a handler has ended. -/
def isEnded (h : Handler) : Bool :=
  match h.phase with
  | .ended => true
  | _ => false

/-- End a handler. -/
def finish (h : Handler) : List Event × Handler :=
  ([closing h.socket], { h with phase := .ended })

/-! ## Writing -/

/-- The response was written: go on with the next command, or end. -/
def conclude (now : Nat) (h : Handler) (response : Response) (last : Bool) :
    List Event × Handler :=
  if last then (.answered response :: h.finish.1, h.finish.2)
  else ([.answered response], { h with phase := .reading .header, since := now })

/-- Write on, as far as there is room. -/
def writeOn (now : Nat) (h : Handler) (response : Response) (rest : Bytes) (last : Bool) :
    List Event × Handler :=
  if h.socket.gone then h.finish
  else if h.outlet.refuses then ([], h)
  else
    let (n, outlet) := h.outlet.offer rest.length
    let sent : List Event := if n = 0 then [] else [.sent (rest.take n)]
    let h := { h with outlet := outlet }
    if n < rest.length then (sent, { h with phase := .writing response (rest.drop n) last })
    else
      let concluded := h.conclude now response last
      (sent ++ concluded.1, concluded.2)

/-! ## Going on -/

/-- How much a handler can still do with what it has. -/
def measure (h : Handler) : Nat :=
  2 * (h.soFar.length + h.socket.unread.length) + h.phase.weight

theorem weight_respond_le (limit : Nat) (socket : Socket) (label : String) (received : Nat)
    (id : UInt32) (reply : Reply) (last : Bool) :
    (respond limit socket label received id reply last).2.weight ≤ 1 := by
  unfold respond
  split <;> simp [Phase.weight]

theorem Phase.weight_le_two (phase : Phase) : phase.weight ≤ 2 := by
  unfold Phase.weight
  split <;> omega

/-- Whatever follows upon a part that was read weighs less than that part. -/
theorem weight_act_lt {σ : Type} (service : Service σ) (now : Nat) (identity : IdentityKey)
    (observer : Sequence.Observer) (socket : Socket) (wanted : Wanted) (part : Bytes) (w : σ) :
    (act service now identity observer socket wanted part w).phase.weight
      < 2 * wanted.need + (Phase.reading wanted).weight := by
  cases wanted with
  | header =>
    have hle := Phase.weight_le_two
      (act service now identity observer socket .header part w).phase
    have hneed : Wanted.header.need = 12 := rfl
    omega
  | payload header command =>
    have hle := weight_respond_le service.limit socket command.name part.length header.id
      (service.dispatch now identity command part w).1 false
    have hweight : (Phase.reading (.payload header command)).weight = 2 := rfl
    simp only [act, hweight]
    omega
  | refused header reason =>
    have hle := weight_respond_le service.limit socket refusedLabel 0 header.id
      (.status reason.resultCode) false
    have hweight : (Phase.reading (.refused header reason)).weight = 2 := rfl
    simp only [act, hweight]
    omega

/-- Writing reads nothing. -/
theorem measure_writeOn (now : Nat) (h : Handler) (response : Response) (rest : Bytes)
    (last : Bool) :
    (h.writeOn now response rest last).2.measure
      = 2 * (h.soFar.length + h.socket.unread.length)
        + (h.writeOn now response rest last).2.phase.weight := by
  have hread : (h.writeOn now response rest last).2.soFar = h.soFar
      ∧ (h.writeOn now response rest last).2.socket = h.socket := by
    unfold writeOn
    split
    · exact ⟨rfl, rfl⟩
    · split
      · exact ⟨rfl, rfl⟩
      · dsimp only
        split
        · exact ⟨rfl, rfl⟩
        · cases last <;> exact ⟨rfl, rfl⟩
  simp only [measure, hread.1, hread.2]

end Handler

/-- A completed read uses up what it reads. -/
theorem Socket.length_of_fill {s s' : Socket} {n : Nat} {soFar part : Bytes}
    (h : s.fill n soFar = (.finished part, s')) :
    s'.unread.length + n ≤ soFar.length + s.unread.length := by
  unfold Socket.fill at h
  simp only at h
  split at h
  · next hle =>
    obtain ⟨-, rfl⟩ := Prod.mk.inj h
    simp only [List.length_drop]
    omega
  · unfold Socket.drained at h
    simp only at h
    split at h
    · simp at h
    · split at h <;> simp at h

namespace Handler

/-- Go on until more has to arrive, or to be read by the client, or the end.  A handler that waits
for a header when the daemon is stopping ends. -/
def run {σ : Type} (service : Service σ) (now : Nat) (stopping : Bool) (h : Handler) (w : σ) :
    List Event × Handler × σ :=
  match _hphase : h.phase with
  | .ended => ([], h, w)
  | .writing response rest last =>
    let wrote := h.writeOn now response rest last
    if _hdone : wrote.2.phase.weight = 0 then
      let rest := run service now stopping wrote.2 w
      (wrote.1 ++ rest.1, rest.2)
    else (wrote.1, wrote.2, w)
  | .reading wanted =>
    if stopping && wanted.isHeader then (h.finish.1, h.finish.2, w)
    else
      match _hread : h.socket.fill wanted.need h.soFar with
      | (.waiting soFar, socket) => ([], { h with socket := socket, soFar := soFar }, w)
      | (.failed _, socket) =>
        let closed := finish { h with socket := socket }
        (closed.1, closed.2, w)
      | (.finished part, socket) =>
        let turn := act service now h.identity h.observer socket wanted part w
        let next : Handler :=
          { h with
            socket := socket
            phase := turn.phase
            soFar := []
            observer := turn.observer
            since := now }
        let rest := run service now stopping next turn.state
        (turn.events ++ rest.1, rest.2)
termination_by h.measure
decreasing_by
  · have hwrote := measure_writeOn now h response rest last
    have hdone : (h.writeOn now response rest last).2.phase.weight = 0 := _hdone
    have hbefore : h.measure = 2 * (h.soFar.length + h.socket.unread.length) + 1 := by
      rw [measure, _hphase]
      rfl
    omega
  · have hlen := Socket.length_of_fill _hread
    have hact := weight_act_lt service now h.identity h.observer socket wanted part w
    simp only [measure, _hphase, List.length_nil]
    omega

/-- Begin to serve a connection whose caller may be known. -/
def start (scope : IdentityScope) (uid : Option UInt32) (socket : Socket) (outlet : Outlet)
    (now : Nat) : List Event × Option Handler :=
  match uid with
  | none => ([.rejected (!socket.unread.isEmpty)], none)
  | some uid =>
    ([.started], some {
      identity := .resolve scope uid
      socket := socket
      outlet := outlet
      phase := .reading .header
      soFar := []
      observer := {}
      since := now })

/-- When a handler loses patience, if nothing arrives. -/
def expiry? (idle : Option Nat) (h : Handler) : Option Nat :=
  match h.phase with
  | .reading _ => idle.map (h.since + ·)
  | _ => none

end Handler
end TokenBroker
