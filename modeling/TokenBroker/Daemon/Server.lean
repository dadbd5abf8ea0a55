import TokenBroker.Daemon.Handler
/-!
# Serving many connections

The daemon serves at most as many connections at a time as it has permits; the others wait in the
order in which they came.  A `Server` is a machine on inputs, each of which comes at a time:

* a client connects, or something arrives from it, or it reads what was written to it;
* time passes, and clients that keep the daemon waiting for too long are dropped;
* accepting a client fails, which changes nothing;
* the daemon is told to stop: it accepts nobody any more, turns away those who wait, and ends the
  handlers as each comes to the end of its command.

What happens is a list of events of handlers, each with the client it concerns.
-/

set_option autoImplicit false

namespace TokenBroker

/-- A client that is not served yet. -/
structure Waiting where
  client : Nat
  /-- The uid that the operating system vouches for, if it does. -/
  uid : Option UInt32
  socket : Socket
  outlet : Outlet

/-- The connections of a daemon. -/
structure Server where
  /-- How many connections may be served at a time. -/
  permits : Nat
  /-- The clients that wait to be accepted, the first to come first. -/
  waiting : List Waiting
  /-- The connections being served. -/
  active : List (Nat × Handler)
  stopping : Bool

/-- What happens on the connection of a client. -/
abbrev Happening := Nat × Handler.Event

namespace Server

/-- A server that nobody has connected to.  A limit of zero counts as one. -/
def ofLimit (maxConnections : Nat) : Server := ⟨max 1 maxConnections, [], [], false⟩

/-- What can come to a server. -/
inductive Input where
  | connect (client : Nat) (uid : Option UInt32) (outlet : Outlet)
  | deliver (client : Nat) (arrival : Arrival)
  /-- A client has read so many bytes. -/
  | consume (client : Nat) (count : Nat)
  | acceptFailed
  | tick
  | stop

/-- Events of a handler as happenings of its client. -/
def tagged (client : Nat) (events : List Handler.Event) : List Happening :=
  events.map fun event => (client, event)

/-- What is known after some connections were run: what happened, which are still served, and the
state of the dispatcher. -/
structure Progress (σ : Type) where
  happenings : List Happening
  active : List (Nat × Handler)
  state : σ

/-- Run one more connection, and keep it unless it ends. -/
def Progress.runNext {σ : Type} (service : Service σ) (now : Nat) (stopping : Bool)
    (p : Progress σ) (client : Nat) (h : Handler) : Progress σ :=
  let (events, h, state) := h.run service now stopping p.state
  { happenings := p.happenings ++ tagged client events
    active := if h.isEnded then p.active else p.active ++ [(client, h)]
    state := state }

/-- Run every connection that is served. -/
def runActive {σ : Type} (service : Service σ) (now : Nat) (stopping : Bool)
    (active : List (Nat × Handler)) (w : σ) : Progress σ :=
  active.foldl (fun p (client, h) => p.runNext service now stopping client h) ⟨[], [], w⟩

/-- Accept clients while there are permits.  The answer includes those that go on waiting. -/
def acceptWaiting {σ : Type} (service : Service σ) (now permits : Nat) (p : Progress σ) :
    List Waiting → Progress σ × List Waiting
  | [] => (p, [])
  | c :: rest =>
    if p.active.length < permits then
      match Handler.start service.scope c.uid c.socket c.outlet now with
      | (events, none) =>
        acceptWaiting service now permits
          { p with happenings := p.happenings ++ tagged c.client events } rest
      | (events, some h) =>
        let p := { p with happenings := p.happenings ++ tagged c.client events }
        acceptWaiting service now permits (p.runNext service now false c.client h) rest
    else (p, c :: rest)

/-- Run what can run, and accept clients into the places that become free. -/
def resume {σ : Type} (service : Service σ) (now : Nat) (s : Server) (w : σ) :
    List Happening × Server × σ :=
  let p := runActive service now s.stopping s.active w
  if s.stopping then (p.happenings, { s with active := p.active }, p.state)
  else
    let (p, waiting) := acceptWaiting service now s.permits p s.waiting
    (p.happenings, { s with active := p.active, waiting := waiting }, p.state)

/-- Whether a connection has kept the daemon waiting for too long. -/
def isOverdue (idle : Option Nat) (now : Nat) (h : Handler) : Bool :=
  match h.expiry? idle with
  | some time => time ≤ now
  | none => false

/-- End the connections that have kept the daemon waiting for too long. -/
def dropOverdue (idle : Option Nat) (now : Nat) (active : List (Nat × Handler)) :
    List Happening × List (Nat × Handler) :=
  ((active.filter fun item => isOverdue idle now item.2).flatMap
      fun (client, h) => tagged client h.finish.1,
    active.filter fun item => !isOverdue idle now item.2)

/-- Let something arrive on the socket of a client, served or not. -/
def receive (s : Server) (client : Nat) (arrival : Arrival) : Server :=
  { s with
    active := s.active.map fun (other, h) =>
      if other = client then (other, { h with socket := h.socket.receive arrival }) else (other, h)
    waiting := s.waiting.map fun c =>
      if c.client = client then { c with socket := c.socket.receive arrival } else c }

/-- Let a client read so many bytes of what was written to it. -/
def makeRoom (s : Server) (client : Nat) (count : Nat) : Server :=
  { s with
    active := s.active.map fun (other, h) =>
      if other = client then (other, { h with outlet := h.outlet.consume count })
      else (other, h) }

/-- Take one input at a time `now`. -/
def next {σ : Type} (service : Service σ) (now : Nat) (input : Input) (s : Server) (w : σ) :
    List Happening × Server × σ :=
  match input with
  | .connect client uid outlet =>
    if s.stopping then ([], s, w)
    else resume service now { s with waiting := s.waiting ++ [⟨client, uid, {}, outlet⟩] } w
  | .deliver client arrival => resume service now (s.receive client arrival) w
  | .consume client count => resume service now (s.makeRoom client count) w
  | .acceptFailed => ([], s, w)
  | .tick =>
    let (dropped, active) := dropOverdue service.idle now s.active
    let (happenings, s, w) := resume service now { s with active := active } w
    (dropped ++ happenings, s, w)
  | .stop =>
    let refused := s.waiting.flatMap fun c => tagged c.client [.rejected true]
    let (happenings, s, w) := resume service now { s with stopping := true, waiting := [] } w
    (refused ++ happenings, s, w)

/-- Take inputs in order, each at its time. -/
def run {σ : Type} (service : Service σ) (s : Server) (w : σ) :
    List (Nat × Input) → List Happening × Server × σ
  | [] => ([], s, w)
  | (now, input) :: rest =>
    let (happenings, s, w) := s.next service now input w
    let (more, s, w) := s.run service w rest
    (happenings ++ more, s, w)

/-- When the next connection will have kept the daemon waiting for too long. -/
def nextExpiry? (idle : Option Nat) (s : Server) : Option Nat :=
  (s.active.filterMap fun item => item.2.expiry? idle).min?

/-- Whether nobody is served and nobody waits. -/
def isIdle (s : Server) : Bool := s.active.isEmpty && s.waiting.isEmpty

end Server

/-- What a client gets to see of an event. -/
def Handler.Event.arrival? : Handler.Event → Option Arrival
  | .sent bytes => some (.bytes bytes)
  | .ended reset => some (.hangUp reset)
  | .rejected reset => some (.hangUp reset)
  | _ => none

end TokenBroker
