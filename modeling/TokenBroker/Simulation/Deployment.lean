import TokenBroker.Daemon.Start
import TokenBroker.Metrics.Basic
import TokenBroker.Simulation.Caller
import TokenBroker.Stream.Buffer
/-!
# A daemon and its clients in memory

A host, the daemons that were started on it, and plain clients that send bytes of their choice, all
on one clock.  The clock moves only when somebody waits; whatever can happen without waiting has
happened when an operation ends.

A plain client reads only when it is told to wait for a response, and so a daemon may find no room
for what it writes.
-/

set_option autoImplicit false

namespace TokenBroker
namespace Simulation

/-- A daemon that was started, whether or not it was stopped since. -/
structure Instance where
  running : Daemon.Running Tree
  /-- What its handlers have done. -/
  events : List Handler.Event
  /-- Whether it is a service of one's own: its socket file stays when it stops, and what it has
  counted can be asked for. -/
  isOwn : Bool

namespace Instance

/-- Give one input to a daemon.  The answer is the daemon, the tree and what happened. -/
def next (i : Instance) (now : Nat) (input : Server.Input) (t : Tree) :
    List Happening × Instance × Tree :=
  let (happenings, server, t) := i.running.server.next i.running.service now input t
  (happenings,
    { i with
      running := { i.running with server := server }
      events := i.events ++ happenings.map (·.2) },
    t)

/-- Whether a daemon has to do with a client. -/
def knows (i : Instance) (client : Nat) : Bool :=
  i.running.server.active.any (fun item => item.1 = client)
    || i.running.server.waiting.any (fun c => c.client = client)

/-- Whether a daemon is accepting clients. -/
def isRunning (i : Instance) : Bool := !i.running.server.stopping

end Instance

/-- A host with daemons and clients. -/
structure Deployment where
  host : Host
  now : Nat
  instances : List Instance
  clients : List Caller
  nextClient : Nat

namespace Deployment

/-- A host with nothing running on it. -/
def ofTree (t : Tree) : Deployment := ⟨.ofTree t, 0, [], [], 0⟩

/-! ## What follows upon an input -/

/-- Give a client what happens on its connection. -/
def inform (clients : List Caller) (happening : Happening) : List Caller :=
  match happening.2.arrival? with
  | none => clients
  | some arrival =>
    clients.map fun c =>
      if c.number = happening.1 then { c with socket := c.socket.receive arrival } else c

/-- Give one input to the daemons that it concerns. -/
def feed (d : Deployment) (concerns : Instance → Bool) (input : Server.Input) : Deployment :=
  let (instances, tree, clients) :=
    d.instances.foldl (fun (instances, tree, clients) i =>
      if concerns i then
        let (happenings, i, tree) := i.next d.now input tree
        (instances ++ [i], tree, happenings.foldl inform clients)
      else (instances ++ [i], tree, clients)) ([], d.host.tree, d.clients)
  { d with host := { d.host with tree := tree }, instances := instances, clients := clients }

/-- Let something arrive from a client. -/
def arrive (d : Deployment) (client : Nat) (arrival : Arrival) : Deployment :=
  d.feed (fun i => i.knows client) (.deliver client arrival)

/-! ## Time -/

/-- When the next client will have kept a daemon waiting for too long. -/
def nextExpiry? (d : Deployment) : Option Nat :=
  (d.instances.filterMap fun i => i.running.server.nextExpiry? i.running.service.idle).min?

/-- An upper bound on how many connections can run out of time. -/
def connectionCount (d : Deployment) : Nat :=
  d.instances.foldl (fun n i =>
    n + i.running.server.active.length + i.running.server.waiting.length) 0

/-- Move the clock to the next expiry, if it is not after `limit`. -/
def expireOnce? (d : Deployment) (limit : Nat) : Option Deployment :=
  match d.nextExpiry? with
  | none => none
  | some time =>
    if time ≤ limit then
      some ({ d with now := max d.now time }.feed (fun _ => true) .tick)
    else none

/-- Move the clock, from expiry to expiry; `fuel` bounds their number. -/
def advanceWithin (fuel : Nat) (d : Deployment) (time : Nat) : Deployment :=
  match fuel with
  | 0 => { d with now := max d.now time }
  | fuel + 1 =>
    match d.expireOnce? time with
    | none => { d with now := max d.now time }
    | some d => advanceWithin fuel d time

/-- Let time pass up to a point. -/
def advanceTo (d : Deployment) (time : Nat) : Deployment :=
  advanceWithin (d.connectionCount + 1) d time

/-- Let some time pass. -/
def sleep (d : Deployment) (duration : Nat) : Deployment := d.advanceTo (d.now + duration)

/-! ## Daemons -/

/-- Stop the daemons that are running; the answer is whether there were any. -/
def stop (d : Deployment) : Bool × Deployment :=
  let stopped := d.instances.filter Instance.isRunning
  let d := d.feed Instance.isRunning .stop
  (!stopped.isEmpty,
    { d with
      host := stopped.foldl (fun host i =>
        if i.isOwn then host.release i.running.listener
        else Daemon.afterStop host i.running) d.host })

/-- Add a daemon that has started.  One that was running is stopped then. -/
def launched (d : Deployment) (isOwn : Bool) (running : Daemon.Running Tree) (host : Host) :
    Deployment :=
  let d := ({ d with host := host }.stop).2
  { d with instances := d.instances ++ [⟨running, [], isOwn⟩] }

/-- Take in how the start of a daemon ended. -/
def afterStart (d : Deployment) (isOwn : Bool)
    (result : Except StartError (Daemon.Running Tree) × Host) :
    Except StartError Unit × Deployment :=
  match result with
  | (.error e, host) => (.error e, { d with host := host })
  | (.ok running, host) => (.ok (), d.launched isOwn running host)

/-- Start the daemon as it is. -/
def start (d : Deployment) (plan : DaemonPlan) : Except StartError Unit × Deployment :=
  d.afterStart false (Daemon.start d.host plan)

/-- Start to serve on an endpoint with a service of one's own. -/
def serve (d : Deployment) (endpoint : Endpoint) (service : Service Tree) (maxConnections : Nat) :
    Except StartError Unit × Deployment :=
  d.afterStart true (Daemon.serve d.host endpoint service maxConnections)

/-- What the service of one's own that was started last has counted. -/
def metrics? (d : Deployment) : Option Metrics :=
  ((d.instances.filter Instance.isOwn).getLast?).map fun i => Metrics.ofEvents i.events

/-! ## Clients -/

/-- Hang up, if there is a client of this name. -/
def close (d : Deployment) (name : String) : Deployment :=
  match d.clients.find? fun c => c.name = name with
  | none => d
  | some c =>
    let d := d.arrive c.number c.socket.farewell
    { d with clients := d.clients.filter fun other => other.name ≠ name }

/-- Connect a client of a uid to an endpoint; `outlet` says how it reads. -/
def connect (d : Deployment) (name : String) (endpoint : Endpoint) (uid : UInt32)
    (outlet : Outlet) : Except IoError Unit × Deployment :=
  match d.host.connect? endpoint with
  | .error e => (.error e, d)
  | .ok listener =>
    let d := d.close name
    let number := d.nextClient
    let d :=
      { d with
        clients := d.clients ++ [({ name := name, number := number } : Caller)]
        nextClient := d.nextClient + 1 }
    (.ok (), d.feed (fun i => i.isRunning && i.running.listener = listener)
      (.connect number (some uid) outlet))

/-- Whether a daemon serves a client. -/
def serves (d : Deployment) (client : Nat) : Bool :=
  d.instances.any fun i => i.running.server.active.any fun item => item.1 = client

/-- How many bytes of a client no daemon has read, because none has accepted it yet or because the
handler is busy writing. -/
def unheard (d : Deployment) (client : Nat) : Nat :=
  (d.instances.flatMap fun i =>
    ((i.running.server.waiting.filter fun c => c.client = client).flatMap fun c => c.socket.unread)
      ++ (i.running.server.active.filter fun item => item.1 = client).flatMap fun item =>
        item.2.socket.unread).length

/-- Offer bytes on a connection; the answer is for how many of them there was room. -/
def offer (d : Deployment) (name : String) (bytes : Bytes) : Nat × Deployment :=
  match d.clients.find? fun c => c.name = name with
  | none => (0, d)
  | some c =>
    let (n, _) := (({} : Buffer).offer (d.unheard c.number)).2.offer bytes.length
    (n, if n = 0 then d else d.arrive c.number (.bytes (bytes.take n)))

/-- Go on sending, `rest` being left.  Where nobody reads, it is on its way all the same. -/
def sendRest (d : Deployment) (name : String) (rest : Bytes) : Bool × Deployment :=
  if _h : rest = [] then (true, d)
  else
    match d.clients.find? fun c => c.name = name with
    | none => (false, d)
    | some c =>
      if c.socket.gone then (false, d)
      else
        let (n, d') := d.offer name rest
        if _hn : n = 0 then (true, d.arrive c.number (.bytes rest))
        else sendRest d' name (rest.drop n)
termination_by rest.length
decreasing_by
  have : 0 < rest.length := List.length_pos_iff.2 _h
  simp only [List.length_drop]
  omega

/-- Send bytes; the answer is whether the other end was there to take them all, and the client has
not said that it has finished. -/
def send (d : Deployment) (name : String) (bytes : Bytes) : Bool × Deployment :=
  match d.clients.find? fun c => c.name = name with
  | none => (false, d)
  | some c => if c.finished && !bytes.isEmpty then (false, d) else d.sendRest name bytes

/-- Send nothing any more; the answer is whether there is such a client. -/
def finish (d : Deployment) (name : String) : Bool × Deployment :=
  match d.clients.find? fun c => c.name = name with
  | none => (false, d)
  | some c =>
    let d :=
      { d with
        clients := d.clients.map fun other : Caller =>
          if other.name = name then { other with finished := true } else other }
    (true, d.arrive c.number .finish)

/-- What a client finds that waits for a response. -/
inductive Reception where
  | response (header : ResponseHeader) (payload : Bytes)
  | silent
  /-- The connection has ended; what came after the last whole response is given. -/
  | closed (leftover : Bytes)

/-- The deployment with another state of a client. -/
def setClient (d : Deployment) (c : Caller) : Deployment :=
  { d with
    clients := d.clients.map fun other : Caller => if other.number = c.number then c else other }

/-- Have a client read until it has `lacking` bytes more, or nothing is left to read.  The daemon
goes on when the client has read what there was. -/
def fetch (d : Deployment) (name : String) (lacking : Nat) : Deployment :=
  if _h : lacking = 0 then d
  else
    match d.clients.find? fun c => c.name = name with
    | none => d
    | some c =>
      let (n, c) := c.readOn
      if _hn : n = 0 then d
      else
        let d := d.setClient c
        fetch (d.feed (fun i => i.knows c.number) (.consume c.number n)) name (lacking - n)
termination_by lacking

/-- Have a client read what it lacks. -/
def fetchLacking (d : Deployment) (name : String) : Deployment :=
  match d.clients.find? fun c => c.name = name with
  | none => d
  | some c => d.fetch name c.lacking

/-- What a client finds now that waits for a response: first for its header, then for the rest. -/
def look (d : Deployment) (name : String) : Reception × Deployment :=
  let d := (d.fetchLacking name).fetchLacking name
  match d.clients.find? fun c => c.name = name with
  | none => (.closed [], d)
  | some c =>
    match c.takeResponse? with
    | some ((header, payload), c) => (.response header payload, d.setClient c)
    | none => if c.socket.ended then (.closed c.held, d) else (.silent, d)

/-- Wait for a response, looking again whenever something may have happened. -/
def awaitWithin (fuel : Nat) (d : Deployment) (name : String) (limit : Nat) :
    Reception × Deployment :=
  match fuel, d.look name with
  | fuel + 1, (.silent, d) =>
    match d.expireOnce? limit with
    | some d => awaitWithin fuel d name limit
    | none => (.silent, { d with now := max d.now limit })
  | 0, (.silent, d) => (.silent, { d with now := max d.now limit })
  | _, result => result

/-- Wait for a response, for so many milliseconds at most. -/
def await (d : Deployment) (name : String) (patience : Nat) : Reception × Deployment :=
  awaitWithin (d.connectionCount + 1) d name (d.now + patience)

end Deployment
end Simulation
end TokenBroker
