import TokenBroker.Control.Program
import TokenBroker.Daemon.Program
import TokenBroker.Simulation.Deployment
/-!
# A client of a deployment

A deployment as the far side of one of its clients, one that keeps reading.  What a daemon sends to
it is kept in the deployment until the client waits; what will come later is found by letting the
daemons' own time limits run out.

`Deployment.surroundings` adds the files of the host, which is all that the control program needs.
-/

set_option autoImplicit false

namespace TokenBroker
namespace Simulation

/-- What a socket was told, as if it had been told just now. -/
def mailOf (socket : Socket) : List Arrival :=
  (if socket.unread.isEmpty then [] else [.bytes socket.unread])
    ++ (if socket.gone then [.hangUp socket.reset] else [])

namespace Deployment

/-- What is kept for a client. -/
def mail (d : Deployment) (name : String) : Schedule :=
  match d.clients.find? fun c => c.name = name with
  | none => []
  | some c => (mailOf c.socket).map fun arrival => (d.now, arrival)

/-- Nothing is kept for a client any more. -/
def clearMail (d : Deployment) (name : String) : Deployment :=
  { d with
    clients := d.clients.map fun c => if c.name = name then { c with socket := {} } else c }

/-- What will come for a client if nobody does anything; `fuel` bounds how many time limits are
looked at. -/
def mailWithin (fuel : Nat) (d : Deployment) (name : String) : Schedule :=
  d.mail name ++
    match fuel with
    | 0 => []
    | fuel + 1 =>
      match d.nextExpiry? with
      | none => []
      | some time =>
        match (d.clearMail name).expireOnce? time with
        | none => []
        | some later => mailWithin fuel later name

/-- Take in how a client closes its connection.  Bytes kept for it are lost as well. -/
def hangUp (d : Deployment) (name : String) (arrival : Arrival) : Deployment :=
  match d.clients.find? fun c => c.name = name with
  | none => d
  | some c =>
    let arrival := if c.socket.unread.isEmpty then arrival else c.socket.farewell
    let d := d.arrive c.number arrival
    { d with clients := d.clients.filter fun other => other.name ≠ name }

/-- Open the connection of a client. -/
def attempt (name : String) (uid : UInt32) (endpoint : Endpoint) (d : Deployment) :
    Attempt × Deployment :=
  match d.connect name endpoint uid .flowing with
  | (.ok (), d) => (.done, d)
  | (.error e, d) => (.failed e, d)

/-- When there is room for a client that found too little: a daemon that serves it reads at once,
and nobody else does. -/
def roomAt (name : String) (d : Deployment) : Option Nat :=
  match d.clients.find? fun c => c.name = name with
  | none => none
  | some c => if d.serves c.number then some d.now else none

/-- A deployment as the far side of a client of some user. -/
def remote (name : String) (uid : UInt32) : Remote Deployment where
  now := Deployment.now
  connect := attempt name uid
  offer := fun bytes d => d.offer name bytes
  roomAt := roomAt name
  arrivals := fun _ d => mailWithin (d.connectionCount + 1) d name
  waitUntil := fun _ time d => (d.advanceTo time).clearMail name
  close := fun arrival d => d.hangUp name arrival

/-- A deployment with its files as the surroundings of a program of some user. -/
def surroundings (name : String) (uid : UInt32) : Control.Surroundings Deployment where
  remote := remote name uid
  readFile := fun path d => d.host.tree.readPath path
  writeFile := fun path content d =>
    match d.host.tree.writePath path content with
    | .ok t => (.ok (), { d with host := { d.host with tree := t } })
    | .error e => (.error e, d)

/-- Start the daemon from its command line. -/
def launch (d : Deployment) (words : List String) : Option CommandLine.Report × Deployment :=
  match Daemon.launch d.host words with
  | (.error report, host) => (some report, { d with host := host })
  | (.ok running, host) =>
    (none, d.launched false running host)

/-- Listen on an endpoint without ever answering. -/
def listenMutely (d : Deployment) (endpoint : Endpoint) : Deployment :=
  { d with host := (d.host.bind endpoint).2 }

end Deployment
end Simulation
end TokenBroker
