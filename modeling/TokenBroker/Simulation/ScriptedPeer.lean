import TokenBroker.Client.Basic
import TokenBroker.Endpoint.Host
import TokenBroker.Stream.Buffer
/-!
# A scripted peer for a client

The far side of a client, played by a peer that follows a script: for each connection it accepts, a
list of instructions, which say when to read a command, what to send, and when to hang up.
Connections beyond the script are closed at once.

What will arrive at the client is found by letting the instructions run as far as they come without
further commands; `PeerConnection.run` does this up to a point in time, or without a limit.

Both sides may have to wait for room.  What the client writes stays on its way while the peer is not
told to read.  What the peer sends stays on its way while the client does not read, and a peer that
finds no room goes on with its script only when the client has read enough.
-/

set_option autoImplicit false

namespace TokenBroker
namespace Simulation

/-- The id that a scripted response carries. -/
inductive ScriptedId where
  | fixed (id : UInt32)
  /-- So much above the id of the command that was read last on the connection. -/
  | relative (delta : UInt32)

/-- Something to do on a connection. -/
inductive Instruction where
  | readCommand
  | pause (duration : Nat)
  | resumeAt (time : Nat)
  | send (bytes : Bytes)
  | respond (id : ScriptedId) (result : UInt32) (size : UInt32) (payload : Bytes)
  | hangUp

/-- A command that the peer has read. -/
structure Seen where
  connection : Nat
  header : CommandHeader
  payload : Bytes

/-- A connection that the peer has accepted. -/
structure PeerConnection where
  number : Nat
  /-- The listener that it was accepted by. -/
  listener : Nat
  /-- What is still to be done. -/
  script : List Instruction
  /-- What has arrived, from the first command on that was not read to its end. -/
  inbox : Bytes := []
  /-- How many of these bytes were read. -/
  begun : Nat := 0
  /-- The others, as they take up room. -/
  incoming : Buffer := {}
  /-- What was sent and the client has not read. -/
  outgoing : Buffer := {}
  /-- How many bytes the client reads as they come. -/
  wanted : Nat := 0
  /-- Whether more can arrive. -/
  clientGone : Bool := false
  /-- Since when the peer could go on. -/
  ready : Nat
  /-- The id of the command that was read last. -/
  lastId : UInt32 := 0

/-- What a peer does on a connection. -/
structure PeerRun where
  sent : Schedule
  seen : List Seen
  rest : PeerConnection

/-- A run that begins by sending something. -/
def PeerRun.sending (r : PeerRun) (time : Nat) (bytes : Bytes) : PeerRun :=
  if bytes.isEmpty then r else { r with sent := (time, .bytes bytes) :: r.sent }

namespace PeerConnection

/-- The header of the command that is being read, once it was read. -/
def header? (c : PeerConnection) : Option CommandHeader :=
  if c.begun < Header.size then none else CommandHeader.decode? (c.inbox.take Header.size)

/-- Read what the command lacks of its header, or else of its payload. -/
def readOn (c : PeerConnection) : PeerConnection :=
  let whole := Header.size + (c.header?.map fun header => header.dataSize.toNat).getD 0
  let n := min (whole - c.begun) c.incoming.size
  { c with begun := c.begun + n, incoming := c.incoming.consume n }

/-- The command that was read, if it is complete, and the connection without it. -/
def takeCommand? (c : PeerConnection) : Option ((CommandHeader × Bytes) × PeerConnection) :=
  match c.header? with
  | none => none
  | some header =>
    let n := header.dataSize.toNat
    if c.begun < Header.size + n then none
    else
      let rest := c.inbox.drop Header.size
      some ((header, rest.take n), { c with inbox := rest.drop n, begun := 0, lastId := header.id })

/-- The bytes of a scripted response. -/
def response (lastId : UInt32) (id : ScriptedId) (result size : UInt32) (payload : Bytes) : Bytes :=
  let id :=
    match id with
    | .fixed id => id
    | .relative delta => lastId + delta
  (ResponseHeader.mk id result size).encode ++ payload

/-- The client reads what it wants of what is there. -/
def serveClient (c : PeerConnection) : PeerConnection :=
  let n := min c.wanted c.outgoing.size
  { c with outgoing := c.outgoing.consume n, wanted := c.wanted - n }

/-- Write once; the answer is for how many of `n` bytes there was room.  If there is none, the
client reads first. -/
def put (c : PeerConnection) (n : Nat) : Nat × PeerConnection :=
  let (taken, outgoing) := c.outgoing.offer n
  let c := { c with outgoing := outgoing }
  if taken = 0 then
    let c := c.serveClient
    let (taken, outgoing) := c.outgoing.offer n
    (taken, { c with outgoing := outgoing })
  else (taken, c)

/-- Write until there is no room; the answer is how many of `n` bytes were written. -/
def push (c : PeerConnection) (n : Nat) : Nat × PeerConnection :=
  if _h : n = 0 then (0, c)
  else
    let (taken, c) := c.put n
    if _htaken : taken = 0 then (0, c)
    else
      let (more, c) := push c (n - taken)
      (taken + more, c)
termination_by n

/-- Hang up, with nothing left to do. -/
def hangUp (c : PeerConnection) : PeerRun :=
  ⟨[(c.ready, .hangUp (c.incoming.size ≠ 0))], [], { c with script := [] }⟩

/-- Send bytes, and go on with the script when all are written. -/
def sendThen (c : PeerConnection) (bytes : Bytes) (later : List Instruction)
    (goOn : PeerConnection → PeerRun) : PeerRun :=
  if c.clientGone && !bytes.isEmpty then c.hangUp
  else
    let (n, rest) := c.push bytes.length
    let run :=
      if n < bytes.length then
        ⟨[], [], { rest with script := .send (bytes.drop n) :: later }⟩
      else goOn rest
    run.sending c.ready (bytes.take n)

/-- Follow the script, up to a point in time if there is a limit. -/
def runScript (limit : Option Nat) (c : PeerConnection) : List Instruction → PeerRun
  | [] => ⟨[], [], { c with script := [] }⟩
  | .readCommand :: later =>
    let c := c.readOn.readOn
    match c.takeCommand? with
    | some ((header, payload), c) =>
      let r := runScript limit c later
      { r with seen := ⟨c.number, header, payload⟩ :: r.seen }
    | none =>
      if c.clientGone then c.hangUp else ⟨[], [], { c with script := .readCommand :: later }⟩
  | .pause duration :: later =>
    let time := c.ready + duration
    let c := c.serveClient
    if Line.within time limit then runScript limit { c with ready := time } later
    else ⟨[], [], { c with script := .resumeAt time :: later }⟩
  | .resumeAt time :: later =>
    if Line.within time limit then runScript limit { c with ready := time } later
    else ⟨[], [], { c with script := .resumeAt time :: later }⟩
  | .send bytes :: later => c.sendThen bytes later fun c => runScript limit c later
  | .respond id result size payload :: later =>
    c.sendThen (response c.lastId id result size payload) later fun c => runScript limit c later
  | .hangUp :: _ => c.hangUp

/-- Follow the script from where it stands at a time `now`.  The client reads `wanted` bytes as they
come.  It reads before the peer goes on, and after it. -/
def run (now : Nat) (limit : Option Nat) (wanted : Nat) (c : PeerConnection) : PeerRun :=
  let c := serveClient { c with wanted := wanted, ready := max c.ready now }
  let r := runScript limit c c.script
  { r with rest := { r.rest.serveClient with wanted := 0 } }

/-- When there is room for a client that found too little: as soon as the peer comes to read enough.
`fuel` bounds how many pauses are looked at. -/
def roomAtWithin (fuel : Nat) (time : Nat) (c : PeerConnection) : Option Nat :=
  let rest := (c.run time (some time) 0).rest
  if !rest.incoming.refusing then some time
  else
    match fuel, rest.script with
    | fuel + 1, .resumeAt later :: _ => roomAtWithin fuel later rest
    | _, _ => none

/-- When there is room for a client that found too little, from a point in time on. -/
def roomAt (time : Nat) (c : PeerConnection) : Option Nat :=
  c.roomAtWithin (c.script.length + 1) time

/-- Let the client write; the answer is for how many bytes there was room. -/
def offer (c : PeerConnection) (now : Nat) (bytes : Bytes) : Nat × PeerConnection :=
  let (n, incoming) := c.incoming.offer bytes.length
  (n, { c with
    inbox := c.inbox ++ bytes.take n, incoming := incoming, ready := max c.ready now })

/-- Have the peer hang up at once. -/
def cutOff (c : PeerConnection) (now : Nat) : PeerConnection :=
  { c with script := [.hangUp], ready := max c.ready now }

end PeerConnection

/-- A peer, its host, and the connections it has accepted. -/
structure ScriptedPeer where
  host : Host
  endpoint : Endpoint
  listener : Option Nat
  now : Nat
  /-- The scripts of the connections to come. -/
  scripts : List (List Instruction)
  accepted : Nat
  /-- The connection of the client. -/
  current : Option PeerConnection
  /-- Connections that the client has left. -/
  left : List PeerConnection
  seen : List Seen

namespace ScriptedPeer

/-- Begin to listen, if the endpoint is free. -/
def listen (p : ScriptedPeer) : ScriptedPeer :=
  match p.host.bind p.endpoint with
  | (.ok listener, host) => { p with host := host, listener := some listener }
  | (.error _, host) => { p with host := host }

/-- What is left to do when the script of a connection is at its end: one more command is read. -/
def closing : List Instruction := [.readCommand, .hangUp]

/-- Accept the client. -/
def accept (p : ScriptedPeer) (listener : Nat) : ScriptedPeer :=
  let script :=
    match p.scripts with
    | [] => [.hangUp]
    | script :: _ => script ++ closing
  { p with
    scripts := p.scripts.tail
    accepted := p.accepted + 1
    current :=
      some { number := p.accepted, listener := listener, script := script, ready := p.now } }

/-- Open a connection of the client. -/
def connect (endpoint : Endpoint) (p : ScriptedPeer) : Attempt × ScriptedPeer :=
  match p.host.connect? endpoint with
  | .error e => (.failed e, p)
  | .ok listener => (.done, p.accept listener)

/-- Take in bytes of the client, as far as there is room. -/
def offer (bytes : Bytes) (p : ScriptedPeer) : Nat × ScriptedPeer :=
  match p.current with
  | none => (0, p)
  | some c =>
    let (n, c) := c.offer p.now bytes
    (n, { p with current := some c })

/-- When there will be room for the client. -/
def roomAt (p : ScriptedPeer) : Option Nat := p.current.bind fun c => c.roomAt p.now

/-- What will arrive at the client if it reads `wanted` bytes. -/
def arrivals (wanted : Nat) (p : ScriptedPeer) : Schedule :=
  match p.current with
  | none => []
  | some c => (c.run p.now none wanted).sent

/-- Let time pass, the client reading `wanted` bytes. -/
def waitUntil (wanted time : Nat) (p : ScriptedPeer) : ScriptedPeer :=
  let time := max time p.now
  let runs := p.left.map fun c => c.run p.now (some time) 0
  let running := p.current.map fun c => c.run p.now (some time) wanted
  { p with
    now := time
    current := running.map PeerRun.rest
    left := runs.map PeerRun.rest
    seen := p.seen ++ runs.flatMap PeerRun.seen ++ (running.map PeerRun.seen).getD [] }

/-- The client has left. -/
def close (_ : Arrival) (p : ScriptedPeer) : ScriptedPeer :=
  { p with
    current := none
    left := p.left ++ (p.current.map fun c =>
      { c with clientGone := true, ready := max c.ready p.now }).toList }

/-- A scripted peer as the far side of a client. -/
def remote : Remote ScriptedPeer where
  now := ScriptedPeer.now
  connect := connect
  offer := offer
  roomAt := roomAt
  arrivals := arrivals
  waitUntil := waitUntil
  close := close

/-- Stop listening and hang up on everybody who was accepted by the present listener; the socket
file goes, too. -/
def unlisten (p : ScriptedPeer) : ScriptedPeer :=
  match p.listener with
  | none => p
  | some listener =>
    { p with
      host := (p.host.release listener).cleanup p.endpoint
      listener := none
      current := p.current.map fun c => if c.listener = listener then c.cutOff p.now else c
      left := p.left.filter fun c => c.listener ≠ listener }

/-- The commands seen so far, which are then forgotten. -/
def takeSeen (p : ScriptedPeer) : List Seen × ScriptedPeer := (p.seen, { p with seen := [] })

end ScriptedPeer
end Simulation
end TokenBroker
