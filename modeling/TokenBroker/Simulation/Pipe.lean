import TokenBroker.Frame.Codec
import TokenBroker.Stream.Buffer
/-!
# Two connections joined to each other

Both ends of one stream, with an operation on one of them at a time.  What one end writes has
arrived at the other when the next operation begins, as far as there was room for it; a writer who
finds no room waits in vain, because nobody reads meanwhile.
-/

set_option autoImplicit false

namespace TokenBroker
namespace Simulation

/-- Which end of the stream. -/
inductive Side where
  | left
  | right
  deriving DecidableEq

/-- The other end. -/
def Side.other : Side → Side
  | left => right
  | right => left

/-- An end of a stream, and the bytes on their way to it. -/
structure PipeEnd where
  socket : Socket := {}
  incoming : Buffer := {}

/-- The two ends of a stream; an end that is closed is gone. -/
structure Pipe where
  left : Option PipeEnd
  right : Option PipeEnd

/-- An operation on one end.  Timeouts are in milliseconds. -/
inductive PipeAction where
  | write (bytes : Bytes)
  | writeSegments (segments : List Bytes)
  | read (n : Nat) (timeout : Option Nat)
  | readSegments (lengths : List Nat) (timeout : Option Nat)
  | waitData (timeout : Option Nat)
  | isAlive
  | isOpen
  | credentials
  | close
  | sendCommand (id cmd : UInt32) (payload : Bytes)
  | sendResponse (id : UInt32) (result : ResultCode) (payload : Bytes)
  | recvHeader (timeout : Option Nat)
  | recvResponse (timeout : Option Nat)
  | recvPayload (size : UInt32) (timeout : Option Nat)

/-- What an operation that succeeds reports. -/
inductive PipeReport where
  | done
  | wrote (count : Nat)
  | read (bytes : Bytes)
  | segments (segments : List Bytes)
  | ready
  | verdict (value : Bool)
  /-- The credentials of the other end are those of the same user. -/
  | ownUser
  | command (header : CommandHeader)
  | responseHeader (header : ResponseHeader)
  | response (header : ResponseHeader) (payload : Bytes)
  | payload (bytes : Bytes)

namespace Pipe

/-- A fresh pair of ends. -/
def fresh : Pipe := ⟨some {}, some {}⟩

/-- How long an operation is given, in milliseconds. -/
def patience : Nat := 2000

/-- One of the two ends. -/
def get (p : Pipe) : Side → Option PipeEnd
  | .left => p.left
  | .right => p.right

/-- The pipe with one end changed. -/
def set (p : Pipe) (side : Side) (e : Option PipeEnd) : Pipe :=
  match side with
  | .left => { p with left := e }
  | .right => { p with right := e }

/-- Let something arrive at an end, if it is still open. -/
def deliver (p : Pipe) (side : Side) (arrival : Arrival) : Pipe :=
  p.set side ((p.get side).map fun e => { e with socket := e.socket.receive arrival })

/-- Offer so many bytes to an end that is still open; the answer is how many there is room for. -/
def offer (p : Pipe) (side : Side) (n : Nat) : Nat × Pipe :=
  match p.get side with
  | none => (0, p)
  | some e =>
    let (taken, incoming) := e.incoming.offer n
    (taken, p.set side (some { e with incoming := incoming }))

/-- A socket between two operations as a line on which nothing moves. -/
def still (socket : Socket) : Line := ⟨socket, 0, []⟩

/-- The outcome of an operation on a connection as one on frames. -/
def lift {α : Type} (report : α → PipeReport) :
    Outcome ConnectionError α → Outcome FrameError PipeReport
  | .finished value => .finished (report value)
  | .failed e => .failed (.connection e)
  | .abandoned => .abandoned

/-- The outcome of receiving as a report. -/
def relabel {α : Type} (report : α → PipeReport) :
    Outcome FrameError α → Outcome FrameError PipeReport
  | .finished value => .finished (report value)
  | .failed e => .failed e
  | .abandoned => .abandoned

/-- Write a message of so many bytes on an end, given the segments to write when so many bytes find
room. -/
def sendUpTo (p : Pipe) (side : Side) (size : Nat) (segments : Nat → List Bytes)
    (report : Nat → PipeReport) : Outcome FrameError PipeReport × Pipe :=
  match p.get side with
  | none => (.failed (.connection .notConnected), p)
  | some e =>
    let (taken, p) := p.offer side.other size
    match (still e.socket).write (segments taken) (if taken = 0 then [] else [taken]) with
    | (.complete n, bytes) => (.finished (report n), p.deliver side.other (.bytes bytes))
    | (.failed e, bytes) => (.failed (.connection e), p.deliver side.other (.bytes bytes))
    | (.blocked _, bytes) => (.abandoned, p.deliver side.other (.bytes bytes))

/-- Write segments on an end. -/
def send (p : Pipe) (side : Side) (segments : List Bytes) (report : Nat → PipeReport) :
    Outcome FrameError PipeReport × Pipe :=
  p.sendUpTo side (Segments.size segments) (fun _ => segments) report

/-- Read on an end, if it is open.  What is read makes room. -/
def receive (p : Pipe) (side : Side)
    (operation : Line → Outcome FrameError PipeReport × Line) :
    Outcome FrameError PipeReport × Pipe :=
  match p.get side with
  | none => (.failed (.connection .notConnected), p)
  | some e =>
    let (outcome, line) := operation (still e.socket)
    let consumed := e.socket.unread.length - line.socket.unread.length
    (outcome, p.set side (some ⟨line.socket, e.incoming.consume consumed⟩))

/-- Carry out an operation on an end; `limit` is the largest payload of a frame. -/
def perform (limit : Nat) (p : Pipe) (side : Side) :
    PipeAction → Outcome FrameError PipeReport × Pipe
  | .write bytes => p.send side [bytes] .wrote
  | .writeSegments segments => p.send side segments .wrote
  | .read n timeout => p.receive side fun l =>
    let result := l.read n timeout (some patience)
    (lift .read result.1, result.2)
  | .readSegments lengths timeout => p.receive side fun l =>
    let result := l.readSegments lengths timeout (some patience)
    (lift .segments result.1, result.2)
  | .waitData timeout => p.receive side fun l =>
    let result := l.waitData timeout (some patience)
    (lift (fun _ => .ready) result.1, result.2)
  | .isAlive =>
    match p.get side with
    | none => (.finished (.verdict false), p)
    | some e =>
      let (alive, socket) := e.socket.peek
      (.finished (.verdict alive), p.set side (some { e with socket := socket }))
  | .isOpen => (.finished (.verdict (p.get side).isSome), p)
  | .credentials =>
    match p.get side with
    | none => (.failed (.connection .notConnected), p)
    | some _ => (.finished .ownUser, p)
  | .close =>
    match p.get side with
    | none => (.finished .done, p)
    | some e =>
      (.finished .done, (p.set side none).deliver side.other e.socket.farewell)
  | .sendCommand id cmd payload =>
    match Frame.ofCommand limit id cmd payload with
    | .error e => (.failed e, p)
    | .ok (header, segments) => p.send side segments fun _ => .command header
  | .sendResponse id result payload =>
    match Frame.ofResponse limit id result payload with
    | .error e => (.failed e, p)
    | .ok (header, segments) => p.send side segments fun _ => .responseHeader header
  | .recvHeader timeout => p.receive side fun l =>
    let result := Frame.recvHeader (Line.reader timeout (some patience)) l
    (relabel .command result.1, result.2)
  | .recvResponse timeout => p.receive side fun l =>
    let result := Frame.recvResponse (Line.reader timeout (some patience)) limit l
    (relabel (fun (header, payload) => .response header payload) result.1, result.2)
  | .recvPayload size timeout =>
    match Frame.payloadNeed limit size with
    | .error e => (.failed e, p)
    | .ok 0 => (.finished (.payload []), p)
    | .ok _ => p.receive side fun l =>
      let result := Frame.recvPayload (Line.reader timeout (some patience)) limit size l
      (relabel .payload result.1, result.2)

/-- Send a command whose payload is one byte so many times.  Of a long payload that much is made as
finds room, and a byte that does not. -/
def sendFilled (limit : Nat) (p : Pipe) (side : Side) (id cmd : UInt32) (n : Nat) (byte : UInt8) :
    Outcome FrameError PipeReport × Pipe :=
  if n > limit then (.failed (.payloadTooLarge n limit), p)
  else
    let header : CommandHeader := ⟨id, cmd, UInt32.ofNat n⟩
    p.sendUpTo side (Header.size + n)
      (fun taken => [header.encode, List.replicate (min n (taken + 1)) byte])
      fun _ => .command header

end Pipe
end Simulation
end TokenBroker
