import TokenBroker.Client.Error
import TokenBroker.Client.Remote
import TokenBroker.Client.Settings
import TokenBroker.Frame.Codec
import TokenBroker.Sequence.Tracker
import TokenBroker.Wire.Validation
/-!
# The client

A client makes one call at a time: it writes one command and waits for one response.  Any outcome
but a response that pairs with the command costs it the connection and the state of its numbering,
and the next call starts from scratch on a new connection.

* `Client.execute` is a call; `Client.exchange` is the part of it that happens on the connection.
* `Client.reconnect` and `Client.disconnect` open and close the connection by hand.

A call may be abandoned at any point where it waits; then the client is left as it was at that
point.
-/

set_option autoImplicit false

namespace TokenBroker

/-- A client of the registry. -/
structure Client where
  settings : ClientSettings
  tracker : Sequence.Tracker
  /-- The connection, if there is one. -/
  socket : Option Socket

namespace Client

/-- A client that connects on its first call. -/
def fresh (settings : ClientSettings) : Client :=
  ⟨settings, .fresh settings.initialCommandId, none⟩

/-- The id of the command sent last on this connection. -/
def lastCommandId (c : Client) : UInt32 := c.tracker.lastIssued

/-- What the far side is told when the client closes its connection. -/
def farewell? (c : Client) : Option Arrival := c.socket.map Socket.farewell

/-- Close the connection and forget the state of numbering. -/
def disconnect {σ : Type} (r : Remote σ) (c : Client) (w : σ) : Client × σ :=
  let w :=
    match c.farewell? with
    | none => w
    | some arrival => r.close arrival w
  ({ c with socket := none, tracker := c.tracker.reset c.settings.initialCommandId }, w)

/-- Ask whether there is a connection and the far side has not hung up. -/
def isAlive (c : Client) : Bool × Client :=
  match c.socket with
  | none => (false, c)
  | some socket =>
    let (alive, socket) := socket.peek
    (alive, { c with socket := some socket })

/-- Let time pass between calls. -/
def idleUntil {σ : Type} (r : Remote σ) (c : Client) (w : σ) (time : Nat) : Client × σ :=
  match c.socket with
  | none => (c, r.waitUntil 0 time w)
  | some socket =>
    let (socket, w) := r.sleep (time - r.now w) socket w
    ({ c with socket := some socket }, w)

/-- How a call ends. -/
inductive CallEnd (α : Type) where
  | ok (value : α)
  | failed (error : RegistryError)
  | abandoned

/-- Drop any connection and open a new one. -/
def reconnect {σ : Type} (r : Remote σ) (c : Client) (w : σ) : CallEnd Unit × Client × σ :=
  let (c, w) := c.disconnect r w
  match Endpoint.parse c.settings.endpoint with
  | .error e => (.failed (.transport (.io e)), c, w)
  | .ok endpoint =>
    match r.connect endpoint w with
    | (.done, w) => (.ok (), { c with socket := some {} }, w)
    | (.failed e, w) => (.failed (.transport (.connectFailed endpoint.display e)), c, w)
    | (.blocked, w) => (.abandoned, c, w)

/-- Write a command and wait for the response. -/
def exchange {σ : Type} (r : Remote σ) (patience : Option Nat) (settings : ClientSettings)
    (socket : Socket) (id : UInt32) (command : Command) (payload : Bytes) (w : σ) :
    Outcome FrameError (ResponseHeader × Bytes) × Socket × σ :=
  match Frame.ofCommand settings.maxPayload id command.code payload with
  | .error e => (.failed e, socket, w)
  | .ok (_, segments) =>
    match r.write patience segments.flatten socket w with
    | (.failed e, socket, w) => (.failed (.connection e), socket, w)
    | (.abandoned, socket, w) => (.abandoned, socket, w)
    | (.finished (), socket, w) =>
      Frame.recvResponse (r.reader settings.responseTimeout patience) settings.maxPayload
        (socket, w)

/-- The error of a call whose exchange failed. -/
def exchangeError : FrameError → RegistryError
  | .connection .timedOut => .timeout
  | .connection e => .transport e
  | .payloadTooLarge size max => .protocol (FrameError.payloadTooLarge size max).message

/-- What a result means for the caller. -/
def interpret (result : ResultCode) (body : Bytes) : Except RegistryError Bytes :=
  match result with
  | .ok => .ok body
  | .notFound => .error .notFound
  | .storageError => .error .storage
  | other => .error (.rejected other)

/-- Judge a response: its id first, then the rest of its header.  An error in the first place means
that the connection is lost. -/
def judge (c : Client) (header : ResponseHeader) (body : Bytes) :
    Except RegistryError (Except RegistryError Bytes) × Client :=
  match c.tracker.pair header.id with
  | (.error e, tracker) => (.error (.ofSequence e), { c with tracker := tracker })
  | (.ok (), tracker) =>
    let c := { c with tracker := tracker }
    match validateResponse header c.settings.maxPayload with
    | .error e => (.error (.protocol e.message), c)
    | .ok result => (.ok (interpret result body), c)

/-- Give up the connection because of an error. -/
def fail {σ : Type} (r : Remote σ) (c : Client) (w : σ) (e : RegistryError) :
    CallEnd Bytes × Client × σ :=
  let (c, w) := c.disconnect r w
  (.failed e, c, w)

/-- Make a call on an open connection. -/
def call {σ : Type} (r : Remote σ) (patience : Option Nat) (c : Client) (socket : Socket)
    (command : Command) (payload : Bytes) (w : σ) : CallEnd Bytes × Client × σ :=
  match c.tracker.issue with
  | (.error e, tracker) => fail r { c with tracker := tracker } w (.ofSequence e)
  | (.ok id, tracker) =>
    let c := { c with tracker := tracker }
    let (outcome, socket, w) := exchange r patience c.settings socket id command payload w
    let c := { c with socket := some socket }
    match outcome with
    | .abandoned => (.abandoned, c, w)
    | .failed e => fail r c w (exchangeError e)
    | .finished (header, body) =>
      match c.judge header body with
      | (.error e, c) => fail r c w e
      | (.ok (.ok body), c) => (.ok body, c, w)
      | (.ok (.error e), c) => (.failed e, c, w)

/-- Drop a connection whose last command was never answered. -/
def refresh {σ : Type} (r : Remote σ) (c : Client) (w : σ) : Client × σ :=
  if c.tracker.outstanding || c.tracker.isDesynchronized then c.disconnect r w else (c, w)

/-- Carry out a command. -/
def execute {σ : Type} (r : Remote σ) (patience : Option Nat) (c : Client) (command : Command)
    (payload : Bytes) (w : σ) : CallEnd Bytes × Client × σ :=
  if payload.length > c.settings.maxPayload then
    (.failed (.tooLarge payload.length c.settings.maxPayload), c, w)
  else
    let (c, w) := c.refresh r w
    match c.socket with
    | some socket => c.call r patience socket command payload w
    | none =>
      match c.reconnect r w with
      | (.failed e, c, w) => (.failed e, c, w)
      | (.abandoned, c, w) => (.abandoned, c, w)
      | (.ok (), c, w) =>
        match c.socket with
        | some socket => c.call r patience socket command payload w
        | none => (.failed (.transport .notConnected), c, w)

/-- The end of a call without its value. -/
def CallEnd.discard {α : Type} : CallEnd α → CallEnd Unit
  | ok _ => ok ()
  | failed e => failed e
  | abandoned => abandoned

/-- Store the caller's token, or replace it. -/
def store {σ : Type} (r : Remote σ) (patience : Option Nat) (c : Client) (blob : Bytes) (w : σ) :
    CallEnd Unit × Client × σ :=
  let (ended, rest) := c.execute r patience .writeAuthToken blob w
  (ended.discard, rest)

/-- Read the caller's token. -/
def read {σ : Type} (r : Remote σ) (patience : Option Nat) (c : Client) (w : σ) :
    CallEnd Bytes × Client × σ :=
  c.execute r patience .readAuthToken [] w

/-- Delete the caller's token. -/
def delete {σ : Type} (r : Remote σ) (patience : Option Nat) (c : Client) (w : σ) :
    CallEnd Unit × Client × σ :=
  let (ended, rest) := c.execute r patience .deleteAuthToken [] w
  (ended.discard, rest)

end Client
end TokenBroker
