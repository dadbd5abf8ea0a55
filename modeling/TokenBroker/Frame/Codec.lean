import TokenBroker.Frame.Error
import TokenBroker.Stream.Line
import TokenBroker.Wire.Command
import TokenBroker.Wire.Header
/-!
# Frames

A frame is a header and as many payload bytes as the header declares.  `limit` is the largest
payload that this side sends or takes.

* `Frame.ofCommand` and `Frame.ofResponse` give the header and the segments to write.
* `Frame.recvHeader` and `Frame.recvPayload` read a command in two steps, so that the header can be
  judged first; `Frame.recvResponse` reads a whole response, its two parts by a read each.

What is received comes from a `Reader`, for instance `Line.reader` with its timeout for each read.
-/

set_option autoImplicit false

namespace TokenBroker
namespace Frame

/-! ## Sending -/

/-- The size to declare for a payload, if it is within the limit. -/
def checkOutgoing (limit : Nat) (payload : Bytes) : Except FrameError UInt32 :=
  if payload.length > limit then .error (.payloadTooLarge payload.length limit)
  else .ok (UInt32.ofNat payload.length)

theorem checkOutgoing_of_le {limit : Nat} {payload : Bytes} (h : payload.length ≤ limit) :
    checkOutgoing limit payload = .ok (UInt32.ofNat payload.length) :=
  if_neg (Nat.not_lt.2 h)

theorem checkOutgoing_of_lt {limit : Nat} {payload : Bytes} (h : limit < payload.length) :
    checkOutgoing limit payload = .error (.payloadTooLarge payload.length limit) :=
  if_pos h

/-- The frame of a command. -/
def ofCommand (limit : Nat) (id cmd : UInt32) (payload : Bytes) :
    Except FrameError (CommandHeader × List Bytes) :=
  match checkOutgoing limit payload with
  | .error e => .error e
  | .ok size =>
    let header : CommandHeader := ⟨id, cmd, size⟩
    .ok (header, [header.encode, payload])

/-- The frame of a response. -/
def ofResponse (limit : Nat) (id : UInt32) (result : ResultCode) (payload : Bytes) :
    Except FrameError (ResponseHeader × List Bytes) :=
  match checkOutgoing limit payload with
  | .error e => .error e
  | .ok size =>
    let header : ResponseHeader := ⟨id, result.code, size⟩
    .ok (header, [header.encode, payload])

/-! ## Receiving -/

/-- The outcome of a read as one of receiving a frame, its bytes being decoded. -/
def decoded {α : Type} (decode? : Bytes → Option α) :
    Outcome ConnectionError Bytes → Outcome FrameError α
  | .finished bytes =>
    match decode? bytes with
    | some value => .finished value
    | none => .failed (.connection .closed)
  | .failed e => .failed (.connection e)
  | .abandoned => .abandoned

/-- What was received was read and decoded. -/
theorem decoded_eq_finished {α : Type} {decode? : Bytes → Option α}
    {outcome : Outcome ConnectionError Bytes} {value : α}
    (h : decoded decode? outcome = .finished value) :
    ∃ bytes, outcome = .finished bytes ∧ decode? bytes = some value := by
  cases outcome with
  | finished bytes =>
    rw [decoded] at h
    split at h
    · next hdecode => exact ⟨bytes, rfl, by rw [hdecode, Outcome.finished.inj h]⟩
    · cases h
  | failed e => cases h
  | abandoned => cases h

/-- Receive the header of a command. -/
def recvHeader {τ : Type} (read : Reader τ) (t : τ) : Outcome FrameError CommandHeader × τ :=
  let result := read Header.size t
  (decoded CommandHeader.decode? result.1, result.2)

/-- How many bytes to read for a payload of the declared size, which is judged before the connection
is looked at. -/
def payloadNeed (limit : Nat) (size : UInt32) : Except FrameError Nat :=
  if size.toNat > limit then .error (.payloadTooLarge size.toNat limit) else .ok size.toNat

/-- Receive a payload of the declared size.  An empty payload is there without reading. -/
def recvPayload {τ : Type} (read : Reader τ) (limit : Nat) (size : UInt32) (t : τ) :
    Outcome FrameError Bytes × τ :=
  match payloadNeed limit size with
  | .error e => (.failed e, t)
  | .ok 0 => (.finished [], t)
  | .ok n =>
    let result := read n t
    (decoded some result.1, result.2)

/-- Receive the header of a response. -/
def recvResponseHeader {τ : Type} (read : Reader τ) (t : τ) :
    Outcome FrameError ResponseHeader × τ :=
  let result := read Header.size t
  (decoded ResponseHeader.decode? result.1, result.2)

/-- Receive a response and its payload. -/
def recvResponse {τ : Type} (read : Reader τ) (limit : Nat) (t : τ) :
    Outcome FrameError (ResponseHeader × Bytes) × τ :=
  match recvResponseHeader read t with
  | (.failed e, t) => (.failed e, t)
  | (.abandoned, t) => (.abandoned, t)
  | (.finished header, t) =>
    match recvPayload read limit header.dataSize t with
    | (.failed e, t) => (.failed e, t)
    | (.abandoned, t) => (.abandoned, t)
    | (.finished payload, t) => (.finished (header, payload), t)

end Frame
end TokenBroker
