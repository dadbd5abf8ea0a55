import TokenBroker.Frame.Codec
import TokenBroker.Proofs.Stream.Line
import TokenBroker.Proofs.Stream.Write
/-!
# Frames, one after the other

A stream knows nothing of frames.  It takes a part of one here and hands over a part of the next
there, and the receiver finds the frames again by counting bytes.

* `Message` is what a frame is made for.  `sendOver` sends it, and `receive` gets a frame of either
  kind, header and payload.
* `sendOver_complete` is one frame that goes out, `receive_of_brings` one that comes in.  Each says
  what holds for the next frame, and `sendAll_complete` and `receiveAll_of_brings` are the
  inductions.
* `frames_arrive_as_sent` is the way from the one end to the other.
-/

set_option autoImplicit false

namespace TokenBroker
namespace Frame

/-! ## Sequences -/

section Sequence

variable {ε ι α β τ : Type}

/-- Go on from an outcome, in the state it has left. -/
def andThen (result : Outcome ε α × τ) (next : α → τ → Outcome ε β × τ) : Outcome ε β × τ :=
  match result with
  | (.finished value, t) => next value t
  | (.failed e, t) => (.failed e, t)
  | (.abandoned, t) => (.abandoned, t)

/-- Take a step for each item, until one does not finish. -/
def inTurn (step : ι → τ → Outcome ε α × τ) : List ι → τ → Outcome ε (List α) × τ
  | [], t => (.finished [], t)
  | item :: items, t =>
    andThen (step item t) fun value t =>
      andThen (inTurn step items t) fun values t => (.finished (value :: values), t)

@[simp] theorem andThen_finished (value : α) (t : τ) (next : α → τ → Outcome ε β × τ) :
    andThen (.finished value, t) next = next value t := rfl

theorem andThen_assoc {γ : Type} (result : Outcome ε α × τ) (next : α → τ → Outcome ε β × τ)
    (last : β → τ → Outcome ε γ × τ) :
    andThen (andThen result next) last
      = andThen result fun value t => andThen (next value t) last := by
  obtain ⟨outcome, t⟩ := result
  cases outcome <;> rfl

theorem andThen_eq_finished {result : Outcome ε α × τ} {next : α → τ → Outcome ε β × τ} {value : β}
    {t' : τ} (h : andThen result next = (.finished value, t')) :
    ∃ first t, result = (.finished first, t) ∧ next first t = (.finished value, t') := by
  obtain ⟨outcome, t⟩ := result
  cases outcome with
  | finished first => exact ⟨first, t, rfl, h⟩
  | failed e => cases (Prod.mk.inj h).1
  | abandoned => cases (Prod.mk.inj h).1

end Sequence

/-! ## Both kinds of frames -/

/-- The kind of a frame. -/
inductive Kind where
  | command
  | response
  deriving DecidableEq

/-- The header of a frame of either kind. -/
inductive Heading where
  | command (header : CommandHeader)
  | response (header : ResponseHeader)
  deriving DecidableEq

namespace Heading

def kind : Heading → Kind
  | command _ => .command
  | response _ => .response

/-- The twelve bytes of a header. -/
def encode : Heading → Bytes
  | command header => header.encode
  | response header => header.encode

/-- The number of payload bytes that follow. -/
def dataSize : Heading → UInt32
  | command header => header.dataSize
  | response header => header.dataSize

theorem length_encode (heading : Heading) : heading.encode.length = Header.size := by
  cases heading with
  | command header => exact header.length_encode
  | response header => exact header.length_encode

end Heading

/-- What a frame is made for. -/
inductive Message where
  | command (id cmd : UInt32) (payload : Bytes)
  | response (id : UInt32) (result : ResultCode) (payload : Bytes)

namespace Message

def payload : Message → Bytes
  | command _ _ payload => payload
  | response _ _ payload => payload

/-- The header that belongs to a message. -/
def heading : Message → Heading
  | command id cmd payload => .command ⟨id, cmd, UInt32.ofNat payload.length⟩
  | response id result payload => .response ⟨id, result.code, UInt32.ofNat payload.length⟩

/-- The bytes of the frame. -/
def bytes (m : Message) : Bytes := m.heading.encode ++ m.payload

/-- The frame of a message, if its payload is within the limit. -/
def frame (limit : Nat) : Message → Except FrameError (Heading × List Bytes)
  | command id cmd payload =>
    (ofCommand limit id cmd payload).map fun (header, segments) => (.command header, segments)
  | response id result payload =>
    (ofResponse limit id result payload).map fun (header, segments) => (.response header, segments)

theorem dataSize_heading (m : Message) : m.heading.dataSize = UInt32.ofNat m.payload.length := by
  cases m <;> rfl

theorem frame_of_le {limit : Nat} {m : Message} (h : m.payload.length ≤ limit) :
    m.frame limit = .ok (m.heading, [m.heading.encode, m.payload]) := by
  cases m with
  | command id cmd payload =>
    change payload.length ≤ limit at h
    rw [frame, ofCommand, checkOutgoing_of_le h]
    rfl
  | response id result payload =>
    change payload.length ≤ limit at h
    rw [frame, ofResponse, checkOutgoing_of_le h]
    rfl

theorem frame_of_lt {limit : Nat} {m : Message} (h : limit < m.payload.length) :
    m.frame limit = .error (.payloadTooLarge m.payload.length limit) := by
  cases m with
  | command id cmd payload =>
    change limit < payload.length at h
    rw [frame, ofCommand, checkOutgoing_of_lt h]
    rfl
  | response id result payload =>
    change limit < payload.length at h
    rw [frame, ofResponse, checkOutgoing_of_lt h]
    rfl

end Message

/-! ## Sending -/

/-- Send a message, of whose frame the socket accepts as much as is said.  The state is what was
delivered before. -/
def sendOver (limit : Nat) (sender : Line) (item : Message × List Nat) (delivered : Bytes) :
    Outcome FrameError Heading × Bytes :=
  match item.1.frame limit with
  | .error e => (.failed e, delivered)
  | .ok (heading, segments) =>
    match sender.write segments item.2 with
    | (.complete _, bytes) => (.finished heading, delivered ++ bytes)
    | (.failed e, bytes) => (.failed (.connection e), delivered ++ bytes)
    | (.blocked _, bytes) => (.abandoned, delivered ++ bytes)

/-- A message that an obliging socket accepts as a whole. -/
structure Sendable (limit : Nat) (item : Message × List Nat) : Prop where
  fits : item.1.payload.length ≤ limit
  obliging : Obliging item.2 item.1.bytes.length

section Sending

variable {limit : Nat} {sender : Line} {item : Message × List Nat}

theorem sendOver_complete (hhere : sender.socket.gone = false) (h : Sendable limit item)
    (delivered : Bytes) :
    sendOver limit sender item delivered
      = (.finished item.1.heading, delivered ++ item.1.bytes) := by
  have hbytes : [item.1.heading.encode, item.1.payload].flatten = item.1.bytes := by
    rw [List.flatten_cons, List.flatten_cons, List.flatten_nil, List.append_nil, Message.bytes]
  have hobliging : Obliging item.2 (Segments.size [item.1.heading.encode, item.1.payload]) := by
    rw [Segments.size, hbytes]
    exact h.obliging
  simp only [sendOver, Message.frame_of_le h.fits, Line.write_complete hhere hobliging, hbytes]

theorem sendAll_complete (hhere : sender.socket.gone = false) {items : List (Message × List Nat)}
    (h : ∀ item ∈ items, Sendable limit item) (delivered : Bytes) :
    inTurn (sendOver limit sender) items delivered
      = (.finished (items.map fun item => item.1.heading),
          delivered ++ items.flatMap fun item => item.1.bytes) := by
  induction items generalizing delivered with
  | nil => rw [inTurn, List.flatMap_nil, List.append_nil, List.map_nil]
  | cons item items ih =>
    rw [inTurn, sendOver_complete hhere (h item List.mem_cons_self), andThen_finished,
      ih (fun later hlater => h later (List.mem_cons_of_mem item hlater)), andThen_finished,
      List.flatMap_cons, List.map_cons, List.append_assoc]

end Sending

/-! ## Receiving -/

/-- Receive a header. -/
def recvHeading {τ : Type} (read : Reader τ) (kind : Kind) (t : τ) :
    Outcome FrameError Heading × τ :=
  match kind with
  | .command => andThen (recvHeader read t) fun header t => (.finished (.command header), t)
  | .response =>
    andThen (recvResponseHeader read t) fun header t => (.finished (.response header), t)

/-- Receive a frame.  The parts of a command are received one by one, a response as a whole. -/
def receive {τ : Type} (read : Reader τ) (limit : Nat) (kind : Kind) (t : τ) :
    Outcome FrameError (Heading × Bytes) × τ :=
  match kind with
  | .command =>
    andThen (recvHeader read t) fun header t =>
      andThen (recvPayload read limit header.dataSize t) fun payload t =>
        (.finished (.command header, payload), t)
  | .response =>
    andThen (recvResponse read limit t) fun (header, payload) t =>
      (.finished (.response header, payload), t)

section Receiving

variable {τ : Type} {read : Reader τ} {limit : Nat} {kind : Kind} {t t' : τ}

/-- A header that was received stood in the bytes that were read. -/
theorem read_of_recvHeading {heading : Heading}
    (h : recvHeading read kind t = (.finished heading, t')) :
    read Header.size t = (.finished heading.encode, t') := by
  cases kind with
  | command =>
    obtain ⟨header, t₁, hheader, hnext⟩ := andThen_eq_finished h
    obtain ⟨hheading, rfl⟩ := Prod.mk.inj hnext
    obtain rfl := Outcome.finished.inj hheading
    obtain ⟨hdecoded, rfl⟩ := Prod.mk.inj hheader
    obtain ⟨bytes, hread, hdecode⟩ := decoded_eq_finished hdecoded
    rw [Heading.encode, CommandHeader.encode_of_decode? hdecode, ← hread]
  | response =>
    obtain ⟨header, t₁, hheader, hnext⟩ := andThen_eq_finished h
    obtain ⟨hheading, rfl⟩ := Prod.mk.inj hnext
    obtain rfl := Outcome.finished.inj hheading
    obtain ⟨hdecoded, rfl⟩ := Prod.mk.inj hheader
    obtain ⟨bytes, hread, hdecode⟩ := decoded_eq_finished hdecoded
    rw [Heading.encode, ResponseHeader.encode_of_decode? hdecode, ← hread]

/-- The twelve bytes of a header are received as that header. -/
theorem recvHeading_of_read {heading : Heading}
    (h : read Header.size t = (.finished heading.encode, t')) :
    recvHeading read heading.kind t = (.finished heading, t') := by
  cases heading with
  | command header =>
    show andThen (recvHeader read t) _ = _
    rw [recvHeader, h, Heading.encode, decoded, CommandHeader.decode?_encode, andThen_finished]
  | response header =>
    show andThen (recvResponseHeader read t) _ = _
    rw [recvResponseHeader, h, Heading.encode, decoded, ResponseHeader.decode?_encode,
      andThen_finished]

theorem recvResponse_eq (read : Reader τ) (limit : Nat) (t : τ) :
    recvResponse read limit t = andThen (recvResponseHeader read t) fun header t =>
      andThen (recvPayload read limit header.dataSize t) fun payload t =>
        (.finished (header, payload), t) := by
  rw [recvResponse]
  obtain ⟨outcome, t₁⟩ := recvResponseHeader read t
  cases outcome with
  | finished header =>
    rw [andThen_finished]
    dsimp only
    obtain ⟨outcome, t₂⟩ := recvPayload read limit header.dataSize t₁
    cases outcome <;> rfl
  | failed e => rfl
  | abandoned => rfl

/-- A frame of either kind is a header and the payload that it declares. -/
theorem receive_eq (read : Reader τ) (limit : Nat) (kind : Kind) (t : τ) :
    receive read limit kind t = andThen (recvHeading read kind t) fun heading t =>
      andThen (recvPayload read limit heading.dataSize t) fun payload t =>
        (.finished (heading, payload), t) := by
  cases kind with
  | command => simp only [receive, recvHeading, andThen_assoc, andThen_finished, Heading.dataSize]
  | response =>
    simp only [receive, recvHeading, recvResponse_eq, andThen_assoc, andThen_finished,
      Heading.dataSize]

end Receiving

/-! ## Frames that come in time -/

section Arriving

variable {limit : Nat} {l : Line} {timeout patience : Option Nat} {later : Nat} {rest : Bytes}

theorem recvHeading_of_brings {heading : Heading}
    (h : l.Brings timeout patience (Header.size + later))
    (hahead : l.ahead = heading.encode ++ rest) :
    ∃ l', recvHeading (Line.reader timeout patience) heading.kind l = (.finished heading, l')
      ∧ l'.ahead = rest ∧ l'.Brings timeout patience later := by
  rw [← heading.length_encode] at h
  obtain ⟨l', hread, hrest, hbrings⟩ := h.read hahead
  rw [heading.length_encode] at hread
  exact ⟨l', recvHeading_of_read hread, hrest, hbrings⟩

/-- As many bytes are read as are declared, unless that is none. -/
theorem recvPayload_of_brings {size : UInt32} {payload : Bytes}
    (hsize : size.toNat = payload.length) (hfits : payload.length ≤ limit)
    (h : l.Brings timeout patience (payload.length + later)) (hahead : l.ahead = payload ++ rest) :
    ∃ l', recvPayload (Line.reader timeout patience) limit size l = (.finished payload, l')
      ∧ l'.ahead = rest ∧ l'.Brings timeout patience later := by
  have hneed : payloadNeed limit size = .ok payload.length := by
    rw [payloadNeed, hsize, if_neg (Nat.not_lt.2 hfits)]
  cases payload with
  | nil =>
    rw [List.length_nil, Nat.zero_add] at h
    exact ⟨l, by rw [recvPayload, hneed]; rfl, hahead, h⟩
  | cons byte bytes =>
    obtain ⟨l', hread, hrest, hbrings⟩ := h.read hahead
    refine ⟨l', ?_, hrest, hbrings⟩
    rw [recvPayload, hneed]
    show (decoded some (l.read (byte :: bytes).length timeout patience).1,
      (l.read (byte :: bytes).length timeout patience).2) = _
    rw [hread]
    rfl

/-- A header is received, and behind it the payload that it declares. -/
theorem receive_of_declared {heading : Heading} {payload : Bytes}
    (hsize : heading.dataSize.toNat = payload.length) (hfits : payload.length ≤ limit)
    (h : l.Brings timeout patience (Header.size + (payload.length + later)))
    (hahead : l.ahead = heading.encode ++ (payload ++ rest)) :
    ∃ l', receive (Line.reader timeout patience) limit heading.kind l
        = (.finished (heading, payload), l')
      ∧ l'.ahead = rest ∧ l'.Brings timeout patience later := by
  obtain ⟨l₁, hheading, hahead₁, hbrings₁⟩ := recvHeading_of_brings h hahead
  obtain ⟨l', hpayload, hrest, hbrings⟩ := recvPayload_of_brings hsize hfits hbrings₁ hahead₁
  refine ⟨l', ?_, hrest, hbrings⟩
  rw [receive_eq, hheading, andThen_finished, hpayload, andThen_finished]

theorem receive_of_brings {message : Message} (hfits : message.payload.length ≤ limit)
    (hlimit : limit < 2 ^ 32) (h : l.Brings timeout patience (message.bytes.length + later))
    (hahead : l.ahead = message.bytes ++ rest) :
    ∃ l', receive (Line.reader timeout patience) limit message.heading.kind l
        = (.finished (message.heading, message.payload), l')
      ∧ l'.ahead = rest ∧ l'.Brings timeout patience later := by
  rw [Message.bytes, List.length_append, Heading.length_encode, Nat.add_assoc] at h
  rw [Message.bytes, List.append_assoc] at hahead
  have hsize : message.heading.dataSize.toNat = message.payload.length := by
    rw [Message.dataSize_heading]
    exact UInt32.toNat_ofNat_of_lt' (Nat.lt_of_le_of_lt hfits hlimit)
  exact receive_of_declared hsize hfits h hahead

theorem receiveAll_of_brings {messages : List Message}
    (hfits : ∀ message ∈ messages, message.payload.length ≤ limit) (hlimit : limit < 2 ^ 32)
    (h : l.Brings timeout patience (messages.flatMap Message.bytes).length)
    (hahead : l.ahead = messages.flatMap Message.bytes ++ rest) :
    ∃ l', inTurn (receive (Line.reader timeout patience) limit)
        (messages.map fun message => message.heading.kind) l
        = (.finished (messages.map fun message => (message.heading, message.payload)), l')
      ∧ l'.ahead = rest := by
  induction messages generalizing l with
  | nil => exact ⟨l, rfl, hahead⟩
  | cons message messages ih =>
    rw [List.flatMap_cons, List.length_append] at h
    rw [List.flatMap_cons, List.append_assoc] at hahead
    obtain ⟨l₁, hreceive, hahead₁, hbrings⟩ :=
      receive_of_brings (hfits message List.mem_cons_self) hlimit h hahead
    obtain ⟨l', hrest, hahead'⟩ :=
      ih (fun m hm => hfits m (List.mem_cons_of_mem message hm)) hbrings hahead₁
    refine ⟨l', ?_, hahead'⟩
    rw [List.map_cons, inTurn, hreceive, andThen_finished, hrest, andThen_finished, List.map_cons]

end Arriving

/-! ## From one end to the other -/

/-- **Frames arrive as they were sent.**  A header that was received stood in the stream, byte for
byte, and a payload beyond the limit leaves nothing there. -/
theorem frames_arrive_as_sent {limit : Nat} (hlimit : limit < 2 ^ 32) :
    (∀ (sender : Line) (items : List (Message × List Nat)), sender.socket.gone = false →
      (∀ item ∈ items, Sendable limit item) →
      inTurn (sendOver limit sender) items []
          = (.finished (items.map fun item => item.1.heading),
              items.flatMap fun item => item.1.bytes)
        ∧ ∀ (timeout patience : Option Nat) (socket : Socket) (now : Nat)
            (chunks : List (Nat × Bytes)) (later : Schedule) (rest : Bytes),
          socket.ended = false → socket.reset = false →
          (∀ chunk ∈ chunks,
            Line.within chunk.1 (Line.earlier (timeout.map (now + ·)) patience) = true) →
          socket.unread ++ chunks.flatMap (·.2)
              = (items.flatMap fun item => item.1.bytes) ++ rest →
          ∃ line, inTurn (receive (Line.reader timeout patience) limit)
              (items.map fun item => item.1.heading.kind)
              ⟨socket, now, Schedule.ofChunks chunks ++ later⟩
              = (.finished (items.map fun item => (item.1.heading, item.1.payload)), line)
            ∧ line.ahead = rest ++ Schedule.content later)
      ∧ (∀ (timeout patience : Option Nat) (kind : Kind) (line line' : Line) (heading : Heading),
        recvHeading (Line.reader timeout patience) kind line = (.finished heading, line') →
          line.ahead = heading.encode ++ line'.ahead)
      ∧ ∀ (sender : Line) (item : Message × List Nat) (delivered : Bytes),
        limit < item.1.payload.length →
          sendOver limit sender item delivered
            = (.failed (.payloadTooLarge item.1.payload.length limit), delivered) := by
  refine ⟨?_, ?_, ?_⟩
  · intro sender items hhere hsendable
    refine ⟨sendAll_complete hhere hsendable [], ?_⟩
    intro timeout patience socket now chunks later rest hended hreset hwithin hbytes
    have hwire : items.flatMap (fun item => item.1.bytes)
        = (items.map Prod.fst).flatMap Message.bytes := by
      rw [List.flatMap_map]
    rw [hwire] at hbytes
    have hbrings := Line.brings_ofChunks (n := ((items.map Prod.fst).flatMap Message.bytes).length)
      later hended hreset hwithin (by rw [hbytes, List.length_append]; omega)
    have hahead : Line.ahead ⟨socket, now, Schedule.ofChunks chunks ++ later⟩
        = (items.map Prod.fst).flatMap Message.bytes ++ (rest ++ Schedule.content later) := by
      rw [Line.ahead, Schedule.content_append, Schedule.content_ofChunks, ← List.append_assoc,
        hbytes, List.append_assoc]
    have hfits : ∀ message ∈ items.map Prod.fst, message.payload.length ≤ limit := by
      intro message hmessage
      obtain ⟨item, hitem, rfl⟩ := List.mem_map.1 hmessage
      exact (hsendable item hitem).fits
    obtain ⟨line, hreceived, hrest⟩ := receiveAll_of_brings hfits hlimit hbrings hahead
    rw [List.map_map, List.map_map] at hreceived
    exact ⟨line, hreceived, hrest⟩
  · intro timeout patience kind line line' heading h
    obtain ⟨got, hahead, hfinished⟩ := Line.read_ahead (read_of_recvHeading h)
    rw [hahead, (hfinished _ rfl).1]
  · intro sender item delivered hlarge
    rw [sendOver, Message.frame_of_lt hlarge]

/-- Two frames, a byte behind them, and the end of the stream.  The first frame is written in three
pieces and the stream arrives in four. -/
theorem frames_arrive_as_sent_in_pieces :
    16 < 2 ^ 32
      ∧ inTurn (sendOver 16 ⟨{}, 0, []⟩)
          [(.command 7 1 [0xAB, 0xCD], [5, 1, 20]), (.response 0xFFFFFFFF .notFound [], [12])] []
        = (.finished [.command ⟨7, 1, 2⟩, .response ⟨0xFFFFFFFF, 1, 0⟩],
            [7, 0, 0, 0, 1, 0, 0, 0, 2, 0, 0, 0, 0xAB, 0xCD,
              0xFF, 0xFF, 0xFF, 0xFF, 1, 0, 0, 0, 0, 0, 0, 0])
      ∧ ∃ line, inTurn (receive (Line.reader (some 10) none) 16) [.command, .response]
          ⟨{ unread := [7, 0, 0] }, 0,
            Schedule.ofChunks [(1, [0, 1, 0, 0, 0, 2, 0, 0, 0, 0xAB]),
              (4, [0xCD, 0xFF, 0xFF, 0xFF, 0xFF, 1, 0, 0, 0, 0, 0]), (6, [0, 0, 0xEE])]
              ++ [(9, .finish)]⟩
          = (.finished [(.command ⟨7, 1, 2⟩, [0xAB, 0xCD]), (.response ⟨0xFFFFFFFF, 1, 0⟩, [])],
              line)
        ∧ line.ahead = [0xEE] := by
  have hlimit : 16 < 2 ^ 32 := by decide
  have hsendable : ∀ item ∈ [(Message.command 7 1 [0xAB, 0xCD], [5, 1, 20]),
      (Message.response 0xFFFFFFFF .notFound [], [12])], Sendable 16 item := by
    intro item hitem
    rcases List.mem_cons.1 hitem with rfl | hitem
    · exact ⟨by decide, by decide, by decide⟩
    · obtain rfl := List.mem_singleton.1 hitem
      exact ⟨by decide, by decide, by decide⟩
  obtain ⟨hsent, hreceived⟩ := (frames_arrive_as_sent hlimit).1 ⟨{}, 0, []⟩ _ rfl hsendable
  exact ⟨hlimit, hsent, hreceived (some 10) none { unread := [7, 0, 0] } 0 _ [(9, .finish)] [0xEE]
    rfl rfl (by decide) rfl⟩

end Frame
end TokenBroker
