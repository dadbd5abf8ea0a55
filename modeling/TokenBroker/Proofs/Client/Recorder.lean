import TokenBroker.Proofs.Client.Direct
/-!
# A far side that keeps a record

Bytes that a client has read are gone, and so are those that it has written.  `Remote.recorded` is
any far side with a `Tape` beside its state: for every connection a `Log` of the bytes that it took
in, of the bytes that it let arrive, and of what callers were told.

* `Passes` says what went over the open connection while something was done with it, in both
  directions; it composes.
* `recorded_reader`, `recorded_write` and `recorded_recvResponse` are reading, writing, and
  receiving a response, whatever the far side does: what was read is what was at the front of the
  unread bytes, and what was written is a beginning of what was to be written.
-/

set_option autoImplicit false

namespace TokenBroker

/-! ## Records -/

/-- What went over one connection. -/
structure Log where
  /-- The bytes that the far side took in. -/
  sent : Bytes := []
  /-- The bytes that it let arrive. -/
  arrived : Bytes := []
  /-- The calls that were answered, in order, and what was told of the answer. -/
  told : List (Client.Call × Client.Answer) := []
  deriving DecidableEq

/-- What went over all connections. -/
structure Tape where
  /-- The connections that were closed, the latest first. -/
  closed : List Log := []
  /-- The connection that is open. -/
  current : Option Log := none

namespace Tape

/-- All connections, the latest first. -/
def logs (t : Tape) : List Log := t.current.toList ++ t.closed

/-- The open connection is closed. -/
def hungUp (t : Tape) : Tape := ⟨t.logs, none⟩

/-- A new connection is open. -/
def connected (t : Tape) : Tape := ⟨t.logs, some {}⟩

/-- Something is noted of the open connection. -/
def note (t : Tape) (change : Log → Log) : Tape := { t with current := t.current.map change }

end Tape

/-- The bytes that arrive up to a point in time. -/
def Schedule.contentBy (time : Nat) (coming : Schedule) : Bytes :=
  (coming.takeWhile fun item => item.1 ≤ time).flatMap fun item => item.2.content

/-- A far side that keeps a record. -/
def Remote.recorded {σ : Type} (r : Remote σ) : Remote (σ × Tape) where
  now s := r.now s.1
  connect endpoint s :=
    match r.connect endpoint s.1 with
    | (.done, w) => (.done, w, s.2.connected)
    | (attempt, w) => (attempt, w, s.2)
  offer bytes s :=
    let offered := r.offer bytes s.1
    (offered.1, offered.2,
      s.2.note fun log => { log with sent := log.sent ++ bytes.take offered.1 })
  roomAt s := r.roomAt s.1
  arrivals wanted s := r.arrivals wanted s.1
  waitUntil wanted time s :=
    (r.waitUntil wanted time s.1,
      s.2.note fun log =>
        { log with arrived := log.arrived ++ Schedule.contentBy time (r.arrivals wanted s.1) })
  close arrival s := (r.close arrival s.1, s.2.hungUp)

/-! ## Nothing is lost on a line -/

namespace Schedule

theorem contentBy_cons {time now : Nat} {arrival : Arrival} {coming : Schedule} (h : time ≤ now) :
    contentBy now ((time, arrival) :: coming) = arrival.content ++ contentBy now coming := by
  rw [contentBy, List.takeWhile_cons_of_pos (by simpa using h), List.flatMap_cons]
  rfl

theorem contentBy_append {time : Nat} {past : Schedule} (h : ∀ item ∈ past, item.1 ≤ time)
    (later : Schedule) : contentBy time (past ++ later) = content past ++ contentBy time later := by
  rw [contentBy, List.takeWhile_append_of_pos fun item hitem => decide_eq_true (h item hitem),
    List.flatMap_append]
  rfl

theorem contentBy_of_lt {time now : Nat} {arrival : Arrival} {coming : Schedule} (h : now < time) :
    contentBy now ((time, arrival) :: coming) = [] := by
  rw [contentBy, List.takeWhile_cons_of_neg (by simpa using h)]
  rfl

end Schedule

namespace Line

/-- What has arrived by now is taken in. -/
theorem unread_settle (l : Line) :
    l.settle.socket.unread = l.socket.unread ++ Schedule.contentBy l.now l.coming
      ∧ l.settle.now = l.now := by
  obtain ⟨socket, now, coming⟩ := l
  show (settleFrom socket now coming).socket.unread = _ ∧ (settleFrom socket now coming).now = now
  induction coming generalizing socket with
  | nil => exact ⟨(List.append_nil _).symm, rfl⟩
  | cons item later ih =>
    obtain ⟨time, arrival⟩ := item
    rw [settleFrom]
    split
    · next hby =>
      obtain ⟨hunread, hnow⟩ := ih (socket.receive arrival)
      refine ⟨?_, hnow⟩
      rw [hunread, Socket.unread_receive, Schedule.contentBy_cons hby, List.append_assoc]
    · next hlate =>
      rw [Schedule.contentBy_of_lt (Nat.not_le.1 hlate)]
      exact ⟨(List.append_nil _).symm, rfl⟩

/-- **A read takes what it reads off the front of what is there or arrives meanwhile.** -/
theorem read_cases {l l' : Line} {n : Nat} {timeout patience : Option Nat}
    {outcome : Outcome ConnectionError Bytes} (h : l.read n timeout patience = (outcome, l')) :
    ∃ got, l.socket.unread ++ Schedule.contentBy l'.now l.coming = got ++ l'.socket.unread
      ∧ ∀ bytes, outcome = .finished bytes → got = bytes ∧ bytes.length = n := by
  obtain ⟨outcome₁, l₁, hawait⟩ : ∃ outcome₁ l₁,
    awaitFrom (fun soFar socket => socket.fill n soFar) (timeout.map (l.now + ·)) patience []
      l.socket l.now l.coming = (outcome₁, l₁) := ⟨_, _, rfl⟩
  obtain ⟨past, got, hpast, -, hby, hgot, hfinished⟩ := awaitFrom_fill (Nat.zero_le n) hawait
  obtain ⟨hunread, hnow⟩ := l₁.unread_settle
  rw [read, await, hawait] at h
  obtain ⟨rfl, rfl⟩ := Prod.mk.inj h
  refine ⟨got, ?_, hfinished⟩
  rw [hnow, hunread, hpast, Schedule.contentBy_append hby, ← List.append_assoc,
    ← List.append_assoc, ← hgot, List.nil_append]

/-- Time that passes reads nothing. -/
theorem sleep_cases (l : Line) (duration : Nat) :
    (l.sleep duration).socket.unread
      = l.socket.unread ++ Schedule.contentBy (l.sleep duration).now l.coming := by
  obtain ⟨hunread, hnow⟩ := unread_settle { l with now := l.now + duration }
  rw [sleep, hnow]
  exact hunread

end Line

/-! ## On the open connection -/

/-- What was done with a connection wrote some bytes and read some. -/
structure Passes (written read : Bytes) (socket socket' : Socket) (log log' : Log) : Prop where
  sent : log'.sent = log.sent ++ written
  arrived : ∃ more, log'.arrived = log.arrived ++ more
    ∧ socket.unread ++ more = read ++ socket'.unread
  told : log'.told = log.told

namespace Passes

variable {written written' read read' : Bytes} {socket socket₁ socket' : Socket}
  {log log₁ log' : Log}

theorem refl (socket : Socket) (log : Log) : Passes [] [] socket socket log log :=
  ⟨(List.append_nil _).symm, ⟨[], (List.append_nil _).symm, List.append_nil _⟩, rfl⟩

theorem trans (h : Passes written read socket socket₁ log log₁)
    (h' : Passes written' read' socket₁ socket' log₁ log') :
    Passes (written ++ written') (read ++ read') socket socket' log log' := by
  obtain ⟨more, harrived, hread⟩ := h.arrived
  obtain ⟨more', harrived', hread'⟩ := h'.arrived
  refine ⟨?_, ⟨more ++ more', ?_, ?_⟩, h'.told.trans h.told⟩
  · rw [h'.sent, h.sent, List.append_assoc]
  · rw [harrived', harrived, List.append_assoc]
  · rw [← List.append_assoc, hread, List.append_assoc, hread', List.append_assoc]

/-- If all that arrived before was read or unread, so is all that has arrived since. -/
theorem taken {before : Bytes} (h : Passes written read socket socket' log log')
    (hbefore : log.arrived = before ++ socket.unread) :
    log'.arrived = before ++ read ++ socket'.unread := by
  obtain ⟨more, harrived, hread⟩ := h.arrived
  rw [harrived, hbefore, List.append_assoc, hread, List.append_assoc]

end Passes

namespace Remote

variable {σ : Type} (r : Remote σ) (socket : Socket) (w : σ) (closed : List Log) (log : Log)

/-- What an operation on the line of a connection read, it read off that connection. -/
theorem passes_follow (wanted : Nat) {l : Line} {read : Bytes}
    (h : socket.unread ++ Schedule.contentBy l.now (r.arrivals wanted w)
      = read ++ l.socket.unread) :
    ∃ log', r.recorded.follow wanted l (w, ⟨closed, some log⟩)
        = (l.socket, r.waitUntil wanted l.now w, ⟨closed, some log'⟩)
      ∧ Passes [] read socket l.socket log log' :=
  ⟨{ log with arrived := log.arrived ++ Schedule.contentBy l.now (r.arrivals wanted w) }, rfl,
    (List.append_nil _).symm, ⟨_, rfl, h⟩, rfl⟩

theorem recorded_sleep (duration : Nat) :
    ∃ socket' w' log', r.recorded.sleep duration socket (w, ⟨closed, some log⟩)
        = (socket', w', ⟨closed, some log'⟩)
      ∧ Passes [] [] socket socket' log log' := by
  have hslept := ((r.line 0 socket w).sleep_cases duration).symm
  rw [← List.nil_append ((r.line 0 socket w).sleep duration).socket.unread] at hslept
  obtain ⟨log', hfollow, hpasses⟩ := r.passes_follow socket w closed log 0 hslept
  exact ⟨_, _, log', hfollow, hpasses⟩

/-- **Whatever the far side does, a read takes what it reads off the front of the unread bytes.** -/
theorem recorded_reader (timeout patience : Option Nat) (n : Nat) :
    ∃ outcome socket' w' log' got,
      r.recorded.reader timeout patience n (socket, w, ⟨closed, some log⟩)
        = (outcome, socket', w', ⟨closed, some log'⟩)
      ∧ Passes [] got socket socket' log log'
      ∧ ∀ bytes, outcome = .finished bytes → got = bytes ∧ bytes.length = n := by
  obtain ⟨outcome, l, hread⟩ : ∃ outcome l,
    (r.line n socket w).read n timeout patience = (outcome, l) := ⟨_, _, rfl⟩
  obtain ⟨got, hgot, hfinished⟩ := Line.read_cases hread
  obtain ⟨log', hfollow, hpasses⟩ := r.passes_follow socket w closed log n hgot
  have hline : r.recorded.line n socket (w, ⟨closed, some log⟩) = r.line n socket w := rfl
  refine ⟨outcome, l.socket, r.waitUntil n l.now w, log', got, ?_, hpasses, hfinished⟩
  rw [reader, hline, hread]
  exact congrArg (Prod.mk outcome) hfollow

/-! ## Writing -/

theorem recorded_awaitRoom (patience : Option Nat) :
    ∃ outcome socket' w' log', r.recorded.awaitRoom patience socket (w, ⟨closed, some log⟩)
        = (outcome, socket', w', ⟨closed, some log'⟩)
      ∧ Passes [] [] socket socket' log log' := by
  obtain ⟨socket₁, w₁, log₁, hslept, hpasses₁⟩ :=
    r.recorded_sleep socket w closed log (patience.getD (r.now w) - r.now w)
  have hnow : r.recorded.now (w, ⟨closed, some log⟩) = r.now w := rfl
  rw [awaitRoom, hnow, hslept]
  dsimp only
  split
  · exact ⟨_, socket₁, w₁, log₁, rfl, hpasses₁⟩
  · next time htime =>
    split
    · obtain ⟨socket₂, w₂, log₂, hwaited, hpasses₂⟩ :=
        r.recorded_sleep socket w closed log (time - r.now w)
      rw [hwaited]
      dsimp only
      split
      · exact ⟨_, socket₂, w₂, log₂, rfl, hpasses₂⟩
      · exact ⟨_, socket₂, w₂, log₂, rfl, hpasses₂⟩
    · exact ⟨_, socket₁, w₁, log₁, rfl, hpasses₁⟩

/-- One offer is taken in as far as the far side says. -/
theorem passes_offer (bytes : Bytes) :
    ∃ w' log', r.recorded.offer bytes (w, ⟨closed, some log⟩)
        = ((r.offer bytes w).1, w', ⟨closed, some log'⟩)
      ∧ Passes (bytes.take (r.offer bytes w).1) [] socket socket log log' :=
  ⟨_, { log with sent := log.sent ++ bytes.take (r.offer bytes w).1 }, rfl, rfl,
    ⟨[], (List.append_nil _).symm, List.append_nil _⟩, rfl⟩

theorem recorded_writeRest (patience : Option Nat) (expected : Nat) (rest : Bytes) :
    ∃ outcome socket' w' log' part,
      r.recorded.writeRest patience expected rest socket (w, ⟨closed, some log⟩)
        = (outcome, socket', w', ⟨closed, some log'⟩)
      ∧ Passes part [] socket socket' log log' ∧ part <+: rest
      ∧ (outcome = .finished () → part = rest) := by
  induction hlen : rest.length using Nat.strongRecOn generalizing rest socket w log with
  | _ n ih =>
  subst hlen
  rw [writeRest]
  split
  · next hnil =>
    exact ⟨_, socket, w, log, [], rfl, .refl socket log, List.nil_prefix, fun _ => hnil.symm⟩
  · next hrest =>
    obtain ⟨outcome, socket₁, w₁, log₁, hroom, hpasses₁⟩ :=
      r.recorded_awaitRoom socket w closed log patience
    rw [hroom]
    cases outcome with
    | abandoned =>
      exact ⟨_, socket₁, w₁, log₁, [], rfl, hpasses₁, List.nil_prefix, fun h => by cases h⟩
    | failed e =>
      exact ⟨_, socket₁, w₁, log₁, [], rfl, hpasses₁, List.nil_prefix, fun h => by cases h⟩
    | finished done =>
      obtain ⟨w₂, log₂, hoffer, hpasses₂⟩ := r.passes_offer socket₁ w₁ closed log₁ rest
      have hpasses := hpasses₁.trans hpasses₂
      rw [List.nil_append, List.nil_append] at hpasses
      simp only [hoffer]
      generalize (r.offer rest w₁).1 = taken at hpasses
      split
      · exact ⟨_, socket₁, w₂, log₂, _, rfl, hpasses, List.take_prefix _ _, fun h => by cases h⟩
      · next htaken =>
        have hshorter : (rest.drop taken).length < rest.length := by
          have := List.length_pos_iff.2 hrest
          rw [List.length_drop]
          omega
        obtain ⟨outcome, socket₃, w₃, log₃, part, hwrite, hpasses₃, hpart, hdone⟩ :=
          ih _ hshorter socket₁ w₂ log₂ (rest.drop taken) rfl
        refine ⟨outcome, socket₃, w₃, log₃, rest.take taken ++ part, hwrite, hpasses.trans hpasses₃,
          ?_, fun h => ?_⟩
        · conv_rhs => rw [← List.take_append_drop taken rest]
          exact List.prefix_append_right_inj _ |>.2 hpart
        · rw [hdone h, List.take_append_drop]

/-- **Whatever the far side does, it takes in a beginning of what is written.** -/
theorem recorded_write (patience : Option Nat) (bytes : Bytes) :
    ∃ outcome socket' w' log' part,
      r.recorded.write patience bytes socket (w, ⟨closed, some log⟩)
        = (outcome, socket', w', ⟨closed, some log'⟩)
      ∧ Passes part [] socket socket' log log' ∧ part <+: bytes
      ∧ (outcome = .finished () → part = bytes) := by
  rw [write]
  split
  · next hempty =>
    exact ⟨_, socket, w, log, [], rfl, .refl socket log, List.nil_prefix,
      fun _ => (List.isEmpty_iff.1 hempty).symm⟩
  · split
    · exact ⟨_, socket, w, log, [], rfl, .refl socket log, List.nil_prefix, fun h => by cases h⟩
    · obtain ⟨w₁, log₁, hoffer, hpasses₁⟩ := r.passes_offer socket w closed log bytes
      simp only [hoffer]
      generalize (r.offer bytes w).1 = taken at hpasses₁
      obtain ⟨outcome, socket₂, w₂, log₂, part, hwrite, hpasses₂, hpart, hdone⟩ :=
        r.recorded_writeRest socket w₁ closed log₁ patience bytes.length (bytes.drop taken)
      refine ⟨outcome, socket₂, w₂, log₂, bytes.take taken ++ part, hwrite,
        hpasses₁.trans hpasses₂, ?_, fun h => ?_⟩
      · conv_rhs => rw [← List.take_append_drop taken bytes]
        exact List.prefix_append_right_inj _ |>.2 hpart
      · rw [hdone h, List.take_append_drop]

/-! ## Receiving -/

theorem recorded_recvResponseHeader (timeout patience : Option Nat) :
    ∃ outcome socket' w' log' got,
      Frame.recvResponseHeader (r.recorded.reader timeout patience) (socket, w, ⟨closed, some log⟩)
        = (outcome, socket', w', ⟨closed, some log'⟩)
      ∧ Passes [] got socket socket' log log'
      ∧ ∀ header, outcome = .finished header → got = header.encode := by
  obtain ⟨outcome, socket', w', log', got, hread, hpasses, hfinished⟩ :=
    r.recorded_reader socket w closed log timeout patience Header.size
  refine ⟨Frame.decoded ResponseHeader.decode? outcome, socket', w', log', got, ?_, hpasses,
    fun header hheader => ?_⟩
  · rw [Frame.recvResponseHeader, hread]
  · obtain ⟨bytes, rfl, hdecode⟩ := Frame.decoded_eq_finished hheader
    rw [(hfinished bytes rfl).1, ResponseHeader.encode_of_decode? hdecode]

theorem recorded_recvPayload (timeout patience : Option Nat) (limit : Nat) (size : UInt32) :
    ∃ outcome socket' w' log' got,
      Frame.recvPayload (r.recorded.reader timeout patience) limit size
          (socket, w, ⟨closed, some log⟩)
        = (outcome, socket', w', ⟨closed, some log'⟩)
      ∧ Passes [] got socket socket' log log'
      ∧ ∀ body, outcome = .finished body →
        got = body ∧ body.length = size.toNat ∧ size.toNat ≤ limit := by
  rw [Frame.recvPayload, Frame.payloadNeed]
  rcases Nat.lt_or_ge limit size.toNat with hlarge | hfits
  · rw [if_pos hlarge]
    exact ⟨_, socket, w, log, [], rfl, .refl socket log, fun body hbody => by cases hbody⟩
  · rw [if_neg (Nat.not_lt.2 hfits)]
    cases hsize : size.toNat with
    | zero =>
      refine ⟨_, socket, w, log, [], rfl, .refl socket log, fun body hbody => ?_⟩
      obtain rfl := Outcome.finished.inj hbody
      exact ⟨rfl, rfl, Nat.zero_le limit⟩
    | succ n =>
      obtain ⟨outcome, socket', w', log', got, hread, hpasses, hfinished⟩ :=
        r.recorded_reader socket w closed log timeout patience (n + 1)
      refine ⟨Frame.decoded some outcome, socket', w', log', got, ?_, hpasses, fun body hbody => ?_⟩
      · simp only [hread]
      · obtain ⟨bytes, rfl, hdecode⟩ := Frame.decoded_eq_finished hbody
        obtain rfl := Option.some.inj hdecode
        exact ⟨(hfinished bytes rfl).1, (hfinished bytes rfl).2, hsize ▸ hfits⟩

/-- **Whatever the far side does, a response that is received was at the front of the unread bytes,
and nothing else was read.** -/
theorem recorded_recvResponse (timeout patience : Option Nat) (limit : Nat) :
    ∃ outcome socket' w' log' got,
      Frame.recvResponse (r.recorded.reader timeout patience) limit (socket, w, ⟨closed, some log⟩)
        = (outcome, socket', w', ⟨closed, some log'⟩)
      ∧ Passes [] got socket socket' log log'
      ∧ ∀ header body, outcome = .finished (header, body) → got = header.encode ++ body
        ∧ body.length = header.dataSize.toNat ∧ header.dataSize.toNat ≤ limit := by
  obtain ⟨outcome₁, socket₁, w₁, log₁, got₁, hheader, hpasses₁, hfinished₁⟩ :=
    r.recorded_recvResponseHeader socket w closed log timeout patience
  rw [Frame.recvResponse, hheader]
  cases outcome₁ with
  | failed e => exact ⟨_, socket₁, w₁, log₁, got₁, rfl, hpasses₁, fun _ _ h => by cases h⟩
  | abandoned => exact ⟨_, socket₁, w₁, log₁, got₁, rfl, hpasses₁, fun _ _ h => by cases h⟩
  | finished header =>
    obtain ⟨outcome₂, socket₂, w₂, log₂, got₂, hpayload, hpasses₂, hfinished₂⟩ :=
      r.recorded_recvPayload socket₁ w₁ closed log₁ timeout patience limit header.dataSize
    have hpasses := hpasses₁.trans hpasses₂
    dsimp only
    rw [hpayload]
    cases outcome₂ with
    | failed e => exact ⟨_, socket₂, w₂, log₂, _, rfl, hpasses, fun _ _ h => by cases h⟩
    | abandoned => exact ⟨_, socket₂, w₂, log₂, _, rfl, hpasses, fun _ _ h => by cases h⟩
    | finished payload =>
      refine ⟨_, socket₂, w₂, log₂, _, rfl, hpasses, fun header' body h => ?_⟩
      obtain ⟨rfl, rfl⟩ := Prod.mk.inj (Outcome.finished.inj h)
      obtain ⟨rfl, hlength, hlimit⟩ := hfinished₂ payload rfl
      exact ⟨by rw [hfinished₁ header rfl], hlength, hlimit⟩

end Remote
end TokenBroker
