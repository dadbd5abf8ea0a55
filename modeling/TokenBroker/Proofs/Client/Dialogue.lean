import TokenBroker.Proofs.Client.Recorder
/-!
# What is said on a connection

A client and whatever is at the other end of its connection, call by call.

* `Dialogue` says of the bytes in both directions that they are commands with consecutive ids and
  one response to each, as the calls were told.
* `Called` lists how a call on an open connection ends, with what it leaves of the connection and
  its numbering; `call_cases` says that there is nothing else.
* `Executed` and `Link.execute` are the same for any call, which may have to connect first.
-/

set_option autoImplicit false

namespace TokenBroker

/-- The id of the `n`-th command on a connection; the one before the first is the initial one. -/
def ClientSettings.commandId (settings : ClientSettings) (n : Nat) : UInt32 :=
  settings.initialCommandId + UInt32.ofNat n

theorem ClientSettings.commandId_zero (settings : ClientSettings) :
    settings.commandId 0 = settings.initialCommandId := UInt32.add_zero _

theorem ClientSettings.commandId_succ (settings : ClientSettings) (n : Nat) :
    settings.commandId (n + 1) = settings.commandId n + 1 := by
  rw [commandId, commandId, UInt32.ofNat_add, UInt32.add_assoc]
  rfl

/-- Any other id than the one that was issued is refused. -/
theorem Sequence.Tracker.pair_of_ne {id received : UInt32} (h : received ≠ id) :
    ∃ e tracker, (⟨id, true, none⟩ : Tracker).pair received = (.error e, tracker) := by
  have hnot : ¬ (true && received == id) = true := by simpa using h
  simp only [pair, if_neg hnot]
  split
  · exact ⟨_, _, rfl⟩
  · exact ⟨_, _, rfl⟩

/-- The error is what the daemon answered. -/
def RegistryError.isAnswer : RegistryError → Bool
  | notFound => true
  | storage => true
  | rejected _ => true
  | _ => false

/-- The error is the connection's, or lies in what was said on it. -/
def RegistryError.isFault : RegistryError → Bool
  | transport _ => true
  | timeout => true
  | protocolDesync _ _ => true
  | protocol _ => true
  | _ => false

namespace Client

/-- The call ended with what the daemon answered. -/
def CallEnd.isAnswer {α : Type} : CallEnd α → Bool
  | ok _ => true
  | failed e => e.isAnswer
  | abandoned => false

/-- The call was given up, or failed through the connection or what was said on it. -/
def CallEnd.isVain {α : Type} : CallEnd α → Bool
  | ok _ => false
  | failed e => e.isFault
  | abandoned => true

/-- What the caller is told is what the daemon answered. -/
def Answer.isAnswer : Answer → Bool
  | outcome ended => ended.isAnswer
  | token ended => ended.isAnswer

theorem CallEnd.isAnswer_discard {α : Type} (ended : CallEnd α) :
    ended.discard.isAnswer = ended.isAnswer := by
  cases ended <;> rfl

theorem Call.isAnswer_wrap (call : Call) (ended : CallEnd Bytes) :
    (call.wrap ended).isAnswer = ended.isAnswer := by
  cases call with
  | store blob => exact ended.isAnswer_discard
  | read => rfl
  | delete => exact ended.isAnswer_discard

/-! ## Commands and responses -/

/-- The command of a call. -/
def Call.request (call : Call) (id : UInt32) : Request := ⟨id, call.command, call.payload⟩

/-- A response is to the command of an id, is acceptable, and means that the call ends so. -/
structure Answers (limit : Nat) (id : UInt32) (header : ResponseHeader) (body : Bytes)
    (ended : CallEnd Bytes) : Prop where
  id : header.id = id
  meaning : ∃ result, ResultCode.ofCode? header.result = some result
    ∧ ended = .ofExcept (interpret result body)
  size : header.dataSize.toNat ≤ limit
  length : body.length = header.dataSize.toNat

/-- The calls that were answered on a connection, the bytes of their commands, and the bytes of the
responses. -/
inductive Dialogue (settings : ClientSettings) : List (Call × Answer) → Bytes → Bytes → Prop where
  | start : Dialogue settings [] [] []
  | turn {told : List (Call × Answer)} {sent taken : Bytes} {call : Call} {header : ResponseHeader}
      {body : Bytes} {ended : CallEnd Bytes} :
      Dialogue settings told sent taken → call.payload.length ≤ settings.maxPayload →
      Answers settings.maxPayload (settings.commandId (told.length + 1)) header body ended →
      Dialogue settings (told ++ [(call, call.wrap ended)])
        (sent ++ (call.request (settings.commandId (told.length + 1))).frame)
        (taken ++ (header.encode ++ body))

theorem isAnswer_ofExcept_interpret (result : ResultCode) (body : Bytes) :
    (CallEnd.ofExcept (interpret result body)).isAnswer = true := by
  cases result <;> rfl

theorem Answers.isAnswer {limit : Nat} {id : UInt32} {header : ResponseHeader} {body : Bytes}
    {ended : CallEnd Bytes} (h : Answers limit id header body ended) : ended.isAnswer = true := by
  obtain ⟨result, -, rfl⟩ := h.meaning
  exact isAnswer_ofExcept_interpret result body

/-! ## On an open connection -/

theorem isFault_exchangeError (e : FrameError) : (exchangeError e).isFault = true := by
  cases e with
  | connection e => cases e <;> rfl
  | payloadTooLarge size max => rfl

theorem isFault_ofSequence (e : Sequence.Error) : (RegistryError.ofSequence e).isFault = true := by
  cases e <;> rfl

theorem validateResponse_ok_iff {header : ResponseHeader} {limit : Nat} {result : ResultCode} :
    validateResponse header limit = .ok result
      ↔ header.dataSize.toNat ≤ limit ∧ ResultCode.ofCode? header.result = some result := by
  rw [validateResponse, checkPayloadSize]
  rcases Nat.lt_or_ge limit header.dataSize.toNat with hlarge | hfits
  · rw [if_pos hlarge]
    exact ⟨fun h => (by cases h), fun h => absurd h.1 (Nat.not_le.2 hlarge)⟩
  · rw [if_neg (Nat.not_lt.2 hfits)]
    dsimp only
    cases ResultCode.ofCode? header.result with
    | none => exact ⟨fun h => (by cases h), fun h => (by cases h.2)⟩
    | some known => exact ⟨fun h => ⟨hfits, by rw [Except.ok.inj h]⟩, fun h => by cases h.2; rfl⟩

/-- A response is judged to be an acceptable one to the command sent last, or it is a fault. -/
theorem judge_cases {c : Client} {id : UInt32} (htracker : c.tracker = ⟨id, true, none⟩)
    {header : ResponseHeader} {body : Bytes} (hlength : body.length = header.dataSize.toNat) :
    (∃ result, c.judge header body
        = (.ok (interpret result body), { c with tracker := ⟨id, false, none⟩ })
      ∧ Answers c.settings.maxPayload id header body (.ofExcept (interpret result body)))
    ∨ ∃ e tracker, c.judge header body = (.error e, { c with tracker := tracker })
      ∧ e.isFault = true := by
  rw [judge]
  by_cases hid : header.id = id
  · rw [htracker, hid, Sequence.Tracker.pair_issued]
    dsimp only
    cases hvalid : validateResponse header c.settings.maxPayload with
    | error e => exact .inr ⟨_, _, rfl, rfl⟩
    | ok result =>
      obtain ⟨hsize, hcode⟩ := validateResponse_ok_iff.1 hvalid
      exact .inl ⟨result, rfl, hid, ⟨result, hcode, rfl⟩, hsize, hlength⟩
  · obtain ⟨e, tracker, hpair⟩ := Sequence.Tracker.pair_of_ne hid
    rw [htracker, hpair]
    exact .inr ⟨_, tracker, rfl, isFault_ofSequence e⟩

section Call

variable {σ : Type} (r : Remote σ) {c : Client} (socket : Socket) (w : σ) (closed : List Log)
  (log : Log)

/-- **Whatever the far side does, of a command a beginning is written, and a response that is
received is all that is read.** -/
theorem recorded_exchange (patience : Option Nat) (settings : ClientSettings) (q : Request)
    (hfits : q.payload.length ≤ settings.maxPayload) :
    ∃ outcome socket' w' log' part got,
      exchange r.recorded patience settings socket q.id q.command q.payload
          (w, ⟨closed, some log⟩)
        = (outcome, socket', w', ⟨closed, some log'⟩)
      ∧ Passes part got socket socket' log log' ∧ part <+: q.frame
      ∧ ∀ header body, outcome = .finished (header, body) →
        part = q.frame ∧ got = header.encode ++ body ∧ body.length = header.dataSize.toNat := by
  obtain ⟨segments, hframe, hflatten⟩ := q.ofCommand_eq hfits
  obtain ⟨outcome₁, socket₁, w₁, log₁, part, hwrite, hpasses₁, hpart, hdone⟩ :=
    r.recorded_write socket w closed log patience q.frame
  rw [exchange, hframe]
  dsimp only
  rw [hflatten, hwrite]
  cases outcome₁ with
  | failed e =>
    exact ⟨_, socket₁, w₁, log₁, part, [], rfl, hpasses₁, hpart, fun _ _ h => by cases h⟩
  | abandoned =>
    exact ⟨_, socket₁, w₁, log₁, part, [], rfl, hpasses₁, hpart, fun _ _ h => by cases h⟩
  | finished done =>
    obtain ⟨outcome₂, socket₂, w₂, log₂, got, hrecv, hpasses₂, hfinished⟩ :=
      r.recorded_recvResponse socket₁ w₁ closed log₁ settings.responseTimeout patience
        settings.maxPayload
    have hpasses := hpasses₁.trans hpasses₂
    rw [List.append_nil, List.nil_append] at hpasses
    refine ⟨outcome₂, socket₂, w₂, log₂, part, got, hrecv, hpasses, hpart, fun header body h => ?_⟩
    obtain ⟨hgot, hlength, -⟩ := hfinished header body h
    exact ⟨hdone rfl, hgot, hlength⟩

/-- How a call on an open connection ends: it is answered, the connection is lost, or it is given up
and leaves a connection that still owes a response. -/
inductive Called (q : Request) (settings : ClientSettings) (socket : Socket) (closed : List Log)
    (log : Log) : CallEnd Bytes × Client × σ × Tape → Prop where
  | answered {header : ResponseHeader} {body : Bytes} {ended : CallEnd Bytes} {socket' : Socket}
      {log' : Log} {w' : σ} :
      Answers settings.maxPayload q.id header body ended →
      Passes q.frame (header.encode ++ body) socket socket' log log' →
      Called q settings socket closed log
        (ended, ⟨settings, ⟨q.id, false, none⟩, some socket'⟩, w', ⟨closed, some log'⟩)
  | lost {e : RegistryError} {part got : Bytes} {socket' : Socket} {log' : Log} {w' : σ} :
      e.isFault = true → part <+: q.frame → Passes part got socket socket' log log' →
      Called q settings socket closed log (.failed e, fresh settings, w', ⟨log' :: closed, none⟩)
  | abandoned {part got : Bytes} {socket' : Socket} {log' : Log} {w' : σ} :
      part <+: q.frame → Passes part got socket socket' log log' →
      Called q settings socket closed log
        (.abandoned, ⟨settings, ⟨q.id, true, none⟩, some socket'⟩, w', ⟨closed, some log'⟩)

/-- Giving up a connection closes its log. -/
theorem recorded_fail (hsocket : c.socket = some socket) (e : RegistryError) :
    ∃ w', fail r.recorded c (w, ⟨closed, some log⟩) e
      = (.failed e, fresh c.settings, w', ⟨log :: closed, none⟩) := by
  refine ⟨r.close socket.farewell w, ?_⟩
  rw [fail, disconnect, farewell?, hsocket]
  rfl

/-- **There is no other way for a call on an open connection to end.** -/
theorem call_cases (patience : Option Nat) {last : UInt32}
    (htracker : c.tracker = ⟨last, false, none⟩) {command : Command} {payload : Bytes}
    (hfits : payload.length ≤ c.settings.maxPayload) :
    Called ⟨last + 1, command, payload⟩ c.settings socket closed log
      (c.call r.recorded patience socket command payload (w, ⟨closed, some log⟩)) := by
  obtain ⟨outcome, socket', w', log', part, got, hexchange, hpasses, hpart, hfinished⟩ :=
    recorded_exchange r socket w closed log patience c.settings ⟨last + 1, command, payload⟩ hfits
  rw [call, htracker, Sequence.Tracker.issue_rested]
  dsimp only
  rw [hexchange]
  cases outcome with
  | abandoned => exact .abandoned hpart hpasses
  | failed e =>
    obtain ⟨w'', hfail⟩ := recorded_fail r socket' w' closed log'
      (c := { c with tracker := ⟨last + 1, true, none⟩, socket := some socket' }) rfl
      (exchangeError e)
    dsimp only
    rw [hfail]
    exact .lost (isFault_exchangeError e) hpart hpasses
  | finished response =>
    obtain ⟨header, body⟩ := response
    obtain ⟨rfl, rfl, hlength⟩ := hfinished header body rfl
    dsimp only
    rcases judge_cases (c := { c with tracker := ⟨last + 1, true, none⟩, socket := some socket' })
      rfl hlength with ⟨result, hjudge, hanswers⟩ | ⟨e, tracker, hjudge, hfault⟩
    · rw [hjudge]
      cases hmeaning : interpret result body with
      | ok body' =>
        rw [hmeaning] at hanswers
        exact .answered hanswers hpasses
      | error e =>
        rw [hmeaning] at hanswers
        exact .answered hanswers hpasses
    · obtain ⟨w'', hfail⟩ := recorded_fail r socket' w' closed log'
        (c := { c with tracker := tracker, socket := some socket' }) rfl e
      rw [hjudge]
      dsimp only
      rw [hfail]
      exact .lost hfault hpart hpasses

end Call

/-! ## Between two calls -/

/-- All that was sent on a connection was answered, and what was not read is still to be read. -/
structure AtRest (settings : ClientSettings) (socket : Socket) (log : Log) (taken : Bytes) :
    Prop where
  dialogue : Dialogue settings log.told log.sent taken
  arrived : log.arrived = taken ++ socket.unread

/-- All that was sent on a connection was answered but for a beginning of the last command. -/
structure Kept (settings : ClientSettings) (log : Log) (call : Call) (sent part taken : Bytes) :
    Prop where
  dialogue : Dialogue settings log.told sent taken
  arrived : taken <+: log.arrived
  sent : log.sent = sent ++ part
  fits : call.payload.length ≤ settings.maxPayload
  part : part <+: (call.request (settings.commandId (log.told.length + 1))).frame

/-- A client between two calls, with the log of its connection: it has none and starts afresh, it is
at rest, or the last command is without its response. -/
inductive Link (settings : ClientSettings) : Client → Option Log → Prop where
  | unconnected : Link settings (fresh settings) none
  | rested {socket : Socket} {log : Log} {taken : Bytes} :
      AtRest settings socket log taken →
      Link settings ⟨settings, ⟨settings.commandId log.told.length, false, none⟩, some socket⟩
        (some log)
  | owed {socket : Socket} {log : Log} {call : Call} {sent part taken : Bytes} :
      Kept settings log call sent part taken →
      Link settings
        ⟨settings, ⟨settings.commandId (log.told.length + 1), true, none⟩, some socket⟩ (some log)

variable {settings : ClientSettings} {c : Client} {current : Option Log}

theorem atRest_new (settings : ClientSettings) : AtRest settings {} {} [] := ⟨.start, rfl⟩

theorem AtRest.kept {socket : Socket} {log : Log} {taken : Bytes}
    (h : AtRest settings socket log taken) : Kept settings log .read log.sent [] taken :=
  ⟨h.dialogue, h.arrived ▸ List.prefix_append _ _, (List.append_nil _).symm, Nat.zero_le _,
    List.nil_prefix⟩

theorem Link.settings_eq (h : Link settings c current) : c.settings = settings := by
  cases h <;> rfl

/-- The connection that a call goes over: the one there is, or a new one. -/
def Chosen (c : Client) (current : Option Log) (closed : List Log) (socket : Socket) (log : Log)
    (closed' : List Log) : Prop :=
  (c.socket = some socket ∧ current = some log ∧ closed' = closed)
    ∨ (socket = {} ∧ log = {} ∧ closed' = current.toList ++ closed)

/-- A client that is to have a connection at rest has one, or it has none. -/
inductive Prepared {σ : Type} (settings : ClientSettings) (c : Client) (current : Option Log)
    (closed : List Log) : CallEnd Unit × Client × σ × Tape → Prop where
  | ready {socket : Socket} {log : Log} {taken : Bytes} {w' : σ} {closed' : List Log} :
      AtRest settings socket log taken → Chosen c current closed socket log closed' →
      Prepared settings c current closed
        (.ok (), ⟨settings, ⟨settings.commandId log.told.length, false, none⟩, some socket⟩, w',
          ⟨closed', some log⟩)
  | unconnected {ended : CallEnd Unit} {w' : σ} :
      ended.isVain = true →
      Prepared settings c current closed
        (ended, fresh settings, w', ⟨current.toList ++ closed, none⟩)

/-- A connection that was dropped before is among those that are closed. -/
theorem Prepared.of_dropped {σ : Type} {closed : List Log}
    {result : CallEnd Unit × Client × σ × Tape}
    (h : Prepared settings (fresh settings) none (current.toList ++ closed) result) :
    Prepared settings c current closed result := by
  cases h with
  | ready hrest hchosen =>
    rcases hchosen with ⟨hsocket, -, -⟩ | ⟨hsocket, hlog, hclosed⟩
    · cases hsocket
    · exact .ready hrest (.inr ⟨hsocket, hlog, hclosed⟩)
  | unconnected hvain => exact .unconnected hvain

section

variable {σ : Type} (r : Remote σ) (w : σ) (closed : List Log)

theorem Link.disconnect (h : Link settings c current) :
    ∃ w', c.disconnect r.recorded (w, ⟨closed, current⟩)
      = (fresh settings, w', ⟨current.toList ++ closed, none⟩) := by
  cases h <;> exact ⟨_, rfl⟩

theorem Link.reconnect (h : Link settings c current) :
    Prepared settings c current closed (c.reconnect r.recorded (w, ⟨closed, current⟩)) := by
  obtain ⟨w₁, hdisconnect⟩ := h.disconnect r w closed
  rw [Client.reconnect, hdisconnect]
  dsimp only
  split
  · exact .unconnected rfl
  · next endpoint hendpoint =>
    obtain ⟨attempt, w₂, hattempt⟩ : ∃ attempt w₂, r.connect endpoint w₁ = (attempt, w₂) :=
      ⟨_, _, rfl⟩
    simp only [Remote.recorded, hattempt]
    cases attempt with
    | done =>
      have hnew : Prepared settings c current closed
          (.ok (), ⟨settings, ⟨settings.commandId 0, false, none⟩, some {}⟩, w₂,
            ⟨current.toList ++ closed, some {}⟩) :=
        .ready (atRest_new settings) (.inr ⟨rfl, rfl, rfl⟩)
      rwa [settings.commandId_zero] at hnew
    | failed e => exact .unconnected rfl
    | blocked => exact .unconnected rfl

end

/-! ## Any call -/

/-- What a call does before its command gets a number: it drops a connection that owes a response,
and it connects if there is none. -/
def prepare {σ : Type} (r : Remote σ) (c : Client) (w : σ) : CallEnd Unit × Client × σ :=
  let (c, w) := c.refresh r w
  match c.socket with
  | some _ => (.ok (), c, w)
  | none => c.reconnect r w

theorem execute_eq {σ : Type} (r : Remote σ) (patience : Option Nat) (c : Client)
    (command : Command) (payload : Bytes) (w : σ) :
    c.execute r patience command payload w =
      if payload.length > c.settings.maxPayload then
        (.failed (.tooLarge payload.length c.settings.maxPayload), c, w)
      else
        match c.prepare r w with
        | (.failed e, c, w) => (.failed e, c, w)
        | (.abandoned, c, w) => (.abandoned, c, w)
        | (.ok (), c, w) =>
          match c.socket with
          | some socket => c.call r patience socket command payload w
          | none => (.failed (.transport .notConnected), c, w) := by
  rw [execute, prepare]
  split
  · rfl
  · generalize c.refresh r w = refreshed
    obtain ⟨c', w'⟩ := refreshed
    dsimp only
    cases hsocket : c'.socket with
    | some socket => simp only [hsocket]
    | none => rfl

section

variable {σ : Type} (r : Remote σ) (w : σ) (closed : List Log)

/-- **Before its command gets a number, a call has a connection on which every command was answered,
or there is no connection.** -/
theorem Link.prepare (h : Link settings c current) :
    Prepared settings c current closed (c.prepare r.recorded (w, ⟨closed, current⟩)) := by
  cases h with
  | unconnected => exact Link.unconnected.reconnect r w closed
  | rested hrest => exact .ready hrest (.inl ⟨rfl, rfl, rfl⟩)
  | owed hkept =>
    exact (Link.unconnected.reconnect r (r.close (Socket.farewell _) w) _).of_dropped

/-- How a call ends: it is refused at once, it finds no connection, or it is made on one on which
every command was answered. -/
inductive Executed (settings : ClientSettings) (call : Call) (c : Client) (w : σ)
    (current : Option Log) (closed : List Log) : CallEnd Bytes × Client × σ × Tape → Prop where
  | tooLarge :
      settings.maxPayload < call.payload.length →
      Executed settings call c w current closed
        (.failed (.tooLarge call.payload.length settings.maxPayload), c, w, ⟨closed, current⟩)
  | unconnected {ended : CallEnd Bytes} {w' : σ} :
      ended.isVain = true →
      Executed settings call c w current closed
        (ended, fresh settings, w', ⟨current.toList ++ closed, none⟩)
  | called {socket : Socket} {log : Log} {taken : Bytes} {closed' : List Log}
      {result : CallEnd Bytes × Client × σ × Tape} :
      AtRest settings socket log taken → Chosen c current closed socket log closed' →
      call.payload.length ≤ settings.maxPayload →
      Called (call.request (settings.commandId (log.told.length + 1))) settings socket closed' log
        result →
      Executed settings call c w current closed result

/-- **There is no other way for a call to end.** -/
theorem Link.execute (h : Link settings c current) (call : Call) (patience : Option Nat) :
    Executed settings call c w current closed
      (c.execute r.recorded patience call.command call.payload (w, ⟨closed, current⟩)) := by
  have hprepared := h.prepare r w closed
  rw [execute_eq, h.settings_eq]
  split
  · next hlarge => exact .tooLarge hlarge
  · next hfits =>
    generalize c.prepare r.recorded (w, ⟨closed, current⟩) = prepared at hprepared
    cases hprepared with
    | @unconnected ended w' hvain =>
      cases ended with
      | ok done => cases hvain
      | failed e => exact .unconnected hvain
      | abandoned => exact .unconnected rfl
    | ready hrest hchosen =>
      refine .called hrest hchosen (Nat.not_lt.1 hfits) ?_
      rw [settings.commandId_succ]
      exact call_cases r _ _ _ _ (c := ⟨settings, ⟨_, false, none⟩, _⟩) patience rfl
        (Nat.not_lt.1 hfits)

end

end Client
end TokenBroker
