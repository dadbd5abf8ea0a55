import TokenBroker.Proofs.Client.Answers
import TokenBroker.Proofs.Client.Deadline
import TokenBroker.Proofs.Control.Spelling
/-!
# What the exit status tells

A run of the control program ends with status 0 if what was asked for was done, with 2 if there is
no token, and with 1 for any other reason.  The daemon may do what it likes.

* `Surroundings.recorded` are any surroundings with a record of what goes over the connection, and
  `run_recorded` says that keeping it changes nothing.
* `AnsweredWith` is a call that the daemon has answered: the command of the run went out as a whole,
  and the response to it came back.  `Unanswered` is a call that never ends.
* `Done` is a request that was carried out, with what is printed of it; `Absent` is one that the
  daemon has no token for, and `Stuck` one that never ends.  `carryOut_cases` says that for any
  other there is a complaint of another kind.
* `status_tells` is the result.  Arguments that make no sense are the exception: they have the
  status of a missing token, though nobody was asked.  `unusable_as_absent` is such a run.
-/

set_option autoImplicit false

namespace TokenBroker
namespace Control

open CommandLine Client

variable {σ : Type} (m : Surroundings σ)

/-! ## A record of the run -/

/-- The same surroundings with a record of what goes over connections. -/
def Surroundings.recorded : Surroundings (σ × Tape) where
  remote := m.remote.recorded
  readFile path s := m.readFile path s.1
  writeFile path bytes s :=
    ((m.writeFile path bytes s.1).1, (m.writeFile path bytes s.1).2, s.2)

theorem Surroundings.recorded_like : Remote.Like Prod.fst m.recorded.remote m.remote :=
  m.remote.recorded_like

theorem settings_recorded (a : Arguments) (s : σ × Tape) :
    settings m.recorded a s = settings m a s.1 := rfl

theorem token_recorded (source : TokenSource) (s : σ × Tape) :
    token m.recorded source s = token m source s.1 := by
  cases source <;> rfl

theorem handOver_recorded (target : Option String) (blob : Bytes) (s : σ × Tape) :
    handOver m.recorded target blob s
      = ((handOver m target blob s.1).1, (handOver m target blob s.1).2, s.2) := by
  cases target with
  | none => rfl
  | some path =>
    rw [handOver, handOver, Surroundings.recorded]
    dsimp only
    generalize m.writeFile path blob s.1 = written
    obtain ⟨result, w⟩ := written
    cases result <;> rfl

theorem carryOut_recorded (request : Request) (c : Client) (s : σ × Tape) :
    seenThrough Prod.fst (carryOut m.recorded request c s) = carryOut m request c s.1 := by
  cases request with
  | store source =>
    rw [carryOut, carryOut, token_recorded]
    cases token m source s.1 with
    | error complaint => rfl
    | ok blob =>
      dsimp only
      rw [Client.store, Client.store, ← execute_like m.recorded_like]
      rfl
  | read target =>
    rw [carryOut, carryOut, Client.read, Client.read, ← execute_like m.recorded_like]
    generalize c.execute m.recorded.remote none .readAuthToken [] s = result
    obtain ⟨ended, c', s'⟩ := result
    cases ended with
    | ok blob =>
      dsimp only [seenThrough]
      rw [handOver_recorded]
    | failed e => rfl
    | abandoned => rfl
  | delete =>
    rw [carryOut, carryOut, Client.delete, Client.delete, ← execute_like m.recorded_like]
    rfl
  | ping =>
    rw [carryOut, carryOut, ← reconnect_like m.recorded_like]
    rfl

/-- The report is the same with a record. -/
theorem report_recorded (request : Request) (c : Client) (s : σ × Tape) :
    (carryOut m.recorded request c s).1 = (carryOut m request c s.1).1 :=
  congrArg Prod.fst (carryOut_recorded m request c s)

/-- **A record is kept of a run that happens anyway.** -/
theorem run_recorded (words : List String) (s : σ × Tape) :
    Prod.map id Prod.fst (run m.recorded words s) = run m words s.1 := by
  rw [run, run]
  cases Arguments.ofWords words with
  | error d => rfl
  | ok a =>
    dsimp only
    rw [settings_recorded]
    cases settings m a s.1 with
    | error complaint => rfl
    | ok base =>
      dsimp only
      rw [← carryOut_recorded]
      obtain ⟨report, c, s'⟩ := carryOut m.recorded a.request (Client.fresh base) s
      cases report with
      | none => rfl
      | some report =>
        dsimp only [seenThrough]
        rw [← disconnect_like m.recorded_like]
        rfl

theorem logs_disconnect (c : Client) (s : σ × Tape) :
    (c.disconnect m.recorded.remote s).2.2.logs = s.2.logs := by
  rw [disconnect]
  cases c.farewell? <;> rfl

/-! ## How a run can end -/

/-- The daemon has answered the one call of a run, and that is all that went over a connection: the
command with the first id, and the response to it, and then perhaps bytes that nobody read. -/
structure AnsweredWith (s : ClientSettings) (call : Call) (w : σ) (logs : List Log)
    (result : ResultCode) (body : Bytes) (w' : σ) : Prop where
  ended : ∃ c, (Client.fresh s).execute m.remote none call.command call.payload w
    = (.ofExcept (interpret result body), c, w')
  bytes : ∃ (header : ResponseHeader) (unread : Bytes),
    logs = [⟨(call.request (s.commandId 1)).frame, header.encode ++ body ++ unread, []⟩]
      ∧ header.id = s.commandId 1 ∧ ResultCode.ofCode? header.result = some result
      ∧ body.length = header.dataSize.toNat ∧ header.dataSize.toNat ≤ s.maxPayload

/-- The call that a request makes, if it makes one. -/
def Request.call? (w : σ) : Request → Option Call
  | .store source => (token m source w).toOption.map .store
  | .read _ => some .read
  | .delete => some .delete
  | .ping => none

/-- A request was carried out, and what is printed of it: the call was answered with success, and a
token that was read is written; or the daemon has accepted the connection. -/
inductive Done (s : ClientSettings) (w : σ) (logs : List Log) : Request → String → Prop
  | stored {source : TokenSource} {blob body : Bytes} {w' : σ}
      (htoken : token m source w = .ok blob)
      (hanswer : AnsweredWith m s (.store blob) w logs .ok body w') :
      Done s w logs (.store source) ("Stored " ++ toString blob.length ++ " bytes\n")
  | printed {body : Bytes} {w' : σ} (hanswer : AnsweredWith m s .read w logs .ok body w') :
      Done s w logs (.read none) (Hex.encode body ++ "\n")
  | written {path : String} {body : Bytes} {w' w'' : σ}
      (hanswer : AnsweredWith m s .read w logs .ok body w')
      (hwrite : m.writeFile path body w' = (.ok (), w'')) : Done s w logs (.read (some path))
        ("Wrote " ++ toString body.length ++ " bytes to " ++ path ++ "\n")
  | deleted {body : Bytes} {w' : σ} (hanswer : AnsweredWith m s .delete w logs .ok body w') :
      Done s w logs .delete "Auth token deleted\n"
  | reached {endpoint : Endpoint} {w' : σ} (hendpoint : Endpoint.parse s.endpoint = .ok endpoint)
      (hconnect : m.remote.connect endpoint w = (.done, w')) : Done s w logs .ping "Daemon is up\n"

/-- The daemon has answered the call of a request that it has no token. -/
def Absent (s : ClientSettings) (w : σ) (logs : List Log) (request : Request) : Prop :=
  ∃ call body w', request.call? m w = some call ∧ AnsweredWith m s call w logs .notFound body w'

/-- A call never ends: the daemon does not take the connection, or not all of the command; or there
is no limit to waiting for the response, and it does not come. -/
inductive Unanswered (r : Remote σ) (s : ClientSettings) (call : Call) (w : σ) : Prop
  | unreached {endpoint : Endpoint} {w₁ : σ} (hfits : call.payload.length ≤ s.maxPayload)
      (hendpoint : Endpoint.parse s.endpoint = .ok endpoint)
      (hconnect : r.connect endpoint w = (.blocked, w₁))
  | unsent {endpoint : Endpoint} {w₁ w₂ : σ} {socket₂ : Socket}
      (hfits : call.payload.length ≤ s.maxPayload)
      (hendpoint : Endpoint.parse s.endpoint = .ok endpoint)
      (hconnect : r.connect endpoint w = (.done, w₁))
      (hwrite : r.write none (call.request (s.commandId 1)).frame {} w₁ = (.abandoned, socket₂, w₂))
  | silent {endpoint : Endpoint} {w₁ w₂ : σ} {socket₂ : Socket}
      (hfits : call.payload.length ≤ s.maxPayload)
      (hendpoint : Endpoint.parse s.endpoint = .ok endpoint)
      (hconnect : r.connect endpoint w = (.done, w₁))
      (hwrite : r.write none (call.request (s.commandId 1)).frame {} w₁
        = (.finished (), socket₂, w₂))
      (hlimit : s.responseTimeout = none)
      (hrecv : (Frame.recvResponse (r.reader none none) s.maxPayload (socket₂, w₂)).1 = .abandoned)

/-- A request never ends. -/
inductive Stuck (s : ClientSettings) (w : σ) : Request → Prop
  | call {request : Request} {call : Call} (hcall : request.call? m w = some call)
      (hunanswered : Unanswered m.remote s call w) : Stuck s w request
  | ping {endpoint : Endpoint} {w₁ : σ} (hendpoint : Endpoint.parse s.endpoint = .ok endpoint)
      (hconnect : m.remote.connect endpoint w = (.blocked, w₁)) : Stuck s w .ping

/-! ## The call of a run -/

section Call

variable {r : Remote σ} {s : ClientSettings} {call : Call} {w : σ}

/-- The client of a run connects before its call. -/
theorem reconnect_fresh (r : Remote σ) (s : ClientSettings) (w : σ) :
    (Client.fresh s).reconnect r w = match Endpoint.parse s.endpoint with
      | .error e => (.failed (.transport (.io e)), Client.fresh s, w)
      | .ok endpoint =>
        match r.connect endpoint w with
        | (.done, w) => (.ok (), { Client.fresh s with socket := some {} }, w)
        | (.failed e, w) =>
          (.failed (.transport (.connectFailed endpoint.display e)), Client.fresh s, w)
        | (.blocked, w) => (.abandoned, Client.fresh s, w) := rfl

theorem execute_fresh (r : Remote σ) (w : σ) (hfits : call.payload.length ≤ s.maxPayload) :
    (Client.fresh s).execute r none call.command call.payload w
      = match (Client.fresh s).reconnect r w with
        | (.failed e, c, w) => (.failed e, c, w)
        | (.abandoned, c, w) => (.abandoned, c, w)
        | (.ok (), c, w) =>
          match c.socket with
          | some socket => c.call r none socket call.command call.payload w
          | none => (.failed (.transport .notConnected), c, w) := by
  have hnot : ¬ call.payload.length > (Client.fresh s).settings.maxPayload := Nat.not_lt.2 hfits
  rw [execute_eq, if_neg hnot]
  rfl

theorem exchange_fresh (r : Remote σ) (w : σ) (hfits : call.payload.length ≤ s.maxPayload) :
    exchange r none s {} (s.commandId 1) call.command call.payload w
      = match r.write none (call.request (s.commandId 1)).frame {} w with
        | (.failed e, socket, w) => (.failed (.connection e), socket, w)
        | (.abandoned, socket, w) => (.abandoned, socket, w)
        | (.finished (), socket, w) =>
          Frame.recvResponse (r.reader s.responseTimeout none) s.maxPayload (socket, w) := by
  obtain ⟨segments, hframe, hflatten⟩ := (call.request (s.commandId 1)).ofCommand_eq hfits
  have hframe : Frame.ofCommand s.maxPayload (s.commandId 1) call.command.code call.payload
    = _ := hframe
  obtain ⟨outcome, socket₂, w₂, hwrite⟩ : ∃ outcome socket₂ w₂,
    r.write none (call.request (s.commandId 1)).frame {} w = (outcome, socket₂, w₂) :=
      ⟨_, _, _, rfl⟩
  rw [exchange, hframe, hwrite]
  cases outcome <;> simp only [hflatten, hwrite]

/-- A call on the new connection never ends exactly if its exchange does not. -/
theorem call_fresh_abandoned_iff (r : Remote σ) (s : ClientSettings) (call : Call) (w : σ) :
    (Client.call r none { Client.fresh s with socket := some {} } {} call.command call.payload
        w).1 = .abandoned
      ↔ (exchange r none s {} (s.commandId 1) call.command call.payload w).1 = .abandoned := by
  rw [Client.call, Client.fresh, Sequence.Tracker.fresh, Sequence.Tracker.issue_rested]
  show _ ↔ (exchange r none s {} (s.initialCommandId + 1) call.command call.payload w).1 = _
  dsimp only
  generalize exchange r none s {} (s.initialCommandId + 1) call.command call.payload w = exchanged
  obtain ⟨outcome, socket, w'⟩ := exchanged
  cases outcome with
  | abandoned => exact ⟨fun _ => rfl, fun _ => rfl⟩
  | failed e => exact iff_of_false (fun h => by cases h) fun h => by cases h
  | finished response =>
    dsimp only
    refine ⟨fun h => ?_, fun h => by cases h⟩
    split at h <;> cases h

/-- Where the daemon takes the connection, a call never ends exactly if its exchange does not. -/
theorem execute_abandoned_iff {endpoint : Endpoint} {w₁ : σ}
    (hfits : call.payload.length ≤ s.maxPayload)
    (hendpoint : Endpoint.parse s.endpoint = .ok endpoint)
    (hconnect : r.connect endpoint w = (.done, w₁)) :
    ((Client.fresh s).execute r none call.command call.payload w).1 = .abandoned
      ↔ (exchange r none s {} (s.commandId 1) call.command call.payload w₁).1 = .abandoned := by
  rw [execute_fresh r w hfits, reconnect_fresh, hendpoint]
  simp only [hconnect]
  exact call_fresh_abandoned_iff r s call w₁

/-- A response is only waited for without end if there is no limit to it. -/
theorem responseTimeout_of_abandoned {socket : Socket}
    (h : (Frame.recvResponse (r.reader s.responseTimeout none) s.maxPayload (socket, w)).1
      = .abandoned) : s.responseTimeout = none := by
  cases hlimit : s.responseTimeout with
  | none => rfl
  | some timeout =>
    -- How long it takes does not matter here, so the clock may stand still.
    have hpunctual : Frame.Punctual (r.reader (some timeout) none) (fun _ => 0) timeout :=
      ⟨fun n t => ((r.line n t.1 t.2).read_timed n timeout).1, fun _ _ => Nat.le_refl 0,
        fun _ _ => Nat.zero_le _⟩
    rw [hlimit] at h
    exact absurd h (hpunctual.recvResponse s.maxPayload (socket, w)).1

/-- **A call that never ends** is one that is not answered. -/
theorem unanswered_of_execute
    (h : ((Client.fresh s).execute r none call.command call.payload w).1 = .abandoned) :
    Unanswered r s call w := by
  rcases Nat.lt_or_ge s.maxPayload call.payload.length with hlarge | hfits
  · have hlarge : call.payload.length > (Client.fresh s).settings.maxPayload := hlarge
    rw [execute_eq, if_pos hlarge] at h
    cases h
  cases hendpoint : Endpoint.parse s.endpoint with
  | error e =>
    rw [execute_fresh r w hfits, reconnect_fresh, hendpoint] at h
    cases h
  | ok endpoint =>
    obtain ⟨attempt, w₁, hconnect⟩ : ∃ attempt w₁, r.connect endpoint w = (attempt, w₁) :=
      ⟨_, _, rfl⟩
    cases attempt with
    | failed e =>
      rw [execute_fresh r w hfits, reconnect_fresh, hendpoint] at h
      simp only [hconnect] at h
      cases h
    | blocked => exact .unreached hfits hendpoint hconnect
    | done =>
      rw [execute_abandoned_iff hfits hendpoint hconnect, exchange_fresh r w₁ hfits] at h
      obtain ⟨outcome, socket₂, w₂, hwrite⟩ : ∃ outcome socket₂ w₂,
        r.write none (call.request (s.commandId 1)).frame {} w₁ = (outcome, socket₂, w₂) :=
          ⟨_, _, _, rfl⟩
      rw [hwrite] at h
      cases outcome with
      | failed e => cases h
      | abandoned => exact .unsent hfits hendpoint hconnect hwrite
      | finished done =>
        have hlimit := responseTimeout_of_abandoned h
        rw [hlimit] at h
        exact .silent hfits hendpoint hconnect hwrite hlimit h

theorem Unanswered.execute (h : Unanswered r s call w) :
    ((Client.fresh s).execute r none call.command call.payload w).1 = .abandoned := by
  cases h with
  | unreached hfits hendpoint hconnect =>
    rw [execute_fresh r w hfits, reconnect_fresh, hendpoint]
    simp only [hconnect]
  | unsent hfits hendpoint hconnect hwrite =>
    rw [execute_abandoned_iff hfits hendpoint hconnect, exchange_fresh r _ hfits, hwrite]
  | silent hfits hendpoint hconnect hwrite hlimit hrecv =>
    rw [execute_abandoned_iff hfits hendpoint hconnect, exchange_fresh r _ hfits, hwrite, hlimit]
    exact hrecv

end Call

/-! ## The answer to it -/

variable {m} {s : ClientSettings} {w : σ} {logs : List Log} {request : Request} {call : Call}

/-- **A call that is answered was answered by the response to it.** -/
theorem answeredWith_of_execute {ended : CallEnd Bytes} {c : Client} {w' : σ} {tape : Tape}
    (hexecute : (Client.fresh s).execute m.recorded.remote none call.command call.payload (w, {})
      = (ended, c, w', tape)) (hanswer : ended.isAnswer = true) :
    ∃ result body, ended = .ofExcept (interpret result body)
      ∧ AnsweredWith m s call w tape.logs result body w' := by
  have hplain := execute_like m.recorded_like none (Client.fresh s) call.command call.payload
    (w, {})
  have hlink : Link s (Client.fresh s) none := .unconnected
  have hexecuted : Executed s call (Client.fresh s) w none [] ((Client.fresh s).execute
      m.recorded.remote none call.command call.payload (w, {})) :=
    hlink.execute m.remote w [] call none
  rw [hexecute] at hplain hexecuted
  generalize hresult : (ended, c, w', tape) = result at hexecuted
  cases hexecuted with
  | tooLarge hlarge =>
    cases hresult
    cases hanswer
  | unconnected hvain =>
    cases hresult
    rw [CallEnd.isAnswer_of_isVain hvain] at hanswer
    cases hanswer
  | called hrest hchosen hfits hcalled =>
    -- There was no connection, so the one of the call is new.
    obtain ⟨hsocket, -, -⟩ | ⟨rfl, rfl, rfl⟩ := hchosen
    · cases hsocket
    cases hcalled with
    | @lost e _ _ _ _ _ hfault hpart hpasses =>
      cases hresult
      have hvain : (CallEnd.failed (α := Bytes) e).isVain = true := hfault
      rw [CallEnd.isAnswer_of_isVain hvain] at hanswer
      cases hanswer
    | abandoned hpart hpasses =>
      cases hresult
      cases hanswer
    | @answered header body _ socket' log' _ hanswers hpasses =>
      cases hresult
      obtain ⟨result, hcode, rfl⟩ := hanswers.meaning
      obtain ⟨sent, arrived, told⟩ := log'
      obtain rfl : sent = _ := hpasses.sent
      have hnothing : ({} : Log).arrived = [] ++ ({} : Socket).unread := rfl
      obtain rfl : arrived = _ := hpasses.taken hnothing
      obtain rfl : told = [] := hpasses.told
      exact ⟨result, body, rfl, ⟨_, hplain.symm⟩, header, socket'.unread, rfl, hanswers.id, hcode,
        hanswers.length, hanswers.size⟩

theorem callComplaint_of_ne {e : RegistryError} (h : e ≠ .notFound) :
    callComplaint e = .failed [e.message] := by
  cases e <;> first | rfl | exact absurd rfl h

/-- How the call of a run ends, if it ends, and what is complained of then. -/
inductive Met (m : Surroundings σ) (s : ClientSettings) (call : Call) (w : σ) (logs : List Log) :
    CallEnd Bytes → σ → Prop
  | ok {body : Bytes} {w' : σ} (hanswer : AnsweredWith m s call w logs .ok body w') :
      Met m s call w logs (.ok body) w'
  | notFound {body : Bytes} {w' : σ} (hanswer : AnsweredWith m s call w logs .notFound body w') :
      Met m s call w logs (.failed .notFound) w'
  | failed {e : RegistryError} {w' : σ} (hcomplaint : callComplaint e = .failed [e.message]) :
      Met m s call w logs (.failed e) w'

theorem met_of_execute {ended : CallEnd Bytes} {c : Client} {w' : σ} {tape : Tape}
    (hexecute : (Client.fresh s).execute m.recorded.remote none call.command call.payload (w, {})
      = (ended, c, w', tape)) (hended : ended ≠ .abandoned) :
    Met m s call w tape.logs ended w' := by
  cases ended with
  | abandoned => exact absurd rfl hended
  | ok value =>
    obtain ⟨result, body, heq, hanswer⟩ := answeredWith_of_execute hexecute rfl
    cases result with
    | ok =>
      cases heq
      exact .ok hanswer
    | notFound | storageError | unknownCommand | payloadTooLarge | invalidPayload => cases heq
  | failed e =>
    by_cases he : e = .notFound
    · subst he
      obtain ⟨result, body, heq, hanswer⟩ := answeredWith_of_execute hexecute rfl
      cases result with
      | notFound => exact .notFound hanswer
      | ok | storageError | unknownCommand | payloadTooLarge | invalidPayload => cases heq
    · exact .failed (callComplaint_of_ne he)

/-! ## The report on a request -/

/-- The report on a request: that it was carried out, that there is no token, or a complaint of
another kind. -/
inductive Reported (m : Surroundings σ) (s : ClientSettings) (w : σ) (logs : List Log)
    (request : Request) : Report → Prop
  | done {output : String} (hdone : Done m s w logs request output) :
      Reported m s w logs request (done output)
  | absent (habsent : Absent m s w logs request) :
      Reported m s w logs request (.ofComplaint .absent)
  | failed (chain : List String) : Reported m s w logs request (.ofComplaint (.failed chain))

/-- A call that stores is made with a token. -/
theorem token_of_call? {source : TokenSource} (h : (Request.store source).call? m w = some call) :
    ∃ blob, token m source w = .ok blob ∧ call = .store blob := by
  rw [Request.call?] at h
  cases htoken : token m source w with
  | error complaint =>
    rw [htoken] at h
    cases h
  | ok blob =>
    rw [htoken] at h
    exact ⟨blob, rfl, (Option.some.inj h).symm⟩

theorem failed_of_token {source : TokenSource} {complaint : Complaint}
    (h : token m source w = .error complaint) : ∃ chain, complaint = .failed chain := by
  cases source with
  | spelled text =>
    rw [token] at h
    split at h
    · cases h
    · exact ⟨_, (Except.error.inj h).symm⟩
  | file path =>
    rw [token] at h
    split at h
    · cases h
    · exact ⟨_, (Except.error.inj h).symm⟩

/-- The report on a request whose call was answered with success. -/
def success (m : Surroundings σ) (request : Request) (call : Call) (body : Bytes) (w' : σ) :
    Report :=
  match request with
  | .store _ => done ("Stored " ++ toString call.payload.length ++ " bytes\n")
  | .read target => (handOver m target body w').1
  | .delete => done "Auth token deleted\n"
  | .ping => done (pingText true)

/-- What is reported on a request that makes a call is decided by the end of the call, and nothing
more goes over a connection. -/
theorem carryOut_of_call {ended : CallEnd Bytes} {c : Client} {w' : σ} {tape : Tape}
    (hcall : request.call? m w = some call)
    (hexecute : (Client.fresh s).execute m.recorded.remote none call.command call.payload (w, {})
      = (ended, c, w', tape)) :
    let carried := carryOut m.recorded request (Client.fresh s) (w, {})
    carried.1 = reportOn (fun body => success m request call body w') ended
      ∧ carried.2.2.2 = tape := by
  intro carried
  cases request with
  | store source =>
    obtain ⟨blob, htoken, rfl⟩ := token_of_call? hcall
    have hexecute : (Client.fresh s).execute m.recorded.remote none .writeAuthToken blob (w, {})
      = _ := hexecute
    simp only [carried, carryOut, token_recorded, htoken, Client.store, hexecute, and_true]
    cases ended <;> rfl
  | read target =>
    cases hcall
    have hexecute : (Client.fresh s).execute m.recorded.remote none .readAuthToken [] (w, {})
      = _ := hexecute
    simp only [carried, carryOut, Client.read, hexecute, handOver_recorded]
    cases ended <;> exact ⟨rfl, rfl⟩
  | delete =>
    cases hcall
    have hexecute : (Client.fresh s).execute m.recorded.remote none .deleteAuthToken [] (w, {})
      = _ := hexecute
    simp only [carried, carryOut, Client.delete, hexecute, and_true]
    cases ended <;> rfl
  | ping => cases hcall

theorem carryOut_ping (m : Surroundings σ) (s : ClientSettings) (w : σ) :
    (carryOut m .ping (Client.fresh s) w).1 = match Endpoint.parse s.endpoint with
      | .error e => some (.ofComplaint (.failed [(RegistryError.transport (.io e)).message]))
      | .ok endpoint =>
        match (m.remote.connect endpoint w).1 with
        | .done => some (done (pingText true))
        | .failed e => some (.ofComplaint
          (.failed [(RegistryError.transport (.connectFailed endpoint.display e)).message]))
        | .blocked => none := by
  rw [carryOut, reconnect_fresh]
  cases Endpoint.parse s.endpoint with
  | error e => rfl
  | ok endpoint =>
    dsimp only
    obtain ⟨attempt, w₁⟩ := m.remote.connect endpoint w
    cases attempt <;> rfl

/-- What is printed after success was carried out, or it is complained that a file cannot be
written. -/
theorem AnsweredWith.reported {body : Bytes} {w' : σ}
    (h : AnsweredWith m s call w logs .ok body w') (hcall : request.call? m w = some call) :
    Reported m s w logs request (success m request call body w') := by
  cases request with
  | store source =>
    obtain ⟨blob, htoken, rfl⟩ := token_of_call? hcall
    exact .done (.stored htoken h)
  | read target =>
    cases hcall
    cases target with
    | none => exact .done (.printed h)
    | some path =>
      rw [success, handOver]
      split
      · next hwrite => exact .done (.written h hwrite)
      · exact .failed _
  | delete =>
    cases hcall
    exact .done (.deleted h)
  | ping => cases hcall

/-- **A request never ends, or there is one of three kinds of reports on it.** -/
theorem carryOut_cases (m : Surroundings σ) (s : ClientSettings) (w : σ) (request : Request) :
    let carried := carryOut m.recorded request (Client.fresh s) (w, {})
    (carried.1 = none ∧ Stuck m s w request)
      ∨ ∃ report, carried.1 = some report ∧ Reported m s w carried.2.2.2.logs request report := by
  intro carried
  have hplain : carried.1 = (carryOut m request (Client.fresh s) w).1 := report_recorded m _ _ _
  cases hcall : request.call? m w with
  | some call =>
    obtain ⟨ended, c, w', tape, hexecute⟩ : ∃ ended c w' tape, (Client.fresh s).execute
      m.recorded.remote none call.command call.payload (w, {}) = (ended, c, w', tape) :=
        ⟨_, _, _, _, rfl⟩
    obtain ⟨hreport, htape⟩ := carryOut_of_call hcall hexecute
    by_cases hended : ended = .abandoned
    · subst hended
      have hlike := execute_like m.recorded_like none (Client.fresh s) call.command call.payload
        (w, {})
      refine .inl ⟨hreport, .call hcall (unanswered_of_execute ?_)⟩
      rw [← hlike, hexecute]
      rfl
    · have hmet := met_of_execute hexecute hended
      rw [← htape] at hmet
      right
      cases hmet with
      | ok hanswer => exact ⟨_, hreport, hanswer.reported hcall⟩
      | notFound hanswer => exact ⟨_, hreport, .absent ⟨call, _, _, hcall, hanswer⟩⟩
      | failed hcomplaint =>
        rw [reportOn, hcomplaint] at hreport
        exact ⟨_, hreport, .failed _⟩
  | none =>
    -- No call is made for a token that cannot be had, and to see whether the daemon is up.
    cases request with
    | read target => cases hcall
    | delete => cases hcall
    | store source =>
      cases htoken : token m source w with
      | ok blob =>
        rw [Request.call?, htoken] at hcall
        cases hcall
      | error complaint =>
        obtain ⟨chain, rfl⟩ := failed_of_token htoken
        have hreport : carried.1 = some (.ofComplaint (.failed chain)) := by
          rw [hplain, carryOut, htoken]
        exact .inr ⟨_, hreport, .failed chain⟩
    | ping =>
      rw [carryOut_ping m s w] at hplain
      cases hendpoint : Endpoint.parse s.endpoint with
      | error e =>
        rw [hendpoint] at hplain
        exact .inr ⟨_, hplain, .failed _⟩
      | ok endpoint =>
        obtain ⟨attempt, w₁, hconnect⟩ : ∃ attempt w₁,
          m.remote.connect endpoint w = (attempt, w₁) := ⟨_, _, rfl⟩
        simp only [hendpoint, hconnect] at hplain
        cases attempt with
        | done => exact .inr ⟨_, hplain, .done (.reached hendpoint hconnect)⟩
        | failed e => exact .inr ⟨_, hplain, .failed _⟩
        | blocked => exact .inl ⟨hplain, .ping hendpoint hconnect⟩

/-! ## And back -/

theorem carryOut_of_execute {ended : CallEnd Bytes} {c : Client} {w' : σ}
    (hcall : request.call? m w = some call)
    (hexecute : (Client.fresh s).execute m.remote none call.command call.payload w
      = (ended, c, w')) :
    (carryOut m request (Client.fresh s) w).1
      = reportOn (fun body => success m request call body w') ended := by
  have hlike := execute_like m.recorded_like none (Client.fresh s) call.command call.payload (w, {})
  obtain ⟨ended₁, c₁, w₁, tape, hrecorded⟩ : ∃ ended₁ c₁ w₁ tape, (Client.fresh s).execute
    m.recorded.remote none call.command call.payload (w, {}) = (ended₁, c₁, w₁, tape) :=
      ⟨_, _, _, _, rfl⟩
  rw [hrecorded, hexecute] at hlike
  cases hlike
  rw [← (carryOut_of_call hcall hrecorded).1, report_recorded]

theorem Done.carryOut {output : String} (h : Done m s w logs request output) :
    (carryOut m request (Client.fresh s) w).1 = some (done output) := by
  cases h with
  | @stored source blob body w' htoken hanswer =>
    obtain ⟨c, hexecute⟩ := hanswer.ended
    have hcall : (Request.store source).call? m w = some (.store blob) := by
      rw [Request.call?, htoken]
      rfl
    exact carryOut_of_execute hcall hexecute
  | printed hanswer =>
    obtain ⟨c, hexecute⟩ := hanswer.ended
    exact carryOut_of_execute rfl hexecute
  | @written path body w' w'' hanswer hwrite =>
    obtain ⟨c, hexecute⟩ := hanswer.ended
    have hcall : (Request.read (some path)).call? m w = some .read := rfl
    rw [carryOut_of_execute hcall hexecute]
    simp only [CallEnd.ofExcept, interpret, reportOn, success, handOver, hwrite]
  | deleted hanswer =>
    obtain ⟨c, hexecute⟩ := hanswer.ended
    exact carryOut_of_execute rfl hexecute
  | reached hendpoint hconnect =>
    rw [carryOut_ping, hendpoint]
    simp only [hconnect]
    rfl

theorem Absent.carryOut (h : Absent m s w logs request) :
    (carryOut m request (Client.fresh s) w).1 = some (.ofComplaint .absent) := by
  obtain ⟨call, body, w', hcall, hanswer⟩ := h
  obtain ⟨c, hexecute⟩ := hanswer.ended
  exact carryOut_of_execute hcall hexecute

theorem Stuck.carryOut (h : Stuck m s w request) :
    (carryOut m request (Client.fresh s) w).1 = none := by
  cases h with
  | call hcall hunanswered =>
    exact carryOut_of_execute hcall (Prod.ext hunanswered.execute rfl)
  | ping hendpoint hconnect =>
    rw [carryOut_ping, hendpoint]
    simp only [hconnect]

/-! ## A whole run -/

/-- A run that gets to its request ends as that does. -/
theorem run_of_settings {words : List String} {a : Arguments}
    (hwords : Arguments.ofWords words = .ok a) (hsettings : settings m a w = .ok s) :
    let ended := run m.recorded words (w, {})
    let carried := carryOut m.recorded a.request (Client.fresh s) (w, {})
    ended.1 = carried.1 ∧ ended.2.2.logs = carried.2.2.2.logs := by
  intro ended carried
  obtain ⟨report, c, s', hcarried⟩ : ∃ report c s', carried = (report, c, s') := ⟨_, _, _, rfl⟩
  simp only [ended, run, hwords, settings_recorded, hsettings,
    show carryOut m.recorded a.request (Client.fresh s) (w, {}) = _ from hcarried, hcarried]
  cases report with
  | none => exact ⟨rfl, rfl⟩
  | some report => exact ⟨rfl, logs_disconnect m c s'⟩

/-- **The exit status tells how a run ended.**  Whatever the words, the files and the daemon are: a
run with arguments that make sense ends, unless its call is not answered and there is no limit to
waiting.  It ends with status 0 exactly if what was asked for was done, with 2 exactly if the daemon
has answered the command of this run that there is no token, and otherwise with 1.  With arguments
that make no sense it ends with 2 at once. -/
theorem status_tells (m : Surroundings σ) (words : List String) (w : σ) :
    let ended := run m.recorded words (w, {})
    Prod.map id Prod.fst ended = run m words w
      ∧ (Arguments.ofWords words = .error .unusable →
        ∃ report, ended = (some report, w, {}) ∧ report.status = 2)
      ∧ ∀ a, Arguments.ofWords words = .ok a →
        (ended.1 = none ↔ ∃ s, settings m a w = .ok s ∧ Stuck m s w a.request)
        ∧ ∀ report, ended.1 = some report →
          (report.status = 0 ↔ ∃ s, settings m a w = .ok s
            ∧ Done m s w ended.2.2.logs a.request report.output)
          ∧ (report.status = 2 ↔ ∃ s, settings m a w = .ok s
            ∧ Absent m s w ended.2.2.logs a.request)
          ∧ (report.status = 0 ∨ report.status = 1 ∨ report.status = 2) := by
  intro ended
  refine ⟨run_recorded m words (w, {}), fun hwords => ?_, fun a hwords => ?_⟩
  · refine ⟨detourReport .unusable, ?_, rfl⟩
    simp only [ended, run, hwords]
  cases hsettings : settings m a w with
  | error complaint =>
    have hended : ended.1 = some (.ofComplaint complaint) := by
      simp only [ended, run, hwords, settings_recorded, hsettings]
    have hstatus : (Report.ofComplaint complaint).status = 1 := status_of_settings hsettings
    have hnone {P : ClientSettings → Prop} :
        ¬ ∃ s, (.error complaint : Except Complaint ClientSettings) = .ok s ∧ P s := by
      rintro ⟨s, h, -⟩
      cases h
    rw [hended]
    refine ⟨iff_of_false (fun h => by cases h) hnone, fun report hreport => ?_⟩
    rw [← Option.some.inj hreport, hstatus]
    exact ⟨iff_of_false (by decide) hnone, iff_of_false (by decide) hnone, .inr (.inl rfl)⟩
  | ok s =>
    obtain ⟨hrun, hlogs⟩ := run_of_settings hwords hsettings
    have hcases := carryOut_cases m s w a.request
    dsimp only at hcases
    rw [← hrun, ← hlogs] at hcases
    rw [report_recorded] at hrun
    have honly {P : ClientSettings → Prop} :
        (∃ s', (.ok s : Except Complaint ClientSettings) = .ok s' ∧ P s') ↔ P s := by
      refine ⟨?_, fun hp => ⟨s, rfl, hp⟩⟩
      rintro ⟨s', h, hp⟩
      exact Except.ok.inj h ▸ hp
    rw [honly]
    refine ⟨⟨fun hnone => ?_, fun h => hrun.trans h.carryOut⟩, fun report hreport => ?_⟩
    · obtain ⟨-, hstuck⟩ | ⟨report, hreport, -⟩ := hcases
      · exact hstuck
      · cases hnone.symm.trans hreport
    · rw [honly, honly]
      obtain ⟨hnone, -⟩ | ⟨report', hreport', hreported⟩ := hcases
      · cases hnone.symm.trans hreport
      obtain rfl := Option.some.inj (hreport.symm.trans hreport')
      have hdone : Done m s w ended.2.2.logs a.request report.output → report.status = 0 :=
        fun h => by
          rw [Option.some.inj (hreport.symm.trans (hrun.trans h.carryOut))]
          rfl
      have habsent : Absent m s w ended.2.2.logs a.request → report.status = 2 := fun h => by
        rw [Option.some.inj (hreport.symm.trans (hrun.trans h.carryOut))]
        rfl
      cases hreported with
      | done h =>
        exact ⟨iff_of_true rfl h, ⟨fun heq => (by cases heq), habsent⟩, .inl rfl⟩
      | absent h =>
        exact ⟨⟨fun heq => (by cases heq), hdone⟩, iff_of_true rfl h, .inr (.inr rfl)⟩
      | failed chain =>
        exact ⟨⟨fun heq => (by cases heq), hdone⟩, ⟨fun heq => (by cases heq), habsent⟩,
          .inr (.inl rfl)⟩

/-- A daemon that says what it has to say, and no files. -/
def reciting : Surroundings (Nat × Schedule) where
  remote := reciter
  readFile _ _ := .error (.os .noEntry)
  writeFile _ _ w := (.error (.os .noEntry), w)

/-- The words that ask the daemon for a token, with a limit to waiting. -/
def readWords (timeout : String) : List String :=
  ["--endpoint", "#x", "--timeout-ms", timeout, "read"]

/-- The response to the first command that there is no token. -/
def absence : Schedule := [(3, .bytes (ResponseHeader.mk 1 1 0).encode)]

/-- The command of a run is answered that there is no token; or with one; or there is no answer and
no limit to waiting for it. -/
theorem status_tells_readers :
    (∃ s, Absent reciting s (0, absence)
        (run reciting.recorded (readWords "5") ((0, absence), {})).2.2.logs (.read none))
      ∧ (∃ s, Done reciting s (0, echo)
        (run reciting.recorded (readWords "5") ((0, echo), {})).2.2.logs (.read none) "0708\n")
      ∧ ∃ s, Stuck reciting s (0, []) (.read none) := by
  obtain ⟨-, -, habsent⟩ := status_tells reciting (readWords "5") (0, absence)
  obtain ⟨-, -, hdone⟩ := status_tells reciting (readWords "5") (0, echo)
  obtain ⟨-, -, hstuck⟩ := status_tells reciting (readWords "0") (0, [])
  have hfirst : (run reciting.recorded (readWords "5") ((0, absence), {})).1
      = some (.ofComplaint .absent) := by decide +kernel
  have hsecond : (run reciting.recorded (readWords "5") ((0, echo), {})).1
      = some (done "0708\n") := by decide +kernel
  have hthird : (run reciting.recorded (readWords "0") ((0, []), {})).1 = none := by decide +kernel
  obtain ⟨s₁, -, h₁⟩ := ((habsent _ rfl).2 _ hfirst).2.1.1 rfl
  obtain ⟨s₂, -, h₂⟩ := ((hdone _ rfl).2 _ hsecond).1.1 rfl
  obtain ⟨s₃, -, h₃⟩ := (hstuck _ rfl).1.1 hthird
  exact ⟨⟨s₁, h₁⟩, ⟨s₂, h₂⟩, s₃, h₃⟩

/-- **A run that sends nothing and is told nothing ends like one where there is no token**: nothing
was said that could be stored. -/
theorem unusable_as_absent :
    let ended := run reciting.recorded ["store"] ((0, []), {})
    ended.1.map Report.status = some 2 ∧ ended.2.2.logs = []
      ∧ ∀ s request, ¬ Absent reciting s (0, []) ended.2.2.logs request := by
  intro ended
  have hlogs : ended.2.2.logs = [] := by decide +kernel
  refine ⟨by decide +kernel, hlogs, fun s request h => ?_⟩
  obtain ⟨call, body, w', -, hanswer⟩ := h
  obtain ⟨header, unread, hlog, -⟩ := hanswer.bytes
  cases hlogs.symm.trans hlog

end Control
end TokenBroker
