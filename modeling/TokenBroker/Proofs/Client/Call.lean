import TokenBroker.Proofs.Simulation.Remote
/-!
# One call of a client

A client that calls a daemon which answers at once: the command is numbered and written, the
response pairs with it, and both sides are as they were, ready for the next call.

* `Carries` says that a payload is within the limits of both sides.
* `Rested` is a client between two calls, with its connection if it has one.
* `execute_open` says that it has one when a call is made; `call_answered` is the call on it, and
  `execute_rested` both together.
-/

set_option autoImplicit false

namespace TokenBroker

/-! ## Numbers -/

namespace Sequence.Tracker

theorem issue_rested (last : UInt32) :
    (⟨last, false, none⟩ : Tracker).issue = (.ok (last + 1), ⟨last + 1, true, none⟩) := rfl

/-- The response with the number that was issued pairs, whatever the number. -/
theorem pair_issued (id : UInt32) :
    (⟨id, true, none⟩ : Tracker).pair id = (.ok (), ⟨id, false, none⟩) := by
  simp [pair]

end Sequence.Tracker

namespace Client

open Simulation Simulation.Deployment Handler

variable {c : Client} {d : Deployment} {i : Instance} {name : String} {uid : UInt32}
  {key : IdentityKey} {socket : Socket} {command : Command} {payload : Bytes} {reply : Reply}
  {t' : Tree}

/-- How a call ends that was answered. -/
def CallEnd.ofExcept {α : Type} : Except RegistryError α → CallEnd α
  | .ok value => .ok value
  | .error e => .failed e

/-- What a client makes of a reply. -/
def ending (reply : Reply) : CallEnd Bytes := .ofExcept (interpret reply.result reply.payload)

/-! ## Judging -/

theorem validateResponse_ok {id : UInt32} {limit : Nat} (hfit : reply.payload.length ≤ limit)
    (hdeclared : reply.payload.length < UInt32.size) :
    validateResponse ⟨id, reply.result.code, UInt32.ofNat reply.payload.length⟩ limit
      = .ok reply.result := by
  have hsize : (UInt32.ofNat reply.payload.length).toNat = reply.payload.length :=
    UInt32.toNat_ofNat_of_lt' hdeclared
  simp only [validateResponse, checkPayloadSize, hsize, if_neg (Nat.not_lt.2 hfit),
    ResultCode.ofCode?_code]

/-- The response to the command sent last is taken for what it says. -/
theorem judge_answered {id : UInt32} (htracker : c.tracker = ⟨id, true, none⟩)
    (hfit : reply.payload.length ≤ c.settings.maxPayload)
    (hdeclared : reply.payload.length < UInt32.size) :
    c.judge ⟨id, reply.result.code, UInt32.ofNat reply.payload.length⟩ reply.payload
      = (.ok (interpret reply.result reply.payload), { c with tracker := ⟨id, false, none⟩ }) := by
  rw [judge, htracker, Sequence.Tracker.pair_issued]
  dsimp only
  rw [validateResponse_ok hfit hdeclared]

/-! ## On an open connection -/

/-- A payload that is within the limits of a client and a daemon, and whose size can be declared. -/
structure Carries (c : Client) (i : Instance) (payload : Bytes) : Prop where
  most : payload.length ≤ c.settings.maxPayload
  limit : payload.length ≤ i.running.service.limit
  declared : payload.length < UInt32.size

/-- What a client and a daemon exchange, within the limits of both. -/
structure Agreed (c : Client) (i : Instance) (command : Command) (payload : Bytes) (reply : Reply) :
    Prop where
  asked : c.Carries i payload
  bare : command.acceptsPayload = false → payload = []
  told : c.Carries i reply.payload

theorem Agreed.accepted (h : c.Agreed i command payload reply) (id : UInt32) :
    (⟨id, command, payload⟩ : Request).Accepted i.running.service.limit :=
  ⟨h.asked.limit, h.asked.declared, h.bare⟩

/-- A command is written, and its response is read. -/
theorem exchange_answered (hagreed : c.Agreed i command payload reply)
    (hanswered : d.Answered i name key []) (hquiet : socket.Quiet)
    (hreply : i.running.service.dispatch d.now key command payload d.host.tree = (reply, t'))
    (uid id : UInt32) :
    ∃ socket' d' i', exchange (remote name uid) none c.settings socket id command payload d
        = (.finished (⟨id, reply.result.code, UInt32.ofNat reply.payload.length⟩, reply.payload),
            socket', d')
      ∧ socket'.Quiet ∧ d'.Answered i' name key [] ∧ Step name d i d' i' t' := by
  let q : Request := ⟨id, command, payload⟩
  obtain ⟨segments, hframe, hflatten⟩ := q.ofCommand_eq hagreed.asked.most
  obtain ⟨d₁, i₁, hwrite, hanswered₁, hstep₁⟩ := hanswered.write (q := q) uid (hagreed.accepted id)
    rfl hquiet.gone hreply hagreed.told.limit
  obtain ⟨socket₂, d₂, hrecv, hquiet₂, hanswered₂, hstep₂⟩ := hanswered₁.recvResponse hquiet
    hagreed.told.most hagreed.told.declared uid c.settings.responseTimeout
  refine ⟨socket₂, d₂, i₁, ?_, hquiet₂, hanswered₂, ?_⟩
  · rw [exchange, hframe]
    dsimp only
    rw [hflatten, hwrite]
    exact hrecv
  · rw [hstep₁.tree] at hstep₂
    exact hstep₁.trans hstep₂

/-- **A call on an open connection ends as the daemon replies.** -/
theorem call_answered (hagreed : c.Agreed i command payload reply) {last : UInt32}
    (htracker : c.tracker = ⟨last, false, none⟩) (hanswered : d.Answered i name key [])
    (hquiet : socket.Quiet)
    (hreply : i.running.service.dispatch d.now key command payload d.host.tree = (reply, t'))
    (uid : UInt32) :
    ∃ socket' d' i', c.call (remote name uid) none socket command payload d
        = (ending reply,
            { c with tracker := ⟨last + 1, false, none⟩, socket := some socket' }, d')
      ∧ socket'.Quiet ∧ d'.Answered i' name key [] ∧ Step name d i d' i' t' := by
  obtain ⟨socket₁, d₁, i₁, hexchange, hquiet₁, hanswered₁, hstep⟩ :=
    exchange_answered hagreed hanswered hquiet hreply uid (last + 1)
  have hjudge := judge_answered
    (c := { c with tracker := ⟨last + 1, true, none⟩, socket := some socket₁ }) rfl
    hagreed.told.most hagreed.told.declared
  refine ⟨socket₁, d₁, i₁, ?_, hquiet₁, hanswered₁, hstep⟩
  rw [call, htracker, Sequence.Tracker.issue_rested]
  dsimp only
  rw [hexchange]
  dsimp only
  rw [hjudge, ending]
  cases interpret reply.result reply.payload <;> rfl

/-! ## Any call -/

/-- A client between two calls, with its connection if it has one. -/
structure Rested (c : Client) (d : Deployment) (i : Instance) (name : String) (key : IdentityKey) :
    Prop where
  tracker : ∃ last, c.tracker = ⟨last, false, none⟩
  connection : (c.socket = none ∧ ∀ other ∈ d.clients, other.name ≠ name)
    ∨ ∃ socket, c.socket = some socket ∧ socket.Quiet ∧ d.Answered i name key []

theorem rested_fresh (settings : ClientSettings)
    (hunknown : ∀ other ∈ d.clients, other.name ≠ name) : (fresh settings).Rested d i name key :=
  ⟨⟨settings.initialCommandId, rfl⟩, .inl ⟨rfl, hunknown⟩⟩

/-- What another client does leaves a client at rest. -/
theorem Rested.keep {d' : Deployment} {i' : Instance} {other : String}
    (hrested : c.Rested d i name key) (hkeeps : Keeps other d i d' i') (hne : name ≠ other)
    (hd' : d'.Orderly i') : c.Rested d' i' name key := by
  refine ⟨hrested.tracker, ?_⟩
  rcases hrested.connection with ⟨hnone, hunknown⟩
    | ⟨socket, hsocket, hquiet, -, k, h, hlinked, hidle⟩
  · exact .inl ⟨hnone, hkeeps.strangers name hne hunknown⟩
  · exact .inr ⟨socket, hsocket, hquiet, hd', k, h, hkeeps.others name k _ h hne hlinked, hidle⟩

/-- Time that passes leaves a client at rest. -/
theorem Rested.later (hrested : c.Rested d i name key) (time : Nat) :
    c.Rested { d with now := time } i name key := by
  refine ⟨hrested.tracker, ?_⟩
  rcases hrested.connection with hnone | ⟨socket, hsocket, hquiet, hd, k, h, hlinked, hidle⟩
  · exact .inl hnone
  · exact .inr ⟨socket, hsocket, hquiet, hd.later time, k, h, hlinked.later time, hidle⟩

theorem refresh_rested {σ : Type} (r : Remote σ) {last : UInt32}
    (htracker : c.tracker = ⟨last, false, none⟩) (w : σ) : c.refresh r w = (c, w) := by
  have hfine : (c.tracker.outstanding || c.tracker.isDesynchronized) = false := by
    rw [htracker]
    rfl
  rw [refresh, hfine]
  rfl

/-- The first call of a client connects it. -/
theorem reconnect_rested (hsocket : c.socket = none)
    (hunknown : ∀ other ∈ d.clients, other.name ≠ name) (hd : d.Orderly i) {endpoint : Endpoint}
    (hendpoint : Endpoint.parse c.settings.endpoint = .ok endpoint)
    (hreach : d.host.connect? endpoint = .ok i.running.listener)
    (hpermit : i.running.server.active.length < i.running.server.permits) (uid : UInt32) :
    ∃ d' i', c.reconnect (remote name uid) d
        = (.ok (), { c with
            socket := some {}
            tracker := .fresh c.settings.initialCommandId }, d')
      ∧ d'.Answered i' name (.resolve i.running.service.scope uid) []
      ∧ Keeps name d i d' i' ∧ d'.host.tree = d.host.tree
      ∧ i'.running.server.active.length = i.running.server.active.length + 1 := by
  obtain ⟨d', i', hattempt, hanswered, hkeeps, htree, hlength⟩ :=
    attempt_orderly hd hunknown hreach hpermit uid
  have hdisconnect : c.disconnect (remote name uid) d
      = ({ c with socket := none, tracker := .fresh c.settings.initialCommandId }, d) := by
    simp only [disconnect, farewell?, hsocket, Option.map_none, Sequence.Tracker.reset]
  have hconnect : (remote name uid).connect endpoint d = (.done, d') := hattempt
  refine ⟨d', i', ?_, hanswered, hkeeps, htree, hlength⟩
  rw [reconnect, hdisconnect]
  dsimp only
  rw [hendpoint]
  dsimp only
  rw [hconnect]

/-- A client at rest makes a call on the connection that it has, or on a new one. -/
theorem execute_open (hfits : payload.length ≤ c.settings.maxPayload) (hd : d.Orderly i)
    (hrested : c.Rested d i name (.resolve i.running.service.scope uid)) {endpoint : Endpoint}
    (hendpoint : Endpoint.parse c.settings.endpoint = .ok endpoint)
    (hreach : d.host.connect? endpoint = .ok i.running.listener)
    (hpermit : c.socket = none → i.running.server.active.length < i.running.server.permits)
    (command : Command) :
    ∃ (c₁ : Client) (socket : Socket) (d₁ : Deployment) (i₁ : Instance),
      c.execute (remote name uid) none command payload d
        = c₁.call (remote name uid) none socket command payload d₁
      ∧ c₁.settings = c.settings ∧ c₁.socket = some socket
      ∧ (∃ last, c₁.tracker = ⟨last, false, none⟩) ∧ socket.Quiet
      ∧ d₁.Answered i₁ name (.resolve i.running.service.scope uid) []
      ∧ Keeps name d i d₁ i₁ ∧ d₁.host.tree = d.host.tree
      ∧ i₁.running.server.active.length
        = i.running.server.active.length + if c.socket.isSome then 0 else 1 := by
  obtain ⟨⟨last, htracker⟩, hconnection⟩ := hrested
  rw [execute, if_neg (Nat.not_lt.2 hfits), refresh_rested _ htracker]
  dsimp only
  rcases hconnection with ⟨hnone, hunknown⟩ | ⟨socket, hsocket, hquiet, hanswered⟩
  · obtain ⟨d₁, i₁, hreconnect, hanswered₁, hkeeps₁, htree₁, hlength₁⟩ :=
      reconnect_rested hnone hunknown hd hendpoint hreach (hpermit hnone) uid
    refine ⟨{ c with socket := some {}, tracker := .fresh c.settings.initialCommandId }, {}, d₁, i₁,
      ?_, rfl, rfl, ⟨_, rfl⟩, ⟨rfl, rfl, rfl, rfl⟩, hanswered₁, hkeeps₁, htree₁, ?_⟩
    · rw [hnone]
      dsimp only
      rw [hreconnect]
    · rw [hlength₁, hnone]
      rfl
  · refine ⟨c, socket, d, i, ?_, rfl, hsocket, ⟨last, htracker⟩, hquiet, hanswered,
      .refl name d i, rfl, ?_⟩
    · rw [hsocket]
    · rw [hsocket]
      rfl

/-- **Any call ends as the daemon replies, and leaves the client at rest.** -/
theorem execute_rested (hagreed : c.Agreed i command payload reply) (hd : d.Orderly i)
    (hrested : c.Rested d i name (.resolve i.running.service.scope uid)) {endpoint : Endpoint}
    (hendpoint : Endpoint.parse c.settings.endpoint = .ok endpoint)
    (hreach : d.host.connect? endpoint = .ok i.running.listener)
    (hpermit : c.socket = none → i.running.server.active.length < i.running.server.permits)
    (hreply : i.running.service.dispatch d.now (.resolve i.running.service.scope uid) command
      payload d.host.tree = (reply, t')) :
    ∃ c' d' i', c.execute (remote name uid) none command payload d = (ending reply, c', d')
      ∧ c'.settings = c.settings ∧ c'.socket.isSome = true
      ∧ c'.Rested d' i' name (.resolve i.running.service.scope uid) ∧ d'.Orderly i'
      ∧ Keeps name d i d' i' ∧ d'.host.tree = t'
      ∧ i'.running.server.active.length
        = i.running.server.active.length + if c.socket.isSome then 0 else 1 := by
  obtain ⟨c₁, socket, d₁, i₁, hexecute, hsettings, -, ⟨last, htracker⟩, hquiet, hanswered, hkeeps,
    htree, hlength⟩ := execute_open hagreed.asked.most hd hrested hendpoint hreach hpermit command
  have hreply₁ : i₁.running.service.dispatch d₁.now (.resolve i.running.service.scope uid) command
      payload d₁.host.tree = (reply, t') := by
    rw [hkeeps.service, hkeeps.now, htree]
    exact hreply
  have hcarries : ∀ {bytes}, c.Carries i bytes → c₁.Carries i₁ bytes := fun h =>
    ⟨hsettings ▸ h.most, hkeeps.service ▸ h.limit, h.declared⟩
  obtain ⟨socket', d', i', hcall, hquiet', hanswered', hstep⟩ :=
    call_answered ⟨hcarries hagreed.asked, hagreed.bare, hcarries hagreed.told⟩ htracker
      hanswered hquiet hreply₁ uid
  refine ⟨_, d', i', hexecute.trans hcall, hsettings, rfl,
    ⟨⟨last + 1, rfl⟩, .inr ⟨socket', rfl, hquiet', hanswered'⟩⟩, hanswered'.1,
    hkeeps.trans hstep.toKeeps, hstep.tree, ?_⟩
  rw [hstep.length, hlength]

end Client
end TokenBroker
