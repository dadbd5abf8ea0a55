import TokenBroker.Proofs.Client.Dialogue
/-!
# A client in the long run

A client is used for as long as one likes: calls are made and given up, the connection is opened and
closed by hand, time passes.  Nothing is known of the far side.

* `Deed` is what may be done with a client, and `Scene` is the client, its far side, and the record
  of all connections so far; `Scene.run` is any number of deeds.
* `Conducted` is what is so between any two deeds: `Conducted.act` is one deed and `conducted_run`
  all of them.
* `never_misled` is what an answer is worth.
-/

set_option autoImplicit false

namespace TokenBroker
namespace Client

/-! ## What may be done -/

/-- Make a call through a client, and give it up when patience runs out. -/
def Call.attempt {σ : Type} (call : Call) (remote : Remote σ) (patience : Option Nat) (c : Client)
    (w : σ) : Answer × Client × σ :=
  match call with
  | store blob =>
    let (ended, rest) := c.store remote patience blob w
    (.outcome ended, rest)
  | read =>
    let (ended, rest) := c.read remote patience w
    (.token ended, rest)
  | delete =>
    let (ended, rest) := c.delete remote patience w
    (.outcome ended, rest)

theorem Call.attempt_eq {σ : Type} (call : Call) (remote : Remote σ) (patience : Option Nat)
    (c : Client) (w : σ) :
    call.attempt remote patience c w
      = (call.wrap (c.execute remote patience call.command call.payload w).1,
          (c.execute remote patience call.command call.payload w).2) := by
  cases call <;> rfl

/-- What may be done with a client. -/
inductive Deed where
  /-- Make a call, and give it up at some time if it is not over. -/
  | call (call : Call) (patience : Option Nat)
  | reconnect
  | disconnect
  /-- Ask whether the connection is alive. -/
  | look
  /-- Let time pass. -/
  | idle (time : Nat)

/-- A client, its far side, and what went over the connections between them. -/
structure Scene (σ : Type) where
  client : Client
  world : σ
  tape : Tape

namespace Scene

variable {σ : Type}

/-- A client that was not used yet. -/
def start (settings : ClientSettings) (w : σ) : Scene σ := ⟨.fresh settings, w, {}⟩

/-- Make a call; that it was answered is noted of its connection. -/
def call (r : Remote σ) (call : Call) (patience : Option Nat) (s : Scene σ) : Answer × Scene σ :=
  let (answer, c, w, tape) := call.attempt r.recorded patience s.client (s.world, s.tape)
  let noted :=
    if answer.isAnswer then
      tape.note fun log => { log with told := log.told ++ [(call, answer)] }
    else tape
  (answer, ⟨c, w, noted⟩)

/-- Do something with the client. -/
def act (r : Remote σ) (s : Scene σ) : Deed → Scene σ
  | .call call patience => (s.call r call patience).2
  | .reconnect =>
    let (_, c, w, tape) := s.client.reconnect r.recorded (s.world, s.tape)
    ⟨c, w, tape⟩
  | .disconnect =>
    let (c, w, tape) := s.client.disconnect r.recorded (s.world, s.tape)
    ⟨c, w, tape⟩
  | .look => { s with client := s.client.isAlive.2 }
  | .idle time =>
    let (c, w, tape) := s.client.idleUntil r.recorded (s.world, s.tape) time
    ⟨c, w, tape⟩

/-- Do one thing after the other. -/
def run (r : Remote σ) (deeds : List Deed) (s : Scene σ) : Scene σ := deeds.foldl (act r) s

end Scene

/-! ## What is so between two deeds -/

variable {settings : ClientSettings} {c : Client} {current : Option Log} {call : Call}

/-- The client is between two calls, and of no connection more is to be told than that its last
command may not have been answered. -/
structure Conducted {σ : Type} (settings : ClientSettings) (s : Scene σ) : Prop where
  link : Link settings s.client s.tape.current
  closed : ∀ log ∈ s.tape.closed, ∃ call sent part taken, Kept settings log call sent part taken

theorem Link.kept {log : Log} (h : Link settings c current) (hlog : current = some log) :
    ∃ call sent part taken, Kept settings log call sent part taken := by
  cases h with
  | unconnected => cases hlog
  | rested hrest =>
    obtain rfl := Option.some.inj hlog
    exact ⟨_, _, _, _, hrest.kept⟩
  | owed hkept =>
    obtain rfl := Option.some.inj hlog
    exact ⟨_, _, _, _, hkept⟩

section

variable {σ : Type} {s : Scene σ}

/-- What is so of every connection, open or closed. -/
theorem Conducted.logs (h : Conducted settings s) :
    ∀ log ∈ s.tape.logs, ∃ call sent part taken, Kept settings log call sent part taken := by
  intro log hlog
  rcases List.mem_append.1 hlog with hcurrent | hclosed
  · exact h.link.kept (Option.mem_toList.1 hcurrent)
  · exact h.closed log hclosed

theorem conducted_start (settings : ClientSettings) (w : σ) :
    Conducted settings (Scene.start settings w) :=
  ⟨.unconnected, fun _ hlog => by cases hlog⟩

/-- Of a connection that was chosen for a call, those that are closed remain. -/
theorem Conducted.chosen {socket : Socket} {log : Log} {closed' : List Log}
    (h : Conducted settings s)
    (hchosen : Chosen s.client s.tape.current s.tape.closed socket log closed') :
    ∀ log ∈ closed', ∃ call sent part taken, Kept settings log call sent part taken := by
  rcases hchosen with ⟨-, -, rfl⟩ | ⟨-, -, rfl⟩
  · exact h.closed
  · exact h.logs

end

/-- What a call wrote and read leaves the connection without a response at most to its own
command. -/
theorem AtRest.kept_of_passes {socket socket' : Socket} {log log' : Log} {taken part got : Bytes}
    (hrest : AtRest settings socket log taken) (hpasses : Passes part got socket socket' log log')
    (hfits : call.payload.length ≤ settings.maxPayload)
    (hpart : part <+: (call.request (settings.commandId (log.told.length + 1))).frame) :
    Kept settings log' call log.sent part taken where
  dialogue := hpasses.told ▸ hrest.dialogue
  arrived := by
    rw [hpasses.taken hrest.arrived, List.append_assoc]
    exact List.prefix_append _ _
  sent := hpasses.sent
  fits := hfits
  part := hpasses.told ▸ hpart

/-- A response that was read answers the command that was written. -/
theorem AtRest.answered {socket socket' : Socket} {log log' : Log} {taken body : Bytes}
    {header : ResponseHeader} {ended : CallEnd Bytes} (hrest : AtRest settings socket log taken)
    (hfits : call.payload.length ≤ settings.maxPayload)
    (hanswers : Answers settings.maxPayload (settings.commandId (log.told.length + 1)) header body
      ended)
    (hpasses : Passes (call.request (settings.commandId (log.told.length + 1))).frame
      (header.encode ++ body) socket socket' log log') :
    AtRest settings socket' { log' with told := log'.told ++ [(call, call.wrap ended)] }
      (taken ++ (header.encode ++ body)) where
  dialogue := by
    rw [hpasses.told, hpasses.sent]
    exact .turn hrest.dialogue hfits hanswers
  arrived := hpasses.taken hrest.arrived

theorem CallEnd.isAnswer_of_isVain {α : Type} {ended : CallEnd α} (h : ended.isVain = true) :
    ended.isAnswer = false := by
  cases ended with
  | ok value => cases h
  | failed e => cases e <;> first | rfl | cases h
  | abandoned => rfl

/-! ## One call -/

section

variable {σ : Type} (r : Remote σ) {s : Scene σ}

/-- How a call ends, with what it leaves: it is refused at once; it finds no connection; it is
answered on a connection on which every command before it was answered; it loses that connection; or
it is given up there. -/
inductive Concluded (settings : ClientSettings) (call : Call) (s : Scene σ) :
    Answer × Scene σ → Prop where
  | tooLarge :
      settings.maxPayload < call.payload.length →
      Concluded settings call s
        (call.wrap (.failed (.tooLarge call.payload.length settings.maxPayload)), s)
  | unconnected {ended : CallEnd Bytes} {w' : σ} :
      ended.isVain = true →
      Concluded settings call s (call.wrap ended, ⟨fresh settings, w', ⟨s.tape.logs, none⟩⟩)
  | answered {socket socket' : Socket} {log log' : Log} {taken body : Bytes} {closed' : List Log}
      {header : ResponseHeader} {ended : CallEnd Bytes} {w' : σ} :
      AtRest settings socket log taken →
      Chosen s.client s.tape.current s.tape.closed socket log closed' →
      call.payload.length ≤ settings.maxPayload →
      Answers settings.maxPayload (settings.commandId (log.told.length + 1)) header body ended →
      Passes (call.request (settings.commandId (log.told.length + 1))).frame
        (header.encode ++ body) socket socket' log log' →
      Concluded settings call s
        (call.wrap ended,
          ⟨⟨settings, ⟨settings.commandId (log.told.length + 1), false, none⟩, some socket'⟩, w',
            ⟨closed', some { log' with told := log'.told ++ [(call, call.wrap ended)] }⟩⟩)
  | lost {socket socket' : Socket} {log log' : Log} {taken part got : Bytes} {closed' : List Log}
      {e : RegistryError} {w' : σ} :
      AtRest settings socket log taken →
      Chosen s.client s.tape.current s.tape.closed socket log closed' →
      call.payload.length ≤ settings.maxPayload →
      e.isFault = true →
      part <+: (call.request (settings.commandId (log.told.length + 1))).frame →
      Passes part got socket socket' log log' →
      Concluded settings call s
        (call.wrap (.failed e), ⟨fresh settings, w', ⟨log' :: closed', none⟩⟩)
  | abandoned {socket socket' : Socket} {log log' : Log} {taken part got : Bytes}
      {closed' : List Log} {w' : σ} :
      AtRest settings socket log taken →
      Chosen s.client s.tape.current s.tape.closed socket log closed' →
      call.payload.length ≤ settings.maxPayload →
      part <+: (call.request (settings.commandId (log.told.length + 1))).frame →
      Passes part got socket socket' log log' →
      Concluded settings call s
        (call.wrap .abandoned,
          ⟨⟨settings, ⟨settings.commandId (log.told.length + 1), true, none⟩, some socket'⟩, w',
            ⟨closed', some log'⟩⟩)

/-- **There is no other way for a call to end, and to leave the client.** -/
theorem Link.concluded (h : Link settings s.client s.tape.current) (call : Call)
    (patience : Option Nat) : Concluded settings call s (s.call r call patience) := by
  have hexecuted := h.execute r s.world s.tape.closed call patience
  rw [Scene.call, Call.attempt_eq]
  dsimp only
  rw [call.isAnswer_wrap]
  generalize s.client.execute r.recorded patience call.command call.payload (s.world, s.tape)
    = result at hexecuted
  cases hexecuted with
  | tooLarge hlarge => exact .tooLarge hlarge
  | unconnected hvain =>
    rw [CallEnd.isAnswer_of_isVain hvain]
    exact .unconnected hvain
  | called hrest hchosen hfits hcalled =>
    cases hcalled with
    | answered hanswers hpasses =>
      rw [hanswers.isAnswer]
      exact .answered hrest hchosen hfits hanswers hpasses
    | @lost e part got socket' log' w' hfault hpart hpasses =>
      have hvain : (CallEnd.failed (α := Bytes) e).isVain = true := hfault
      rw [CallEnd.isAnswer_of_isVain hvain]
      exact .lost hrest hchosen hfits hfault hpart hpasses
    | abandoned hpart hpasses => exact .abandoned hrest hchosen hfits hpart hpasses

/-- A call leaves the client between two calls. -/
theorem Conducted.concluded {result : Answer × Scene σ} (h : Conducted settings s)
    (hconcluded : Concluded settings call s result) : Conducted settings result.2 := by
  cases hconcluded with
  | tooLarge hlarge => exact h
  | unconnected hvain => exact ⟨.unconnected, h.logs⟩
  | @answered socket socket' log log' _ _ _ _ ended _ hrest hchosen hfits hanswers hpasses =>
    have hcount : (log'.told ++ [(call, call.wrap ended)]).length = log.told.length + 1 := by
      rw [List.length_append, hpasses.told]
      rfl
    refine ⟨?_, h.chosen hchosen⟩
    dsimp only
    rw [← hcount]
    exact .rested (hrest.answered hfits hanswers hpasses)
  | lost hrest hchosen hfits hfault hpart hpasses =>
    exact ⟨.unconnected, List.forall_mem_cons.2
      ⟨⟨call, _, _, _, hrest.kept_of_passes hpasses hfits hpart⟩, h.chosen hchosen⟩⟩
  | abandoned hrest hchosen hfits hpart hpasses =>
    refine ⟨?_, h.chosen hchosen⟩
    dsimp only
    rw [← hpasses.told]
    exact .owed (hrest.kept_of_passes hpasses hfits hpart)

/-! ## Anything else -/

theorem Link.look (h : Link settings c current) : Link settings c.isAlive.2 current := by
  have hpeek : ∀ socket : Socket, socket.peek.2.unread = socket.unread := by
    intro socket
    rw [Socket.peek]
    split
    · rfl
    · split
      · rfl
      · rfl
  cases h with
  | unconnected => exact .unconnected
  | @rested socket log taken hrest =>
    have harrived : log.arrived = taken ++ socket.peek.2.unread := by
      rw [hpeek]
      exact hrest.arrived
    exact .rested ⟨hrest.dialogue, harrived⟩
  | owed hkept => exact .owed hkept

/-- While time passes nothing is written or read. -/
theorem recorded_idleUntil {socket : Socket} (hsocket : c.socket = some socket) (w : σ)
    (closed : List Log) (log : Log) (time : Nat) :
    ∃ socket' w' log', c.idleUntil r.recorded (w, ⟨closed, some log⟩) time
        = ({ c with socket := some socket' }, w', ⟨closed, some log'⟩)
      ∧ Passes [] [] socket socket' log log' := by
  obtain ⟨socket', w', log', hslept, hpasses⟩ :=
    r.recorded_sleep socket w closed log (time - r.recorded.now (w, ⟨closed, some log⟩))
  refine ⟨socket', w', log', ?_, hpasses⟩
  rw [idleUntil, hsocket]
  dsimp only
  rw [hslept]

theorem Kept.idle {socket socket' : Socket} {log log' : Log} {sent part taken : Bytes}
    (h : Kept settings log call sent part taken) (hpasses : Passes [] [] socket socket' log log') :
    Kept settings log' call sent part taken where
  dialogue := hpasses.told ▸ h.dialogue
  arrived := by
    obtain ⟨more, harrived, -⟩ := hpasses.arrived
    rw [harrived]
    exact h.arrived.trans (List.prefix_append _ _)
  sent := by rw [hpasses.sent, List.append_nil, h.sent]
  fits := h.fits
  part := hpasses.told ▸ h.part

theorem AtRest.idle {socket socket' : Socket} {log log' : Log} {taken : Bytes}
    (h : AtRest settings socket log taken) (hpasses : Passes [] [] socket socket' log log') :
    AtRest settings socket' log' taken where
  dialogue := by
    rw [hpasses.told, hpasses.sent, List.append_nil]
    exact h.dialogue
  arrived := by rw [hpasses.taken h.arrived, List.append_nil]

theorem Link.idle (h : Link settings c current) (w : σ) (closed : List Log) (time : Nat) :
    ∃ c' w' current', c.idleUntil r.recorded (w, ⟨closed, current⟩) time
        = (c', w', ⟨closed, current'⟩) ∧ Link settings c' current'
      ∧ current'.map Log.sent = current.map Log.sent := by
  have hsame : ∀ {socket socket' : Socket} {log log' : Log}, Passes [] [] socket socket' log log' →
      (some log').map Log.sent = (some log).map Log.sent := fun hpasses =>
    congrArg some (hpasses.sent.trans (List.append_nil _))
  cases h with
  | unconnected => exact ⟨_, _, _, rfl, .unconnected, rfl⟩
  | @rested socket log taken hrest =>
    obtain ⟨socket', w', log', hidle, hpasses⟩ :=
      recorded_idleUntil r (c := ⟨settings, ⟨settings.commandId log.told.length, false, none⟩,
        some socket⟩) rfl w closed log time
    have hrest' := Link.rested (hrest.idle hpasses)
    rw [hpasses.told] at hrest'
    exact ⟨_, w', _, hidle, hrest', hsame hpasses⟩
  | @owed socket log call sent part taken hkept =>
    obtain ⟨socket', w', log', hidle, hpasses⟩ :=
      recorded_idleUntil r (c := ⟨settings, ⟨settings.commandId (log.told.length + 1), true, none⟩,
        some socket⟩) rfl w closed log time
    have hkept' : Link settings ⟨settings, _, some socket'⟩ _ := .owed (hkept.idle hpasses)
    rw [hpasses.told] at hkept'
    exact ⟨_, w', _, hidle, hkept', hsame hpasses⟩

/-- **Whatever is done with a client between two calls, it is between two calls then.** -/
theorem Conducted.act (h : Conducted settings s) (deed : Deed) :
    Conducted settings (s.act r deed) := by
  cases deed with
  | call call patience => exact h.concluded (h.link.concluded r call patience)
  | reconnect =>
    have hprepared := h.link.reconnect r s.world s.tape.closed
    rw [Scene.act]
    generalize s.client.reconnect r.recorded (s.world, s.tape) = result at hprepared
    cases hprepared with
    | ready hrest hchosen => exact ⟨.rested hrest, h.chosen hchosen⟩
    | unconnected hvain => exact ⟨.unconnected, h.logs⟩
  | disconnect =>
    obtain ⟨w', hdisconnect⟩ := h.link.disconnect r s.world s.tape.closed
    rw [Scene.act, hdisconnect]
    exact ⟨.unconnected, h.logs⟩
  | look => exact ⟨h.link.look, h.closed⟩
  | idle time =>
    obtain ⟨c', w', current', hidle, hlink, -⟩ := h.link.idle r s.world s.tape.closed time
    rw [Scene.act, hidle]
    exact ⟨hlink, h.closed⟩

/-- **Whatever is done with a client, whatever is at the other end.** -/
theorem conducted_run (settings : ClientSettings) (w : σ) (deeds : List Deed) :
    Conducted settings (Scene.run r deeds (.start settings w)) := by
  induction deeds using List.reverseRecOn with
  | nil => exact conducted_start settings w
  | append_singleton deeds deed ih =>
    rw [Scene.run, List.foldl_append]
    exact ih.act r deed

end

end Client
end TokenBroker
