import TokenBroker.Proofs.Client.Answers
import TokenBroker.Proofs.Daemon.Numbering
/-!
# How a client numbers its commands

Whatever becomes of its calls, and wherever they are given up, a client numbers the commands on each
connection from the first, leaves no number out, and sends no command on a connection that owes it a
response.

* `Numbered` says of a connection that all that was sent on it are the commands of the calls that
  were answered, and a beginning of one more.
* `Adds` says what one thing done with a client adds to that.
* `numbered_run` puts them together, for any number of things done.
-/

set_option autoImplicit false

namespace TokenBroker

/-- What an observer reports of so many commands, of which none is missing. -/
def Sequence.unbroken : Nat → List Observation
  | 0 => []
  | n + 1 => .first :: List.replicate n .inOrder

namespace Client

variable {settings : ClientSettings}

/-! ## Numbered commands -/

/-- The commands of calls on a connection, of which so many came before. -/
def requestsFrom (settings : ClientSettings) : Nat → List Call → List Request
  | _, [] => []
  | n, call :: rest =>
    call.request (settings.commandId (n + 1)) :: requestsFrom settings (n + 1) rest

theorem requestsFrom_concat (settings : ClientSettings) (n : Nat) (calls : List Call)
    (call : Call) : requestsFrom settings n (calls ++ [call])
      = requestsFrom settings n calls
        ++ [call.request (settings.commandId (n + calls.length + 1))] := by
  induction calls generalizing n with
  | nil => rfl
  | cons first rest ih =>
    have hcount : n + 1 + rest.length = n + (first :: rest).length := by
      rw [List.length_cons]
      omega
    show _ :: requestsFrom settings (n + 1) (rest ++ [call]) = _
    rw [ih, hcount]
    rfl

theorem commandId_sub (settings : ClientSettings) (n : Nat) :
    settings.commandId (n + 1) - settings.commandId n = 1 := by
  rw [settings.commandId_succ, UInt32.add_comm]
  exact UInt32.add_sub_cancel _ _

theorem observe_commandId (settings : ClientSettings) (n : Nat) :
    (⟨some (settings.commandId n)⟩ : Sequence.Observer).observe (settings.commandId (n + 1))
      = (.inOrder, ⟨some (settings.commandId (n + 1))⟩) := by
  rw [Sequence.Observer.observe]
  dsimp only
  rw [if_pos (commandId_sub settings n)]

theorem observeAll_after (settings : ClientSettings) (n : Nat) (calls : List Call) :
    (⟨some (settings.commandId n)⟩ : Sequence.Observer).observeAll
        ((requestsFrom settings n calls).map Request.id)
      = List.replicate (requestsFrom settings n calls).length .inOrder := by
  induction calls generalizing n with
  | nil => rfl
  | cons call rest ih =>
    show _ :: _ = _
    rw [Call.request, observe_commandId, ih]
    rfl

/-- The first command is the first, and each other one is in order. -/
theorem observeAll_requestsFrom (settings : ClientSettings) (n : Nat) (calls : List Call) :
    ({} : Sequence.Observer).observeAll ((requestsFrom settings n calls).map Request.id)
      = Sequence.unbroken (requestsFrom settings n calls).length := by
  cases calls with
  | nil => rfl
  | cons call rest => exact congrArg (.first :: ·) (observeAll_after settings (n + 1) rest)

/-- Numbered commands are in step, if each says how large its payload is. -/
theorem series_requestsFrom {o : Sequence.Observer} {n : Nat} {calls : List Call}
    (hnext : ∀ previous, o.previous = some previous → previous = settings.commandId n)
    (hdeclared : ∀ call ∈ calls, call.payload.length < UInt32.size) :
    Series o (requestsFrom settings n calls) := by
  induction calls generalizing o n with
  | nil => exact .nil o
  | cons call rest ih =>
    refine .cons (fun previous hprevious => ?_) (hdeclared call List.mem_cons_self)
      (ih (fun previous hprevious => (Option.some.inj hprevious).symm)
        fun other hother => hdeclared other (List.mem_cons_of_mem _ hother))
    rw [hnext previous hprevious]
    exact commandId_sub settings n

/-! ## What was sent on a connection -/

/-- All that was sent on a connection are the commands of the calls that were answered, and a
beginning of the last one. -/
structure Numbered (settings : ClientSettings) (log : Log) (last : Call) : Prop where
  answered : (requestsFrom settings 0 (log.told.map Prod.fst)).flatMap Request.frame <+: log.sent
  begun : log.sent
    <+: (requestsFrom settings 0 (log.told.map Prod.fst ++ [last])).flatMap Request.frame
  fit : ∀ call ∈ log.told.map Prod.fst ++ [last], call.payload.length ≤ settings.maxPayload

theorem Dialogue.sent_eq {told : List (Call × Answer)} {sent taken : Bytes}
    (h : Dialogue settings told sent taken) :
    sent = (requestsFrom settings 0 (told.map Prod.fst)).flatMap Request.frame := by
  induction h with
  | start => rfl
  | @turn told sent taken call header body ended hbefore hfits hanswers ih =>
    rw [List.map_append, List.map_singleton, requestsFrom_concat, List.flatMap_append, ← ih,
      List.flatMap_singleton, List.length_map, Nat.zero_add]

theorem Dialogue.fit {told : List (Call × Answer)} {sent taken : Bytes}
    (h : Dialogue settings told sent taken) :
    ∀ call ∈ told.map Prod.fst, call.payload.length ≤ settings.maxPayload := by
  induction h with
  | start => exact fun call hcall => (List.not_mem_nil hcall).elim
  | @turn told sent taken call header body ended hbefore hfits hanswers ih =>
    intro other hother
    rw [List.map_append, List.map_singleton] at hother
    rcases List.mem_append.1 hother with hearlier | hlast
    · exact ih other hearlier
    · exact List.mem_singleton.1 hlast ▸ hfits

theorem Kept.numbered {log : Log} {call : Call} {sent part taken : Bytes}
    (h : Kept settings log call sent part taken) : Numbered settings log call := by
  have hsent := h.dialogue.sent_eq
  constructor
  · rw [h.sent, ← hsent]
    exact List.prefix_append _ _
  · rw [h.sent, requestsFrom_concat, List.flatMap_append, ← hsent, List.flatMap_singleton,
      List.length_map, Nat.zero_add]
    exact (List.prefix_append_right_inj sent).2 h.part
  · intro other hother
    rcases List.mem_append.1 hother with hearlier | hlast
    · exact h.dialogue.fit other hearlier
    · exact List.mem_singleton.1 hlast ▸ h.fits

/-- A daemon at the other end misses no command. -/
theorem Numbered.unbroken {log : Log} {last : Call} (h : Numbered settings log last)
    (hdeclared : settings.maxPayload < UInt32.size) : Server.Unbroken log.sent :=
  Server.unbroken_of_series
    (series_requestsFrom (fun _ hprevious => by cases hprevious)
      fun call hcall => Nat.lt_of_le_of_lt (h.fit call hcall) hdeclared) h.begun

/-! ## One thing done -/

/-- What a thing done with a client adds to what was sent on its connections: nothing; a connection,
on which nothing is sent; or a beginning of the command of a call, on the last connection or a new
one, on which every command was answered. -/
inductive Adds (settings : ClientSettings) (before after : List Log) : Deed → Prop where
  | nothing {deed : Deed} : after.map Log.sent = before.map Log.sent →
      Adds settings before after deed
  | connection : after = {} :: before → Adds settings before after .reconnect
  | command {call : Call} {patience : Option Nat} {log log' : Log} {rest : List Log}
      {taken part : Bytes} :
      (before = log :: rest ∨ (log = {} ∧ before = rest)) → after = log' :: rest →
      Dialogue settings log.told log.sent taken → log'.sent = log.sent ++ part →
      part <+: (call.request (settings.commandId (log.told.length + 1))).frame →
      Adds settings before after (.call call patience)

section

variable {σ : Type} {s : Scene σ}

/-- The connection of a call is the last one, or a new one. -/
theorem logs_of_chosen {socket : Socket} {log : Log} {closed' : List Log}
    (h : Chosen s.client s.tape.current s.tape.closed socket log closed') :
    s.tape.logs = log :: closed' ∨ (log = {} ∧ s.tape.logs = closed') := by
  rcases h with ⟨-, hcurrent, rfl⟩ | ⟨-, rfl, rfl⟩
  · refine .inl ?_
    rw [Tape.logs, hcurrent]
    rfl
  · exact .inr ⟨rfl, rfl⟩

theorem Concluded.adds {call : Call} {result : Answer × Scene σ}
    (h : Concluded settings call s result) (patience : Option Nat) :
    Adds settings s.tape.logs result.2.tape.logs (.call call patience) := by
  cases h with
  | tooLarge hlarge => exact .nothing rfl
  | unconnected hvain => exact .nothing rfl
  | answered hrest hchosen hfits hanswers hpasses =>
    exact .command (logs_of_chosen hchosen) rfl hrest.dialogue hpasses.sent List.prefix_rfl
  | lost hrest hchosen hfits hfault hpart hpasses =>
    exact .command (logs_of_chosen hchosen) rfl hrest.dialogue hpasses.sent hpart
  | abandoned hrest hchosen hfits hpart hpasses =>
    exact .command (logs_of_chosen hchosen) rfl hrest.dialogue hpasses.sent hpart

theorem Conducted.adds (h : Conducted settings s) (r : Remote σ) (deed : Deed) :
    Adds settings s.tape.logs (s.act r deed).tape.logs deed := by
  cases deed with
  | call call patience => exact (h.link.concluded r call patience).adds patience
  | reconnect =>
    have hprepared := h.link.reconnect r s.world s.tape.closed
    rw [Scene.act]
    generalize s.client.reconnect r.recorded (s.world, s.tape) = result at hprepared
    cases hprepared with
    | unconnected hvain => exact .nothing rfl
    | ready hrest hchosen =>
      rcases logs_of_chosen hchosen with hlast | ⟨rfl, hnew⟩
      · rw [hlast]
        exact .nothing rfl
      · rw [hnew]
        exact .connection rfl
  | disconnect =>
    obtain ⟨w', hdisconnect⟩ := h.link.disconnect r s.world s.tape.closed
    rw [Scene.act, hdisconnect]
    exact .nothing rfl
  | look => exact .nothing rfl
  | idle time =>
    obtain ⟨c', w', current', hidle, -, hsent⟩ := h.link.idle r s.world s.tape.closed time
    rw [Scene.act, hidle]
    refine .nothing ?_
    dsimp only [Tape.logs]
    rw [List.map_append, List.map_append, ← Option.toList_map, ← Option.toList_map, hsent]

/-- A client that connects has its numbering afresh. -/
theorem tracker_of_reconnect {r : Remote σ} {c c' : Client} {w w' : σ}
    (h : c.reconnect r w = (.ok (), c', w')) :
    c'.tracker = .fresh c.settings.initialCommandId := by
  rw [reconnect] at h
  dsimp only [disconnect] at h
  split at h
  · cases h
  · split at h
    · cases h
      rfl
    · cases h
    · cases h

/-- The number of a command is always to be had. -/
theorem Link.issues {c : Client} {current : Option Log} (h : Link settings c current)
    {r : Remote σ} {w : σ} {c' : Client} {w' : σ} (hprepared : c.prepare r w = (.ok (), c', w')) :
    ∃ id tracker, c'.tracker.issue = (.ok id, tracker) := by
  have hfresh : ∀ initial, (Sequence.Tracker.fresh initial).issue
      = (.ok (initial + 1), ⟨initial + 1, true, none⟩) := fun initial =>
    Sequence.Tracker.issue_rested initial
  cases h with
  | unconnected => exact ⟨_, _, tracker_of_reconnect hprepared ▸ hfresh _⟩
  | rested hrest =>
    cases hprepared
    exact ⟨_, _, Sequence.Tracker.issue_rested _⟩
  | owed hkept => exact ⟨_, _, tracker_of_reconnect hprepared ▸ hfresh _⟩

theorem Link.fresh_of_unconnected {c : Client} {current : Option Log}
    (h : Link settings c current) (hsocket : c.socket = none) : c = fresh settings := by
  cases h with
  | unconnected => rfl
  | rested hrest => cases hsocket
  | owed hkept => cases hsocket

end

/-! ## Any number of things done -/

/-- **A client numbers its commands without fault.**  Whatever was done with it, and whatever is at
the other end: without a connection it is as it was in the beginning; on each connection it has sent
the commands of the calls that were answered there, and no more than a beginning of another one,
numbered one after the other, so that an observer finds each in order, and no daemon notes a gap;
whatever is done next begins at most one command, on a connection that owes no response; and a call
that has a connection gets a number. -/
theorem numbered_run {σ : Type} (r : Remote σ) (settings : ClientSettings) (w : σ)
    (deeds : List Deed) :
    let s := Scene.run r deeds (.start settings w)
    (s.client, s.world) = deeds.foldl (Deed.apply r) (fresh settings, w)
      ∧ (s.client.socket = none → s.client = fresh settings)
      ∧ (∀ log ∈ s.tape.logs, ∃ last, Numbered settings log last
        ∧ (let commands := requestsFrom settings 0 (log.told.map Prod.fst ++ [last])
          ({} : Sequence.Observer).observeAll (commands.map Request.id)
            = Sequence.unbroken commands.length)
        ∧ (settings.maxPayload < UInt32.size → Server.Unbroken log.sent))
      ∧ (∀ deed, Adds settings s.tape.logs (s.act r deed).tape.logs deed)
      ∧ ∀ c w', s.client.prepare r s.world = (.ok (), c, w') →
        ∃ id tracker, c.tracker.issue = (.ok id, tracker) := by
  intro s
  have hconducted : Conducted settings s := conducted_run r settings w deeds
  refine ⟨Scene.run_eq r deeds _, hconducted.link.fresh_of_unconnected, fun log hlog => ?_,
    hconducted.adds r, fun c w' => hconducted.link.issues⟩
  obtain ⟨last, sent, part, taken, hkept⟩ := hconducted.logs log hlog
  exact ⟨last, hkept.numbered, observeAll_requestsFrom settings 0 _, hkept.numbered.unbroken⟩

/-- The settings of a client whose second command has the id 0. -/
def wrappingSettings : ClientSettings :=
  { endpoint := "#x", maxPayload := 4, initialCommandId := 0xfffffffe }

/-- The first command is answered, the second one and the third are given up; the third one is sent
on a new connection, under the first id again. -/
theorem numbered_run_as_ids_wrap :
    let s := Scene.run reciter
      [.call (.store [7]) none, .call .read (some 5), .call .delete (some 9)]
      (.start wrappingSettings (0, [(1, .bytes (⟨0xffffffff, 0, 0⟩ : ResponseHeader).encode)]))
    s.tape.logs.map Log.sent
        = [(Request.mk 0xffffffff .deleteAuthToken []).frame,
          (Request.mk 0xffffffff .writeAuthToken [7]).frame
            ++ (Request.mk 0 .readAuthToken []).frame]
      ∧ (∀ log ∈ s.tape.logs, Server.Unbroken log.sent)
      ∧ Adds wrappingSettings s.tape.logs (s.act reciter (.call .read none)).tape.logs
          (.call .read none) := by
  intro s
  obtain ⟨-, -, hlogs, hadds, -⟩ := numbered_run reciter wrappingSettings
    (0, [(1, .bytes (⟨0xffffffff, 0, 0⟩ : ResponseHeader).encode)])
    [.call (.store [7]) none, .call .read (some 5), .call .delete (some 9)]
  refine ⟨by decide +kernel, fun log hlog => ?_, hadds _⟩
  obtain ⟨last, -, -, hunbroken⟩ := hlogs log hlog
  exact hunbroken (by decide)

end Client
end TokenBroker
