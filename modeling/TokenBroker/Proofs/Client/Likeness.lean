import TokenBroker.Client.Basic
/-!
# Far sides that are alike to a client

A far side may know more than a client can find out.  If the states of one, looked at through some
function, are the states of another, and both do the same, then a client ends up the same with
either.

* `Remote.Like` is the relation of the two.
* `Like.write`, `Like.reader` and `Like.recvResponse` are what a client does on its connection, and
  `Like.execute` is a whole call.
-/

set_option autoImplicit false

namespace TokenBroker

/-- Look at the far side, at the end of what an operation gives, through a function. -/
def seenThrough {σ τ α β : Type} (view : τ → σ) (result : α × β × τ) : α × β × σ :=
  (result.1, result.2.1, view result.2.2)

namespace Remote

variable {σ τ : Type} {view : τ → σ} {r' : Remote τ} {r : Remote σ}

/-- Seen through `view`, the far side `r'` is the far side `r`. -/
structure Like (view : τ → σ) (r' : Remote τ) (r : Remote σ) : Prop where
  now : ∀ s, r'.now s = r.now (view s)
  connect : ∀ endpoint s, Prod.map id view (r'.connect endpoint s) = r.connect endpoint (view s)
  offer : ∀ bytes s, Prod.map id view (r'.offer bytes s) = r.offer bytes (view s)
  roomAt : ∀ s, r'.roomAt s = r.roomAt (view s)
  arrivals : ∀ wanted s, r'.arrivals wanted s = r.arrivals wanted (view s)
  waitUntil : ∀ wanted time s, view (r'.waitUntil wanted time s) = r.waitUntil wanted time (view s)
  close : ∀ arrival s, view (r'.close arrival s) = r.close arrival (view s)

namespace Like

variable (h : Like view r' r)
include h

theorem line (wanted : Nat) (socket : Socket) (s : τ) :
    r'.line wanted socket s = r.line wanted socket (view s) := by
  rw [Remote.line, Remote.line, h.now, h.arrivals]

theorem follow (wanted : Nat) (l : Line) (s : τ) :
    Prod.map id view (r'.follow wanted l s) = r.follow wanted l (view s) := by
  rw [Remote.follow, Remote.follow, ← h.waitUntil]
  rfl

theorem sleep (duration : Nat) (socket : Socket) (s : τ) :
    Prod.map id view (r'.sleep duration socket s) = r.sleep duration socket (view s) := by
  rw [Remote.sleep, Remote.sleep, h.follow, h.line]

theorem reader (timeout patience : Option Nat) (n : Nat) (socket : Socket) (s : τ) :
    seenThrough view (r'.reader timeout patience n (socket, s))
      = r.reader timeout patience n (socket, view s) := by
  simp only [Remote.reader, h.line]
  exact congrArg (Prod.mk _) (h.follow n _ s)

theorem awaitRoom (patience : Option Nat) (socket : Socket) (s : τ) :
    seenThrough view (r'.awaitRoom patience socket s) = r.awaitRoom patience socket (view s) := by
  simp only [Remote.awaitRoom, h.now, h.roomAt, h.arrivals, ← h.sleep]
  split
  · rfl
  · next time htime =>
    generalize r'.sleep (time - r.now (view s)) socket s = slept
    split
    · dsimp only [Prod.map_fst, Prod.map_snd, id]
      split
      · rfl
      · rfl
    · rfl

theorem writeRest (patience : Option Nat) (expected : Nat) (rest : Bytes) (socket : Socket)
    (s : τ) :
    seenThrough view (r'.writeRest patience expected rest socket s)
      = r.writeRest patience expected rest socket (view s) := by
  induction hlen : rest.length using Nat.strongRecOn generalizing rest socket s with
  | _ n ih =>
  subst hlen
  rw [Remote.writeRest, Remote.writeRest]
  split
  · rfl
  · next hrest =>
    rw [← h.awaitRoom]
    obtain ⟨outcome, socket', s'⟩ := r'.awaitRoom patience socket s
    cases outcome with
    | abandoned => rfl
    | failed e => rfl
    | finished done =>
      obtain ⟨taken, s'', hoffer⟩ : ∃ taken s'', r'.offer rest s' = (taken, s'') := ⟨_, _, rfl⟩
      have hoffer' : r.offer rest (view s') = (taken, view s'') := by
        rw [← h.offer, hoffer]
        rfl
      simp only [seenThrough, hoffer, hoffer']
      split
      · rfl
      · next htaken =>
        refine ih _ ?_ (rest.drop taken) socket' s'' rfl
        have := List.length_pos_iff.2 hrest
        rw [List.length_drop]
        omega

theorem write (patience : Option Nat) (bytes : Bytes) (socket : Socket) (s : τ) :
    seenThrough view (r'.write patience bytes socket s)
      = r.write patience bytes socket (view s) := by
  rw [Remote.write, Remote.write]
  split
  · rfl
  · split
    · rfl
    · rw [← h.offer]
      obtain ⟨taken, s'⟩ := r'.offer bytes s
      exact h.writeRest patience bytes.length (bytes.drop taken) socket s'

theorem recvPayload (timeout patience : Option Nat) (limit : Nat) (size : UInt32)
    (socket : Socket) (s : τ) :
    seenThrough view (Frame.recvPayload (r'.reader timeout patience) limit size (socket, s))
      = Frame.recvPayload (r.reader timeout patience) limit size (socket, view s) := by
  rw [Frame.recvPayload, Frame.recvPayload]
  cases Frame.payloadNeed limit size with
  | error e => rfl
  | ok n =>
    cases n with
    | zero => rfl
    | succ n =>
      simp only [← h.reader]
      rfl

theorem recvResponse (timeout patience : Option Nat) (limit : Nat) (socket : Socket) (s : τ) :
    seenThrough view (Frame.recvResponse (r'.reader timeout patience) limit (socket, s))
      = Frame.recvResponse (r.reader timeout patience) limit (socket, view s) := by
  simp only [Frame.recvResponse, Frame.recvResponseHeader, ← h.reader]
  obtain ⟨outcome, socket', s'⟩ := r'.reader timeout patience Header.size (socket, s)
  dsimp only [seenThrough]
  cases Frame.decoded ResponseHeader.decode? outcome with
  | failed e => rfl
  | abandoned => rfl
  | finished header =>
    dsimp only
    rw [← h.recvPayload]
    obtain ⟨outcome', socket'', s''⟩ :=
      Frame.recvPayload (r'.reader timeout patience) limit header.dataSize (socket', s')
    cases outcome' <;> rfl

end Like
end Remote

namespace Client

variable {σ τ : Type} {view : τ → σ} {r' : Remote τ} {r : Remote σ}

theorem exchange_like (h : Remote.Like view r' r) (patience : Option Nat)
    (settings : ClientSettings) (socket : Socket) (id : UInt32) (command : Command)
    (payload : Bytes) (s : τ) :
    seenThrough view (exchange r' patience settings socket id command payload s)
      = exchange r patience settings socket id command payload (view s) := by
  rw [exchange, exchange]
  cases Frame.ofCommand settings.maxPayload id command.code payload with
  | error e => rfl
  | ok frame =>
    obtain ⟨header, segments⟩ := frame
    dsimp only
    rw [← h.write]
    obtain ⟨outcome, socket', s'⟩ := r'.write patience segments.flatten socket s
    cases outcome with
    | failed e => rfl
    | abandoned => rfl
    | finished done => exact h.recvResponse settings.responseTimeout patience _ socket' s'

theorem disconnect_like (h : Remote.Like view r' r) (c : Client) (s : τ) :
    Prod.map id view (c.disconnect r' s) = c.disconnect r (view s) := by
  rw [disconnect, disconnect]
  cases c.farewell? with
  | none => rfl
  | some arrival => exact congrArg (Prod.mk _) (h.close arrival s)

theorem reconnect_like (h : Remote.Like view r' r) (c : Client) (s : τ) :
    seenThrough view (c.reconnect r' s) = c.reconnect r (view s) := by
  rw [reconnect, reconnect, ← disconnect_like h]
  obtain ⟨c', s'⟩ := c.disconnect r' s
  dsimp only [Prod.map, id]
  cases Endpoint.parse c'.settings.endpoint with
  | error e => rfl
  | ok endpoint =>
    dsimp only
    rw [← h.connect]
    obtain ⟨attempt, s''⟩ := r'.connect endpoint s'
    cases attempt <;> rfl

theorem fail_like (h : Remote.Like view r' r) (c : Client) (s : τ) (e : RegistryError) :
    seenThrough view (fail r' c s e) = fail r c (view s) e := by
  rw [fail, fail, ← disconnect_like h]
  rfl

theorem call_like (h : Remote.Like view r' r) (patience : Option Nat) (c : Client)
    (socket : Socket) (command : Command) (payload : Bytes) (s : τ) :
    seenThrough view (c.call r' patience socket command payload s)
      = c.call r patience socket command payload (view s) := by
  rw [call, call]
  obtain ⟨issued, tracker⟩ := c.tracker.issue
  cases issued with
  | error e => exact fail_like h _ s _
  | ok id =>
    dsimp only
    rw [← exchange_like h]
    obtain ⟨outcome, socket', s'⟩ := exchange r' patience c.settings socket id command payload s
    cases outcome with
    | abandoned => rfl
    | failed e => exact fail_like h _ s' _
    | finished response =>
      dsimp only [seenThrough]
      obtain ⟨judged, c'⟩ := judge { c with tracker := tracker, socket := some socket' }
        response.1 response.2
      cases judged with
      | error e => exact fail_like h c' s' e
      | ok meaning => cases meaning <;> rfl

/-- **A call is the same with far sides that are alike.** -/
theorem execute_like (h : Remote.Like view r' r) (patience : Option Nat) (c : Client)
    (command : Command) (payload : Bytes) (s : τ) :
    seenThrough view (c.execute r' patience command payload s)
      = c.execute r patience command payload (view s) := by
  rw [execute, execute]
  split
  · rfl
  · have hrefresh : Prod.map id view (c.refresh r' s) = c.refresh r (view s) := by
      rw [refresh, refresh]
      split
      · exact disconnect_like h c s
      · rfl
    rw [← hrefresh]
    obtain ⟨c', s'⟩ := c.refresh r' s
    dsimp only [Prod.map, id]
    cases c'.socket with
    | some socket => exact call_like h patience c' socket command payload s'
    | none =>
      dsimp only
      rw [← reconnect_like h]
      obtain ⟨ended, c'', s''⟩ := c'.reconnect r' s'
      cases ended with
      | failed e => rfl
      | abandoned => rfl
      | ok done =>
        dsimp only [seenThrough]
        cases c''.socket with
        | some socket => exact call_like h patience c'' socket command payload s''
        | none => rfl

end Client
end TokenBroker
