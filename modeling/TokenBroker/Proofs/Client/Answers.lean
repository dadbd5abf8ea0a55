import TokenBroker.Proofs.Client.Conduct
import TokenBroker.Proofs.Client.Likeness
/-!
# What an answer is worth

Whatever is at the other end of its connection, a client is not misled: what it takes for the answer
to a call is the response to that call, it takes all of it and no byte more, and where it cannot
tell it has no connection any more.

* `Remote.recorded_like` says that keeping a record changes nothing, so that `Scene.run` is what
  happens without it.
* `Heard` is what is so of a call that was answered, and `never_misled` the result.
-/

set_option autoImplicit false

namespace TokenBroker

/-! ## Keeping a record changes nothing -/

theorem Remote.recorded_like {σ : Type} (r : Remote σ) : Remote.Like Prod.fst r.recorded r where
  now s := rfl
  connect endpoint s := by
    obtain ⟨w, tape⟩ := s
    obtain ⟨attempt, w', hattempt⟩ : ∃ attempt w', r.connect endpoint w = (attempt, w') :=
      ⟨_, _, rfl⟩
    simp only [Remote.recorded, hattempt]
    cases attempt <;> rfl
  offer bytes s := rfl
  roomAt s := rfl
  arrivals wanted s := rfl
  waitUntil wanted time s := rfl
  close arrival s := rfl

namespace Client

variable {σ : Type} (r : Remote σ)

/-- Do something with a client, without a record. -/
def Deed.apply (state : Client × σ) : Deed → Client × σ
  | .call asked patience => (asked.attempt r patience state.1 state.2).2
  | .reconnect => (state.1.reconnect r state.2).2
  | .disconnect => state.1.disconnect r state.2
  | .look => (state.1.isAlive.2, state.2)
  | .idle time => state.1.idleUntil r state.2 time

theorem attempt_like {τ : Type} {view : τ → σ} {r' : Remote τ} {r : Remote σ}
    (h : Remote.Like view r' r) (call : Call) (patience : Option Nat) (c : Client) (s : τ) :
    seenThrough view (call.attempt r' patience c s) = call.attempt r patience c (view s) := by
  rw [Call.attempt_eq, Call.attempt_eq, ← execute_like h]
  rfl

theorem Scene.call_eq (s : Scene σ) (call : Call) (patience : Option Nat) :
    ((s.call r call patience).1, (s.call r call patience).2.client,
        (s.call r call patience).2.world)
      = call.attempt r patience s.client s.world :=
  attempt_like r.recorded_like call patience s.client (s.world, s.tape)

theorem Scene.act_eq (s : Scene σ) (deed : Deed) :
    ((s.act r deed).client, (s.act r deed).world) = Deed.apply r (s.client, s.world) deed := by
  cases deed with
  | call call patience => exact congrArg Prod.snd (s.call_eq r call patience)
  | reconnect => exact congrArg Prod.snd (reconnect_like r.recorded_like s.client (s.world, s.tape))
  | disconnect => exact disconnect_like r.recorded_like s.client (s.world, s.tape)
  | look => rfl
  | idle time =>
    rw [Deed.apply, Scene.act, idleUntil, idleUntil]
    cases s.client.socket with
    | none => rfl
    | some socket => rfl

/-- **A record is kept of what happens anyway.** -/
theorem Scene.run_eq (deeds : List Deed) (s : Scene σ) :
    ((Scene.run r deeds s).client, (Scene.run r deeds s).world)
      = deeds.foldl (Deed.apply r) (s.client, s.world) := by
  induction deeds generalizing s with
  | nil => rfl
  | cons deed rest ih => rw [List.foldl_cons, ← s.act_eq, ← ih]; rfl

/-! ## Answers -/

/-- The error that a caller is told of. -/
def Answer.error? : Answer → Option RegistryError
  | outcome (.failed e) => some e
  | token (.failed e) => some e
  | _ => none

theorem Call.error?_wrap (call : Call) (ended : CallEnd Bytes) :
    (call.wrap ended).error? = match ended with
      | .failed e => some e
      | _ => none := by
  cases call <;> cases ended <;> rfl

theorem Answer.isAnswer_of_error? {answer : Answer} {e : RegistryError}
    (h : answer.error? = some e) : answer.isAnswer = e.isAnswer := by
  rcases answer with ⟨ended⟩ | ⟨ended⟩
  all_goals
    cases ended with
    | ok value => cases h
    | failed e' => rw [← Option.some.inj h]; rfl
    | abandoned => cases h

/-- The ids of less than 2^32 commands are different. -/
theorem commandId_ne (settings : ClientSettings) {m n : Nat} (hlt : m < n)
    (hfew : n - m < UInt32.size) : settings.commandId n ≠ settings.commandId m := by
  intro heq
  have hof : UInt32.ofNat n = UInt32.ofNat m := by
    rw [ClientSettings.commandId, ClientSettings.commandId] at heq
    exact (UInt32.add_right_inj settings.initialCommandId).1 heq
  have hmod : n % UInt32.size = m % UInt32.size := by
    have htoNat := congrArg UInt32.toNat hof
    rwa [UInt32.toNat_ofNat', UInt32.toNat_ofNat'] at htoNat
  have hsize : UInt32.size = 4294967296 := rfl
  rw [hsize] at hmod hfew
  omega

/-- A call on a connection was answered by the response to it, which was all that was read. -/
structure Heard (settings : ClientSettings) (call : Call) (answer : Answer)
    (before after : Scene σ) (socket socket' : Socket) (log log' : Log) (taken body : Bytes)
    (header : ResponseHeader) : Prop where
  /-- Before the call: the connection is the one there is or a new one, and all that was read of it
  answered the calls before this one. -/
  chosen : ∃ closed, Chosen before.client before.tape.current before.tape.closed socket log closed
  before : AtRest settings socket log taken
  /-- The response: it was next among the bytes that were not read. -/
  next : ∃ more, log'.arrived = log.arrived ++ more
    ∧ socket.unread ++ more = header.encode ++ body ++ socket'.unread
  response : ∃ ended, answer = call.wrap ended
    ∧ Answers settings.maxPayload (settings.commandId (log.told.length + 1)) header body ended
  /-- No response to one of the commands before, as far as ids tell them apart, would have done. -/
  new : ∀ m ≤ log.told.length, log.told.length + 1 - m < UInt32.size →
    header.id ≠ settings.commandId m
  /-- After the call. -/
  client : after.client
    = ⟨settings, ⟨settings.commandId (log.told.length + 1), false, none⟩, some socket'⟩
  current : after.tape.current = some log'
  told : log'.told = log.told ++ [(call, answer)]
  after : AtRest settings socket' log' (taken ++ (header.encode ++ body))

section

variable {settings : ClientSettings} {call : Call} {answer : Answer} {before after : Scene σ}

theorem Concluded.heard (h : Concluded settings call before (answer, after))
    (hanswer : answer.isAnswer = true) :
    ∃ socket socket' log log' taken body header,
      Heard settings call answer before after socket socket' log log' taken body header := by
  cases h with
  | tooLarge hlarge =>
    rw [Call.isAnswer_wrap] at hanswer
    cases hanswer
  | unconnected hvain =>
    rw [Call.isAnswer_wrap, CallEnd.isAnswer_of_isVain hvain] at hanswer
    cases hanswer
  | @lost _ _ _ _ _ _ _ _ e _ hrest hchosen hfits hfault hpart hpasses =>
    have hvain : (CallEnd.failed (α := Bytes) e).isVain = true := hfault
    rw [Call.isAnswer_wrap, CallEnd.isAnswer_of_isVain hvain] at hanswer
    cases hanswer
  | abandoned hrest hchosen hfits hpart hpasses =>
    rw [Call.isAnswer_wrap] at hanswer
    cases hanswer
  | @answered socket socket' log log' taken body closed' header ended w' hrest hchosen hfits
      hanswers hpasses =>
    exact ⟨socket, socket', log, { log' with told := log'.told ++ [(call, call.wrap ended)] },
      taken, body, header, {
        chosen := ⟨closed', hchosen⟩
        before := hrest
        next := hpasses.arrived
        response := ⟨ended, rfl, hanswers⟩
        new := fun m hm hfew => hanswers.id ▸ commandId_ne settings (Nat.lt_succ_of_le hm) hfew
        client := rfl
        current := rfl
        told := congrArg (· ++ [(call, call.wrap ended)]) hpasses.told
        after := hrest.answered hfits hanswers hpasses }⟩

/-- A failure that is not what the daemon answered is a refusal at once, and nothing has happened,
or it is the end of the connection. -/
theorem Concluded.failed (h : Concluded settings call before (answer, after)) {e : RegistryError}
    (herror : answer.error? = some e) (hanswer : e.isAnswer = false) :
    ((∃ size max, e = .tooLarge size max) ∧ after = before)
      ∨ (e.isFault = true ∧ after.client = fresh settings) := by
  have hnot : answer.isAnswer = false := (Answer.isAnswer_of_error? herror).trans hanswer
  cases h with
  | tooLarge hlarge =>
    rw [Call.error?_wrap] at herror
    exact .inl ⟨⟨_, _, (Option.some.inj herror).symm⟩, rfl⟩
  | @unconnected ended w' hvain =>
    rw [Call.error?_wrap] at herror
    cases ended with
    | ok body => cases herror
    | failed e' => exact .inr ⟨Option.some.inj herror ▸ hvain, rfl⟩
    | abandoned => cases herror
  | answered hrest hchosen hfits hanswers hpasses =>
    rw [Call.isAnswer_wrap, hanswers.isAnswer] at hnot
    cases hnot
  | lost hrest hchosen hfits hfault hpart hpasses =>
    rw [Call.error?_wrap] at herror
    exact .inr ⟨Option.some.inj herror ▸ hfault, rfl⟩
  | abandoned hrest hchosen hfits hpart hpasses =>
    rw [Call.error?_wrap] at herror
    cases herror

end

/-- **A client never takes a wrong answer.**  Whatever the far side does, and whatever was done with
the client before: a call that is answered was answered by the next bytes on its connection, all of
which belong to the response to it; a call that is refused at once changes nothing; and any other
failure leaves a client that starts afresh.  On every connection, the bytes that were read for
answers are the responses to the calls that were answered, one after the other. -/
theorem never_misled (settings : ClientSettings) (w : σ) (deeds : List Deed) (call : Call)
    (patience : Option Nat) :
    let before := Scene.run r deeds (.start settings w)
    let answer := (before.call r call patience).1
    let after := (before.call r call patience).2
    call.attempt r patience before.client before.world = (answer, after.client, after.world)
      ∧ (answer.isAnswer = true → ∃ socket socket' log log' taken body header,
          Heard settings call answer before after socket socket' log log' taken body header)
      ∧ (∀ size max, answer.error? = some (.tooLarge size max) → after = before)
      ∧ (∀ e, answer.error? = some e → e.isAnswer = false →
          (∀ size max, e ≠ .tooLarge size max) → after.client = fresh settings)
      ∧ ∀ log ∈ after.tape.logs, ∃ sent taken unread,
          Dialogue settings log.told sent taken ∧ log.arrived = taken ++ unread := by
  intro before answer after
  have hbefore : Conducted settings before := conducted_run r settings w deeds
  have hconcluded : Concluded settings call before (answer, after) :=
    hbefore.link.concluded r call patience
  have hafter : Conducted settings after := hbefore.concluded hconcluded
  refine ⟨(before.call_eq r call patience).symm, hconcluded.heard, fun size max herror => ?_,
    fun e herror hanswer hlarge => ?_, fun log hlog => ?_⟩
  · rcases hconcluded.failed herror rfl with ⟨-, hsame⟩ | ⟨hfault, -⟩
    · exact hsame
    · cases hfault
  · rcases hconcluded.failed herror hanswer with ⟨⟨size, max, htooLarge⟩, -⟩ | ⟨-, hfresh⟩
    · exact absurd htooLarge (hlarge size max)
    · exact hfresh
  · obtain ⟨call', sent, part, taken, hkept⟩ := hafter.logs log hlog
    obtain ⟨unread, hunread⟩ := hkept.arrived
    exact ⟨sent, taken, unread, hkept.dialogue, hunread.symm⟩

/-- A far side that takes in everything and says what it has to say in its time; the state is the
time and what is still to be said. -/
def reciter : Remote (Nat × Schedule) where
  now s := s.1
  connect _ s := (.done, s)
  offer bytes s := (bytes.length, s)
  roomAt _ := none
  arrivals _ s := s.2
  waitUntil _ time s := (max s.1 time, s.2.dropWhile fun item => item.1 ≤ time)
  close _ s := s

/-- The response to the first command of a connection, twice, in pieces. -/
def echo : Schedule :=
  let response := (⟨1, 0, 2⟩ : ResponseHeader).encode ++ [7, 8]
  [(1, .bytes (response.take 5)), (4, .bytes (response.drop 5 ++ response.take 3)),
    (6, .bytes (response.drop 3))]

/-- The settings of a client that takes small tokens. -/
def smallSettings : ClientSettings := { endpoint := "#x", maxPayload := 4 }

/-- The first call takes the response, and the second one does not take it again. -/
theorem never_misled_by_echo :
    let start := Scene.start smallSettings (0, echo)
    let called := Scene.run reciter [.call .read none] start
    ((start.call reciter .read none).1 = .token (.ok [7, 8])
        ∧ ∃ socket socket' log log' taken body header, Heard smallSettings .read
          (.token (.ok [7, 8])) start (start.call reciter .read none).2 socket socket' log log'
          taken body header)
      ∧ (called.call reciter (.store [1, 2, 3, 4, 5]) none).2 = called
      ∧ (called.call reciter .read none).1 = .token (.failed
          (.protocol "Response id 1 does not match command id 2"))
      ∧ (called.call reciter .read none).2.client = fresh smallSettings := by
  intro start called
  have hfirst : (start.call reciter .read none).1 = .token (.ok [7, 8]) := by decide +kernel
  have hlarge : (called.call reciter (.store [1, 2, 3, 4, 5]) none).1.error?
      = some (.tooLarge 5 4) := by decide +kernel
  have hsecond : (called.call reciter .read none).1 = .token (.failed
      (.protocol "Response id 1 does not match command id 2")) := by decide +kernel
  obtain ⟨-, hheard, -⟩ := never_misled reciter smallSettings (0, echo) [] .read none
  obtain ⟨-, -, hrefused, -⟩ := never_misled reciter smallSettings (0, echo) [.call .read none]
    (.store [1, 2, 3, 4, 5]) none
  obtain ⟨-, -, -, hlost, -⟩ := never_misled reciter smallSettings (0, echo) [.call .read none]
    .read none
  refine ⟨⟨hfirst, ?_⟩, hrefused 5 4 hlarge, hsecond, ?_⟩
  · have hanswered := hheard (congrArg Answer.isAnswer hfirst)
    rwa [show (Scene.run reciter [] (.start smallSettings (0, echo))).call reciter .read none
      = start.call reciter .read none from rfl, hfirst] at hanswered
  · dsimp only [called, start]
    exact hlost _ (congrArg Answer.error? hsecond) rfl fun size max h => by cases h

end Client
end TokenBroker
