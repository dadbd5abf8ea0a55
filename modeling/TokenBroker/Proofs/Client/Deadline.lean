import TokenBroker.Proofs.Client.Direct
import TokenBroker.Proofs.Client.Dialogue
import TokenBroker.Proofs.Frame.Deadline
import TokenBroker.Simulation.Link
import TokenBroker.Simulation.ScriptedPeer
/-!
# How long a call waits for its response

A call that has written its command waits for the two parts of the response, and each part has the
whole timeout.  So it reports a result after two timeouts at the latest, and not always after one.

* A far side `KeepsTime` if only waiting takes time.  That holds of deployments and of scripted
  peers, and a client's reads are punctual there.
* `Client.Awaits` says of a call that it has written its command.
* `Client.timeout_for_each_part` is how long a response and such a call may take.
-/

set_option autoImplicit false

namespace TokenBroker

/-! ## Far sides with a clock -/

/-- Only waiting takes time. -/
structure Remote.KeepsTime {σ : Type} (r : Remote σ) : Prop where
  waitUntil : ∀ wanted time w, r.now (r.waitUntil wanted time w) = max (r.now w) time
  close : ∀ arrival w, r.now (r.close arrival w) = r.now w

theorem Remote.KeepsTime.punctual {σ : Type} {r : Remote σ} (hr : r.KeepsTime) (timeout : Nat) :
    Frame.Punctual (r.reader (some timeout) none) (fun t => r.now t.2) timeout := by
  have hnow : ∀ n (t : Socket × σ), r.now (r.reader (some timeout) none n t).2.2
      = ((r.line n t.1 t.2).read n (some timeout) none).2.now := fun n t =>
    (hr.waitUntil n _ _).trans (Nat.max_eq_right ((r.line n t.1 t.2).now_le_read n _ _))
  refine ⟨fun n t => ((r.line n t.1 t.2).read_timed n timeout).1, fun n t => ?_, fun n t => ?_⟩
  · rw [hnow]
    exact (r.line n t.1 t.2).now_le_read n _ _
  · rw [hnow]
    exact ((r.line n t.1 t.2).read_timed n timeout).2.1

namespace Simulation

theorem ScriptedPeer.keepsTime_remote : ScriptedPeer.remote.KeepsTime :=
  ⟨fun _ time p => Nat.max_comm time p.now, fun _ _ => rfl⟩

namespace Deployment

theorem now_feed (d : Deployment) (concerns : Instance → Bool) (input : Server.Input) :
    (d.feed concerns input).now = d.now := rfl

theorem now_hangUp (d : Deployment) (name : String) (arrival : Arrival) :
    (d.hangUp name arrival).now = d.now := by
  rw [hangUp]
  split <;> rfl

/-- The clock goes to the point that is waited for, whatever runs out of time before. -/
theorem now_advanceTo (d : Deployment) (time : Nat) : (d.advanceTo time).now = max d.now time := by
  rw [advanceTo]
  generalize d.connectionCount + 1 = fuel
  induction fuel generalizing d with
  | zero => rfl
  | succ fuel ih =>
    rw [advanceWithin]
    cases hexpire : d.expireOnce? time with
    | none => rfl
    | some d' =>
      have hnow : ∃ expiry ≤ time, d'.now = max d.now expiry := by
        rw [expireOnce?] at hexpire
        split at hexpire
        · cases hexpire
        · split at hexpire
          · next hin =>
            obtain rfl := Option.some.inj hexpire
            exact ⟨_, hin, now_feed _ _ _⟩
          · cases hexpire
      obtain ⟨expiry, hin, hnow⟩ := hnow
      dsimp only
      rw [ih d', hnow, Nat.max_assoc, Nat.max_eq_right hin]

theorem keepsTime_remote (name : String) (uid : UInt32) : (remote name uid).KeepsTime :=
  ⟨fun _ time d => now_advanceTo d time, fun arrival d => now_hangUp d name arrival⟩

end Deployment
end Simulation

/-! ## Calls -/

namespace Client

open Simulation

section

variable {σ : Type} {r : Remote σ}

theorem settings_refresh (r : Remote σ) (c : Client) (w : σ) :
    (c.refresh r w).1.settings = c.settings := by
  rw [refresh]
  split <;> rfl

theorem settings_reconnect (r : Remote σ) (c : Client) (w : σ) :
    (c.reconnect r w).2.1.settings = c.settings := by
  rw [reconnect]
  dsimp only
  split
  · rfl
  · split <;> rfl

theorem settings_prepare (r : Remote σ) (c : Client) (w : σ) :
    (c.prepare r w).2.1.settings = c.settings := by
  rw [prepare]
  dsimp only
  split
  · exact settings_refresh r c w
  · exact (settings_reconnect r _ _).trans (settings_refresh r c w)

/-- A call has a connection, has given its command a number, and has written it; now it waits for
the response. -/
inductive Awaits (r : Remote σ) (c : Client) (command : Command) (payload : Bytes) (w : σ) :
    Socket → σ → Prop where
  | sent {c' : Client} {socket socket₁ : Socket} {w' w₁ : σ} {id : UInt32}
      {tracker : Sequence.Tracker} {header : CommandHeader} {segments : List Bytes} :
      payload.length ≤ c.settings.maxPayload →
      c.prepare r w = (.ok (), c', w') → c'.socket = some socket →
      c'.tracker.issue = (.ok id, tracker) →
      Frame.ofCommand c.settings.maxPayload id command.code payload = .ok (header, segments) →
      r.write none segments.flatten socket w' = (.finished (), socket₁, w₁) →
      Awaits r c command payload w socket₁ w₁

theorem now_fail (hr : r.KeepsTime) (c : Client) (w : σ) (e : RegistryError) :
    (fail r c w e).1 ≠ .abandoned ∧ r.now (fail r c w e).2.2 = r.now w := by
  refine ⟨nofun, ?_⟩
  show r.now (c.disconnect r w).2 = _
  rw [disconnect]
  cases c.farewell? with
  | none => rfl
  | some arrival => exact hr.close arrival w

/-- A call that waits is over when its response is received, or when that fails. -/
theorem Awaits.execute (hr : r.KeepsTime) {c : Client} {command : Command} {payload : Bytes}
    {w w₁ : σ} {socket₁ : Socket} (h : Awaits r c command payload w socket₁ w₁)
    (hended : (Frame.recvResponse (r.reader c.settings.responseTimeout none) c.settings.maxPayload
      (socket₁, w₁)).1 ≠ .abandoned) :
    let result := c.execute r none command payload w
    result.1 ≠ .abandoned
      ∧ r.now result.2.2 = r.now (Frame.recvResponse (r.reader c.settings.responseTimeout none)
          c.settings.maxPayload (socket₁, w₁)).2.2 := by
  obtain ⟨hfits, hprepare, hsocket, hissue, hframe, hwrite⟩ := h
  have hsettings := settings_prepare r c w
  rw [hprepare] at hsettings
  dsimp only at hsettings
  rw [execute_eq, if_neg (Nat.not_lt.2 hfits), hprepare]
  dsimp only
  rw [hsocket]
  dsimp only
  rw [call, hissue]
  dsimp only
  rw [exchange, hsettings, hframe]
  dsimp only
  rw [hwrite]
  dsimp only
  generalize Frame.recvResponse (r.reader c.settings.responseTimeout none) c.settings.maxPayload
    (socket₁, w₁) = received at hended
  obtain ⟨outcome, socket₂, w₂⟩ := received
  cases outcome with
  | abandoned => exact absurd rfl hended
  | failed e => exact now_fail hr _ w₂ _
  | finished response =>
    obtain ⟨header, body⟩ := response
    dsimp only
    split
    · exact now_fail hr _ w₂ _
    · exact ⟨by simp, rfl⟩
    · exact ⟨by simp, rfl⟩

end

/-- **Header and payload of a response have a timeout each.**  A response is received exactly if its
header is there within the timeout, and its payload is there within the timeout after the header;
the wait is over then.  Otherwise it is over with an error by that time, and if there is no payload
to read, it is over with the header's.  A call that has written its command reports its result then,
so after two timeouts at the latest. -/
theorem timeout_for_each_part (timeout : Nat) :
    (∀ (l : Line) (limit : Nat),
      let header := Frame.recvResponseHeader (Line.reader (some timeout) none) l
      let result := Frame.recvResponse (Line.reader (some timeout) none) limit l
      result.1 ≠ .abandoned
        ∧ header.2.now ≤ l.now + timeout ∧ result.2.now ≤ header.2.now + timeout
        ∧ ((∀ received, header.1 = .finished received → Frame.Bare limit received) →
          result.2 = header.2)
        ∧ (∀ received payload, result.1 = .finished (received, payload) →
          payload.length = received.dataSize.toNat ∧ payload.length ≤ limit
            ∧ l.ahead = received.encode ++ payload ++ result.2.ahead
            ∧ Frame.InTime l timeout payload result.2.now)
        ∧ (l.Lawful → ∀ received payload rest done,
          payload.length = received.dataSize.toNat → payload.length ≤ limit →
          l.ahead = received.encode ++ payload ++ rest → Frame.InTime l timeout payload done →
          result.1 = .finished (received, payload)))
      ∧ ∀ {σ : Type} (r : Remote σ), r.KeepsTime →
        ∀ (c : Client) (command : Command) (payload : Bytes) (w : σ) (socket₁ : Socket) (w₁ : σ),
        c.settings.responseTimeout = some timeout → Awaits r c command payload w socket₁ w₁ →
          let header := Frame.recvResponseHeader (r.reader (some timeout) none) (socket₁, w₁)
          let result := c.execute r none command payload w
          result.1 ≠ .abandoned
            ∧ r.now header.2.2 ≤ r.now w₁ + timeout
            ∧ r.now result.2.2 ≤ r.now header.2.2 + timeout
            ∧ ((∀ received, header.1 = .finished received →
                Frame.Bare c.settings.maxPayload received) →
              r.now result.2.2 = r.now header.2.2) := by
  constructor
  · intro l limit header result
    obtain ⟨hended, -, hheader, -, hresult, hbare⟩ :=
      (Frame.punctual_reader timeout).recvResponse limit l
    refine ⟨hended, hheader, hresult, hbare, fun received payload h => ?_, ?_⟩
    · exact Frame.of_recvResponse (Prod.ext h rfl)
    · intro hlawful received payload rest done hsize hfits hahead hin
      obtain ⟨l', hreceived⟩ := Frame.recvResponse_of_inTime hlawful hsize hfits hahead hin
      exact congrArg Prod.fst hreceived
  · intro σ r hr c command payload w socket₁ w₁ htimeout hawaits header result
    obtain ⟨hended, -, hheader, -, hresult, hbare⟩ :=
      (hr.punctual timeout).recvResponse c.settings.maxPayload (socket₁, w₁)
    rw [← htimeout] at hended hresult hbare
    obtain ⟨hreported, hnow⟩ := hawaits.execute hr hended
    rw [htimeout] at hnow hresult hbare
    refine ⟨hreported, hheader, hnow.trans_le hresult, fun h => ?_⟩
    rw [hnow, hbare h]

/-! ## A response that trickles in -/

/-- A peer that sends the header of a response after 80 milliseconds, and its payload after another
80. -/
def trickling : ScriptedPeer :=
  ScriptedPeer.listen
    { host := .ofTree .empty, endpoint := .name "x", listener := none, now := 0,
      scripts := [[.readCommand, .pause 80, .respond (.relative 0) 0 4 [], .pause 80,
        .send [0x41, 0x42, 0x43, 0x44]]],
      accepted := 0, current := none, left := [], seen := [] }

/-- A client that waits for 100 milliseconds. -/
def hasty : Client := .fresh { endpoint := "#x", responseTimeoutMs := 100 }

deriving instance DecidableEq for Outcome

theorem awaits_trickling : ∃ socket₁ p₁,
    Awaits ScriptedPeer.remote hasty .readAuthToken [] trickling socket₁ p₁ ∧ p₁.now = 0 := by
  let prepared := hasty.prepare ScriptedPeer.remote trickling
  let command := [(CommandHeader.mk 1 Command.readAuthToken.code 0).encode, []].flatten
  let written := ScriptedPeer.remote.write none command {} prepared.2.2
  have hprepare : hasty.prepare ScriptedPeer.remote trickling
      = (.ok (), prepared.2.1, prepared.2.2) := Prod.ext (by decide +kernel) rfl
  have hsocket : prepared.2.1.socket = some {} := by decide +kernel
  have htracker : prepared.2.1.tracker = hasty.tracker := by decide +kernel
  have hissue : prepared.2.1.tracker.issue = (.ok 1, ⟨1, true, none⟩) := by rw [htracker]; rfl
  have hwrite : ScriptedPeer.remote.write none command {} prepared.2.2
      = (.finished (), written.2.1, written.2.2) := Prod.ext (by decide +kernel) rfl
  exact ⟨written.2.1, written.2.2, .sent (Nat.zero_le _) hprepare hsocket hissue rfl hwrite,
    by decide +kernel⟩

/-- The stream that a client has from it. -/
def trickle : Line :=
  ⟨{}, 0, [(80, .bytes (ResponseHeader.mk 1 0 4).encode), (160, .bytes [0x41, 0x42, 0x43, 0x44])]⟩

/-- **A response is received, and a call is answered, long after the timeout is over.** -/
theorem answered_after_timeout :
    (Frame.recvResponse (Line.reader (some 100) none) 65536 trickle).1
        = .finished (⟨1, 0, 4⟩, [0x41, 0x42, 0x43, 0x44])
      ∧ trickle.ready? (Header.size + 4) = some 160 ∧ trickle.now + 100 < 160
      ∧ hasty.settings.responseTimeoutMs = 100
      ∧ (∃ socket₁ p₁,
        Awaits ScriptedPeer.remote hasty .readAuthToken [] trickling socket₁ p₁ ∧ p₁.now = 0)
      ∧ (hasty.read ScriptedPeer.remote none trickling).1 = .ok [0x41, 0x42, 0x43, 0x44]
      ∧ (hasty.read ScriptedPeer.remote none trickling).2.2.now = 160 :=
  ⟨rfl, rfl, by decide, rfl, awaits_trickling, by decide +kernel, by decide +kernel⟩

/-- Both parts of that response are in time, and the call is over after two timeouts. -/
theorem timeout_for_each_part_of_trickle :
    trickle.Lawful ∧ Frame.InTime trickle 100 [0x41, 0x42, 0x43, 0x44] 160
      ∧ (Frame.recvResponse (Line.reader (some 100) none) 65536 trickle).1
        = .finished (⟨1, 0, 4⟩, [0x41, 0x42, 0x43, 0x44])
      ∧ ScriptedPeer.remote.KeepsTime ∧ hasty.settings.responseTimeout = some 100
      ∧ ∃ socket₁ p₁,
        Awaits ScriptedPeer.remote hasty .readAuthToken [] trickling socket₁ p₁ ∧ p₁.now = 0
          ∧ (hasty.execute ScriptedPeer.remote none .readAuthToken [] trickling).1 ≠ .abandoned
          ∧ (hasty.execute ScriptedPeer.remote none .readAuthToken [] trickling).2.2.now ≤ 200 := by
  obtain ⟨hresponse, hcall⟩ := timeout_for_each_part 100
  have hlawful : trickle.Lawful := ⟨.bytes (.bytes (.nil false)), rfl⟩
  have hin : Frame.InTime trickle 100 [0x41, 0x42, 0x43, 0x44] 160 :=
    ⟨80, rfl, by decide, rfl, by decide⟩
  obtain ⟨-, -, -, -, -, hreceived⟩ := hresponse trickle 65536
  obtain ⟨socket₁, p₁, hawaits, hnow⟩ := awaits_trickling
  obtain ⟨hended, hheader, hresult, -⟩ := hcall ScriptedPeer.remote ScriptedPeer.keepsTime_remote
    hasty .readAuthToken [] trickling socket₁ p₁ rfl hawaits
  have hfirst : ScriptedPeer.remote.now p₁ + 100 = 100 := congrArg (· + 100) hnow
  refine ⟨hlawful, hin, hreceived hlawful ⟨1, 0, 4⟩ _ [] 160 rfl (by decide) rfl hin,
    ScriptedPeer.keepsTime_remote, rfl, socket₁, p₁, hawaits, hnow, hended, hresult.trans ?_⟩
  rw [hfirst] at hheader
  exact Nat.add_le_add_right hheader 100

end Client
end TokenBroker
