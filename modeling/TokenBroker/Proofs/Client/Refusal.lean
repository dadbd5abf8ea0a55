import TokenBroker.Proofs.Client.Call
import TokenBroker.Proofs.Simulation.Parting
/-!
# Calls with a payload that the daemon refuses

A client that takes larger payloads than the daemon sends them, and is refused.  The daemon closes
the connection then, but the client keeps it, and only the next call that it makes finds it dead.

* `Spent` is a client between two calls that keeps such a connection, and `Leaves` what a call
  leaves as it was.
* `execute_refused` is a call with a payload that is too large for the daemon, `execute_cut` one
  that cannot be written to its end, and `execute_spent` any call on a connection that is dead.
* `execute_served` is a call that both sides take.
-/

set_option autoImplicit false

namespace TokenBroker
namespace Client

open Simulation Simulation.Deployment Handler

variable {c c' : Client} {d d₁ d' : Deployment} {i i₁ i' : Instance} {name : String}
  {uid : UInt32} {key : IdentityKey} {socket socket' kept : Socket} {command : Command}
  {payload : Bytes} {t' : Tree} {last : UInt32} {endpoint : Endpoint}

/-! ## Between two calls -/

/-- How many connections of a client the daemon serves. -/
def live (c : Client) : Nat := if c.socket.any fun socket => !socket.gone then 1 else 0

theorem live_le_one (c : Client) : c.live ≤ 1 := by
  rw [live]
  split
  · exact Nat.le_refl 1
  · exact Nat.zero_le 1

theorem live_of_none (hsocket : c.socket = none) : c.live = 0 := by
  rw [live, hsocket]
  rfl

theorem live_of_some (hsocket : c.socket = some socket) :
    c.live = if socket.gone then 0 else 1 := by
  rw [live, hsocket, Option.any_some]
  cases socket.gone <;> rfl

/-- A client between two calls, with a connection that the daemon has closed. -/
structure Spent (c : Client) (d : Deployment) (i : Instance) (name : String) : Prop where
  tracker : ∃ last, c.tracker = ⟨last, false, none⟩
  connection : ∃ socket, c.socket = some socket ∧ socket.gone = true
  dismissed : d.Dismissed i name {}

/-- What another client does leaves the connection dead. -/
theorem Spent.keep {other : String} (hspent : c.Spent d i name) (hkeeps : Keeps other d i d' i')
    (hne : name ≠ other) (hd' : d'.Orderly i') : c.Spent d' i' name := by
  obtain ⟨-, k, hparted⟩ := hspent.dismissed
  exact ⟨hspent.tracker, hspent.connection, hd', k, hkeeps.parted name k _ hne hparted⟩

/-- Time that passes leaves it dead. -/
theorem Spent.later (hspent : c.Spent d i name) (time : Nat) :
    c.Spent { d with now := time } i name := by
  obtain ⟨hd, k, hparted⟩ := hspent.dismissed
  exact ⟨hspent.tracker, hspent.connection, hd.later time, k, hparted.toKnown.later time,
    hparted.unserved⟩

theorem Spent.live (hspent : c.Spent d i name) : c.live = 0 := by
  obtain ⟨socket, hsocket, hgone⟩ := hspent.connection
  rw [live_of_some hsocket, hgone]
  rfl

/-- A client at rest is served, or will be when it connects. -/
theorem Rested.live_add (hrested : c.Rested d i name key) :
    c.live + (if c.socket.isSome then 0 else 1) = 1 := by
  rcases hrested.connection with ⟨hnone, -⟩ | ⟨socket, hsocket, hquiet, -⟩
  · rw [live_of_none hnone, hnone]
    rfl
  · rw [live_of_some hsocket, hquiet.gone, hsocket]
    rfl

/-- What a call leaves as it was. -/
structure Leaves (name : String) (c : Client) (d : Deployment) (i : Instance) (c' : Client)
    (d' : Deployment) (i' : Instance) : Prop extends Keeps name d i d' i' where
  settings : c'.settings = c.settings
  orderly : d'.Orderly i'
  /-- The daemon serves the connections that clients know to be open. -/
  balance : i'.running.server.active.length + c.live = i.running.server.active.length + c'.live

/-! ## On a connection -/

/-- A client gives up a connection that the daemon has closed. -/
theorem fail_dismissed (hsocket : c.socket = some socket) (hdismissed : d.Dismissed i name kept)
    (key : IdentityKey) (uid : UInt32) (e : RegistryError) :
    ∃ c' d', c.fail (remote name uid) d e = (.failed e, c', d') ∧ c'.settings = c.settings
      ∧ c'.socket = none ∧ c'.Rested d' i name key ∧ d'.Orderly i
      ∧ Step name d i d' i d.host.tree := by
  obtain ⟨hd', hunknown, hstep⟩ := hdismissed.hangUp socket.farewell
  refine ⟨{ c with socket := none, tracker := .fresh c.settings.initialCommandId },
    d.hangUp name socket.farewell, ?_, rfl, rfl, ⟨⟨_, rfl⟩, .inl ⟨rfl, hunknown⟩⟩, hd', hstep⟩
  have hfarewell : c.farewell? = some socket.farewell := by
    rw [farewell?, hsocket]
    rfl
  rw [fail, disconnect, hfarewell]
  rfl

/-- A call on a connection that turns out to be dead. -/
theorem call_cut (hfits : payload.length ≤ c.settings.maxPayload)
    (htracker : c.tracker = ⟨last, false, none⟩)
    (hwrite : (remote name uid).write none (⟨last + 1, command, payload⟩ : Request).frame socket d
      = (.failed (.io (.os .brokenPipe)), socket', d₁))
    (hdismissed : d₁.Dismissed i₁ name kept) (key : IdentityKey) :
    ∃ c' d', c.call (remote name uid) none socket command payload d
        = (.failed (.transport (.io (.os .brokenPipe))), c', d')
      ∧ c'.settings = c.settings ∧ c'.socket = none ∧ c'.Rested d' i₁ name key ∧ d'.Orderly i₁
      ∧ Step name d₁ i₁ d' i₁ d₁.host.tree := by
  let q : Request := ⟨last + 1, command, payload⟩
  obtain ⟨segments, hframe, hflatten⟩ := q.ofCommand_eq hfits
  have hexchange : exchange (remote name uid) none c.settings socket (last + 1) command payload d
      = (.failed (.connection (.io (.os .brokenPipe))), socket', d₁) := by
    rw [exchange, hframe]
    dsimp only
    rw [hflatten, hwrite]
  obtain ⟨c', d', hfail, hrest⟩ := fail_dismissed
    (c := { c with tracker := ⟨last + 1, true, none⟩, socket := some socket' }) rfl hdismissed key
    uid (.transport (.io (.os .brokenPipe)))
  refine ⟨c', d', ?_, hrest⟩
  rw [call, htracker, Sequence.Tracker.issue_rested]
  dsimp only
  rw [hexchange]
  exact hfail

/-- A call with a payload that is too large for the daemon. -/
theorem call_refused (hlarge : i.running.service.limit < payload.length)
    (hfits : payload.length ≤ c.settings.maxPayload) (hdeclared : payload.length < UInt32.size)
    (hroom : Buffer.Takes (Header.size + payload.length))
    (htracker : c.tracker = ⟨last, false, none⟩) (hanswered : d.Answered i name key [])
    (hquiet : socket.Quiet) (command : Command) (uid : UInt32) :
    ∃ c' d' i', c.call (remote name uid) none socket command payload d
        = (.failed (.rejected .payloadTooLarge), c', d')
      ∧ c'.settings = c.settings ∧ c'.Spent d' i' name ∧ Loss name d i d' i' := by
  let q : Request := ⟨last + 1, command, payload⟩
  obtain ⟨segments, hframe, hflatten⟩ := q.ofCommand_eq hfits
  obtain ⟨reset, d₁, i₁, hwrite, hdismissed, hloss⟩ := hanswered.write_whole (q := q) hlarge
    hdeclared hquiet.gone (by rw [q.length_frame]; exact hroom) uid
  obtain ⟨socket', d', hrecv, hgone, hdismissed', hstep⟩ :=
    hdismissed.recvResponse hquiet c.settings.maxPayload uid c.settings.responseTimeout
  have hexchange : exchange (remote name uid) none c.settings socket (last + 1) command payload d
      = (.finished (⟨last + 1, ResultCode.payloadTooLarge.code, 0⟩, []), socket', d') := by
    rw [exchange, hframe]
    dsimp only
    rw [hflatten, hwrite]
    exact hrecv
  have hempty : (Reply.status .payloadTooLarge).payload.length ≤ c.settings.maxPayload :=
    Nat.zero_le _
  have hjudge := judge_answered
    (c := { c with tracker := ⟨last + 1, true, none⟩, socket := some socket' }) rfl hempty
    (by decide)
  refine ⟨{ c with tracker := ⟨last + 1, false, none⟩, socket := some socket' }, d', i₁, ?_, rfl,
    ⟨⟨last + 1, rfl⟩, ⟨socket', rfl, hgone⟩, hdismissed'⟩, hloss.step hstep⟩
  rw [call, htracker, Sequence.Tracker.issue_rested]
  dsimp only
  rw [hexchange]
  dsimp only
  exact hjudge ▸ rfl

/-! ## Any call -/

section

variable (hfits : payload.length ≤ c.settings.maxPayload) (hd : d.Orderly i)
  (hrested : c.Rested d i name (.resolve i.running.service.scope uid))
  (hendpoint : Endpoint.parse c.settings.endpoint = .ok endpoint)
  (hreach : d.host.connect? endpoint = .ok i.running.listener)
  (hpermit : c.live = 0 → i.running.server.active.length < i.running.server.permits)
  (hlarge : i.running.service.limit < payload.length) (hdeclared : payload.length < UInt32.size)

include hfits hd hrested hendpoint hreach hpermit hlarge hdeclared

/-- **A payload that is too large for the daemon is refused**, and the connection is dead then. -/
theorem execute_refused (hroom : Buffer.Takes (Header.size + payload.length)) (command : Command) :
    ∃ c' d' i', c.execute (remote name uid) none command payload d
        = (.failed (.rejected .payloadTooLarge), c', d')
      ∧ c'.Spent d' i' name ∧ Leaves name c d i c' d' i' ∧ d'.host.tree = d.host.tree := by
  obtain ⟨c₁, socket, d₁, i₁, hexecute, hsettings, -, ⟨last, htracker⟩, hquiet, hanswered, hkeeps,
    htree, hlength⟩ := execute_open hfits hd hrested hendpoint hreach
      (fun hnone => hpermit (live_of_none hnone)) command
  obtain ⟨c', d', i', hcall, hsettings', hspent, hloss⟩ := call_refused (hkeeps.service ▸ hlarge)
    (hsettings ▸ hfits) hdeclared hroom htracker hanswered hquiet command uid
  refine ⟨c', d', i', hexecute.trans hcall, hspent, ?_, hloss.tree.trans htree⟩
  have hlive := hrested.live_add
  have hless := hloss.length
  exact {
    toKeeps := hkeeps.trans hloss.toKeeps
    settings := hsettings'.trans hsettings
    orderly := hspent.dismissed.1
    balance := by
      rw [hspent.live]
      omega }

/-- **A payload that there is no room for is cut off**, and the client has no connection then. -/
theorem execute_cut (hroom : ¬ Buffer.Takes (Header.size + payload.length)) (command : Command) :
    ∃ c' d' i', c.execute (remote name uid) none command payload d
        = (.failed (.transport (.io (.os .brokenPipe))), c', d')
      ∧ c'.Rested d' i' name (.resolve i.running.service.scope uid)
      ∧ Leaves name c d i c' d' i' ∧ d'.host.tree = d.host.tree := by
  obtain ⟨c₁, socket, d₁, i₁, hexecute, hsettings, -, ⟨last, htracker⟩, hquiet, hanswered, hkeeps,
    htree, hlength⟩ := execute_open hfits hd hrested hendpoint hreach
      (fun hnone => hpermit (live_of_none hnone)) command
  let q : Request := ⟨last + 1, command, payload⟩
  obtain ⟨socket', d₂, i', hwrite, hdismissed, hloss⟩ := hanswered.write_cut (q := q)
    (hkeeps.service ▸ hlarge) hdeclared hquiet.gone (by rw [q.length_frame]; exact hroom) uid
  obtain ⟨c', d', hcall, hsettings', hnone, hrested', hd', hstep⟩ :=
    call_cut (hsettings ▸ hfits) htracker hwrite hdismissed (.resolve i.running.service.scope uid)
  have hloss' := hloss.step hstep
  refine ⟨c', d', i', hexecute.trans hcall, hrested', ?_, hloss'.tree.trans htree⟩
  have hlive := hrested.live_add
  have hless := hloss'.length
  exact {
    toKeeps := hkeeps.trans hloss'.toKeeps
    settings := hsettings'.trans hsettings
    orderly := hd'
    balance := by
      rw [live_of_none hnone]
      omega }

end

/-- **A call on a dead connection fails**, and the client has no connection then. -/
theorem execute_spent (hspent : c.Spent d i name) (hfits : payload.length ≤ c.settings.maxPayload)
    (key : IdentityKey) (command : Command) (uid : UInt32) :
    ∃ c' d', c.execute (remote name uid) none command payload d
        = (.failed (.transport (.io (.os .brokenPipe))), c', d')
      ∧ c'.Rested d' i name key ∧ Leaves name c d i c' d' i ∧ d'.host.tree = d.host.tree := by
  obtain ⟨last, htracker⟩ := hspent.tracker
  obtain ⟨socket, hsocket, hgone⟩ := hspent.connection
  let q : Request := ⟨last + 1, command, payload⟩
  have hwrite : (remote name uid).write none q.frame socket d
      = (.failed (.io (.os .brokenPipe)), socket, d) := by
    rw [Remote.write, if_neg q.not_isEmpty_frame, if_pos hgone]
  obtain ⟨c', d', hcall, hsettings, hnone, hrested, hd', hstep⟩ :=
    call_cut hfits htracker hwrite hspent.dismissed key
  refine ⟨c', d', ?_, hrested, ?_, hstep.tree⟩
  · rw [execute, if_neg (Nat.not_lt.2 hfits), refresh_rested _ htracker]
    dsimp only
    rw [hsocket]
    exact hcall
  · exact {
      toKeeps := hstep.toKeeps
      settings := hsettings
      orderly := hd'
      balance := by rw [hstep.length, hspent.live, live_of_none hnone] }

/-- A call that is answered leaves the client at rest, on a connection that the daemon serves. -/
theorem execute_served {reply : Reply} (hagreed : c.Agreed i command payload reply)
    (hd : d.Orderly i) (hrested : c.Rested d i name (.resolve i.running.service.scope uid))
    (hendpoint : Endpoint.parse c.settings.endpoint = .ok endpoint)
    (hreach : d.host.connect? endpoint = .ok i.running.listener)
    (hpermit : c.live = 0 → i.running.server.active.length < i.running.server.permits)
    (hreply : i.running.service.dispatch d.now (.resolve i.running.service.scope uid) command
      payload d.host.tree = (reply, t')) :
    ∃ c' d' i', c.execute (remote name uid) none command payload d = (ending reply, c', d')
      ∧ c'.Rested d' i' name (.resolve i.running.service.scope uid)
      ∧ Leaves name c d i c' d' i' ∧ d'.host.tree = t' := by
  obtain ⟨c', d', i', hexecute, hsettings, hsome, hrested', hd', hkeeps, htree, hlength⟩ :=
    execute_rested hagreed hd hrested hendpoint hreach
      (fun hnone => hpermit (live_of_none hnone)) hreply
  refine ⟨c', d', i', hexecute, hrested', ?_, htree⟩
  have hlive := hrested.live_add
  have hlive' := hrested'.live_add
  rw [if_pos hsome] at hlive'
  exact {
    toKeeps := hkeeps
    settings := hsettings
    orderly := hd'
    balance := by omega }

end Client
end TokenBroker
