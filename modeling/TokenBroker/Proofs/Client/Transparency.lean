import Mathlib.Algebra.Group.Nat.Defs
import Mathlib.Data.Fintype.Card
import TokenBroker.Proofs.Client.Direct
import TokenBroker.Proofs.Endpoint.Host
import TokenBroker.Proofs.Registry.Limits
import TokenBroker.Proofs.Registry.Opening
/-!
# A registry at a distance

Clients that call a daemon, one call at a time, are told what they would be told if they had the
registry at hand.

* `Hosted` is a daemon that clients find, and `Net` such a daemon with its clients between two
  calls, beside the file tree of the registry at first hand.
* `Net.step` is one call and `Net.run` any number of them: the answers are the same, and so are the
  trees but for the times of storing.
* `transparent` is the result for a daemon that was started.
-/

set_option autoImplicit false

namespace TokenBroker
namespace Client

open Simulation Simulation.Deployment

/-! ## Clients that take turns -/

/-- A client of a daemon: what it is called, whose it is, and how it is set up. -/
structure Party where
  name : String
  uid : UInt32
  settings : ClientSettings

/-- A call of one of the clients, after some time. -/
structure Turn (n : Nat) where
  caller : Fin n
  pause : Nat
  call : Call
  /-- The time that a record notes at first hand. -/
  stamp : UInt64

/-- The clients take turns. -/
def takeTurns {n : Nat} (parties : Fin n → Party) (clients : Fin n → Client) (d : Deployment) :
    List (Turn n) → List Answer × (Fin n → Client) × Deployment
  | [] => ([], clients, d)
  | turn :: rest =>
    let party := parties turn.caller
    let (answer, c, d) :=
      turn.call.make (remote party.name party.uid) (clients turn.caller) (d.sleep turn.pause)
    let (answers, result) := takeTurns parties (Function.update clients turn.caller c) d rest
    (answer :: answers, result)

/-- The same turns at first hand. -/
def takeTurnsDirect {n : Nat} (r : Registry) (key : Fin n → IdentityKey) (t : Tree) :
    List (Turn n) → List Answer × Tree
  | [] => ([], t)
  | turn :: rest =>
    let (answer, t) := turn.call.direct r (key turn.caller) turn.stamp t
    let (answers, t) := takeTurnsDirect r key t rest
    (answer :: answers, t)

section
variable {r : Registry} {t : Tree} {call : Call} {n : Nat} {parties : Fin n → Party}
  {clients : Fin n → Client} {d : Deployment} {i : Instance} {scope : IdentityScope}
  {endpoint : Endpoint} {a : Fin n}

/-- Clients of a daemon at an endpoint, of the same limit as the daemon. -/
structure Company (parties : Fin n → Party) (endpoint : Endpoint) (limit : Nat) : Prop where
  names : Function.Injective fun a => (parties a).name
  meets : ∀ a, Endpoint.parse (parties a).settings.endpoint = .ok endpoint
  maxPayload : ∀ a, (parties a).settings.maxPayload = limit

/-- The clients that have a connection. -/
def connected (clients : Fin n → Client) : Finset (Fin n) :=
  Finset.univ.filter fun a => (clients a).socket.isSome = true

theorem mem_connected : a ∈ connected clients ↔ (clients a).socket.isSome = true := by
  rw [connected, Finset.mem_filter]
  exact and_iff_right (Finset.mem_univ a)

/-- A client that has none may still connect. -/
theorem card_connected_lt (hnone : (clients a).socket = none) : (connected clients).card < n := by
  have hlt := Finset.card_lt_univ_of_notMem (s := connected clients) (x := a)
    (by rw [mem_connected, hnone]; exact Bool.false_ne_true)
  rwa [Fintype.card_fin] at hlt

theorem card_connected_update {c : Client} (hsocket : c.socket.isSome = true) :
    (connected (Function.update clients a c)).card
      = (connected clients).card + if (clients a).socket.isSome then 0 else 1 := by
  have hinsert : connected (Function.update clients a c) = insert a (connected clients) := by
    ext b
    rw [Finset.mem_insert, mem_connected, mem_connected]
    by_cases hb : b = a
    · rw [hb, Function.update_self]
      exact ⟨fun _ => .inl rfl, fun _ => hsocket⟩
    · rw [Function.update_of_ne hb]
      exact ⟨.inr, fun h => h.resolve_left hb⟩
  rw [hinsert]
  split
  · next hthere => rw [Finset.insert_eq_of_mem (mem_connected.2 hthere), Nat.add_zero]
  · next hnot => rw [Finset.card_insert_of_notMem (fun hmem => hnot (mem_connected.1 hmem))]

/-! ## A daemon that clients find -/

/-- A daemon that serves a registry to whoever connects to its endpoint, between two calls. -/
structure Hosted (r : Registry) (scope : IdentityScope) (endpoint : Endpoint) (d : Deployment)
    (i : Instance) : Prop where
  orderly : d.Orderly i
  service : i.running.service = r.service r.maxObjectSize none scope
  /-- Clients find the daemon, and no call takes away the file that leads to it. -/
  reached : ∃ file, d.host.Reaches endpoint i.running.listener file
    ∧ ∀ key, file ≠ some (r.entryPlace key)
  ready : r.Ready d.host.tree

theorem Hosted.later (hhosted : Hosted r scope endpoint d i) (time : Nat) :
    Hosted r scope endpoint { d with now := time } i :=
  ⟨hhosted.orderly.later time, hhosted.service, hhosted.reached, hhosted.ready⟩

theorem Hosted.connect? (hhosted : Hosted r scope endpoint d i) :
    d.host.connect? endpoint = .ok i.running.listener := by
  obtain ⟨file, hreaches, -⟩ := hhosted.reached
  exact hreaches.connect? hhosted.ready.wellFormed

theorem Hosted.limit_eq (hhosted : Hosted r scope endpoint d i) :
    i.running.service.limit = r.maxObjectSize := by
  rw [hhosted.service]
  rfl

theorem Hosted.scope_eq (hhosted : Hosted r scope endpoint d i) :
    i.running.service.scope = scope := by
  rw [hhosted.service]
  rfl

/-- A daemon is found as before when a command was dispatched. -/
theorem Hosted.dispatched {d' : Deployment} {i' : Instance} {name : String}
    (hhosted : Hosted r scope endpoint d i) (hkeeps : Keeps name d i d' i')
    (horderly : d'.Orderly i') {now : Nat} {key : IdentityKey} {command : Command}
    {payload : Bytes} (htree : d'.host.tree = (r.dispatch now key command payload d.host.tree).2) :
    Hosted r scope endpoint d' i' where
  orderly := horderly
  service := hkeeps.service.trans hhosted.service
  reached := by
    obtain ⟨file, hreaches, hfile⟩ := hhosted.reached
    refine ⟨file, ?_, hfile⟩
    rw [hkeeps.listener]
    refine hreaches.of_stays hkeeps.names hkeeps.listeners (fun q hq => ?_) ?_
      fun p e hp hfind => ?_
    · rw [htree]
      exact Registry.dispatch_isDirectory hhosted.ready now command payload hq
    · rw [htree]
      exact (Registry.dispatch_ready hhosted.ready now key command payload).wellFormed
    · rw [htree]
      have hne : p ≠ r.entryPlace key := fun heq => hfile key (hp.trans (congrArg some heq))
      exact Registry.dispatch_keeps hhosted.ready hfind (.inl hne) now command payload
  ready := by
    rw [htree]
    exact Registry.dispatch_ready hhosted.ready now key command payload

/-! ## One call -/

/-- A daemon and its clients between two calls, beside the tree of the registry at first hand. -/
structure Net (r : Registry) (scope : IdentityScope) (endpoint : Endpoint) (parties : Fin n → Party)
    (clients : Fin n → Client) (d : Deployment) (i : Instance) (t : Tree) : Prop
    extends Hosted r scope endpoint d i where
  company : Company parties endpoint r.maxObjectSize
  small : r.maxObjectSize < 2 ^ 31 - 64
  settings : ∀ a, (clients a).settings = (parties a).settings
  rested : ∀ a, (clients a).Rested d i (parties a).name (.resolve scope (parties a).uid)
  permits : n ≤ i.running.server.permits
  count : i.running.server.active.length = (connected clients).card
  within : r.Within d.host.tree r.maxObjectSize
  readyDirect : r.Ready t
  same : Tree.SameBelow [] d.host.tree t

/-- Time that passes changes nothing. -/
theorem Net.later (hnet : Net r scope endpoint parties clients d i t) (time : Nat) :
    Net r scope endpoint parties clients { d with now := time } i t where
  toHosted := hnet.toHosted.later time
  company := hnet.company
  small := hnet.small
  settings := hnet.settings
  rested := fun a => (hnet.rested a).later time
  permits := hnet.permits
  count := hnet.count
  within := hnet.within
  readyDirect := hnet.readyDirect
  same := hnet.same

theorem Net.limit (hnet : Net r scope endpoint parties clients d i t) (a : Fin n) :
    (clients a).settings.maxPayload = r.maxObjectSize := by
  rw [hnet.settings, hnet.company.maxPayload]

/-- A payload above the limit goes nowhere, and is refused in the same words. -/
theorem Net.step_tooLarge (hnet : Net r scope endpoint parties clients d i t) (a : Fin n)
    {blob : Bytes} (hlarge : r.maxObjectSize < blob.length) (stamp : UInt64) :
    (Call.store blob).make (remote (parties a).name (parties a).uid) (clients a) d
        = (((Call.store blob).direct r (.resolve scope (parties a).uid) stamp t).1, clients a, d)
      ∧ ((Call.store blob).direct r (.resolve scope (parties a).uid) stamp t).2 = t := by
  have hexecute : (clients a).execute (remote (parties a).name (parties a).uid) none .writeAuthToken
      blob d = (.failed (.tooLarge blob.length r.maxObjectSize), clients a, d) := by
    rw [execute, hnet.limit a, if_pos hlarge]
  have hdirect : (Call.store blob).direct r (.resolve scope (parties a).uid) stamp t
      = (.outcome (.failed (.tooLarge blob.length r.maxObjectSize)), t) := by
    rw [Call.direct, store_tooLarge hlarge]
    rfl
  rw [hdirect, Call.make_eq]
  refine ⟨?_, rfl⟩
  rw [Call.command, Call.payload, hexecute]
  rfl

/-- What the daemon is asked is within the limits of both sides, and so is its reply. -/
theorem Net.agreed (hnet : Net r scope endpoint parties clients d i t) (a : Fin n)
    (hfits : call.payload.length ≤ r.maxObjectSize) (key : IdentityKey) :
    (clients a).Agreed i call.command call.payload
      (r.dispatch d.now key call.command call.payload d.host.tree).1 := by
  have hcarries : ∀ {payload : Bytes}, payload.length ≤ r.maxObjectSize →
      (clients a).Carries i payload := fun hle =>
    ⟨hnet.limit a ▸ hle, by rw [hnet.service]; exact hle,
      Nat.lt_of_le_of_lt hle (Nat.lt_of_lt_of_le hnet.small (by decide))⟩
  exact ⟨hcarries hfits, call.payload_bare,
    hcarries (hnet.within.reply d.now key call.command call.payload)⟩

/-- What a call within the limit leaves, and what it leaves at first hand. -/
theorem Net.next {d' : Deployment} {i' : Instance} {c' : Client}
    (hnet : Net r scope endpoint parties clients d i t) (a : Fin n)
    (hfits : call.payload.length ≤ r.maxObjectSize) (stamp : UInt64)
    (hsettings : c'.settings = (clients a).settings) (hsocket : c'.socket.isSome = true)
    (hrested : c'.Rested d' i' (parties a).name (.resolve scope (parties a).uid))
    (horderly : d'.Orderly i') (hkeeps : Keeps (parties a).name d i d' i')
    (htree : d'.host.tree
      = (r.dispatch d.now (.resolve scope (parties a).uid) call.command call.payload d.host.tree).2)
    (hlength : i'.running.server.active.length
      = i.running.server.active.length + if (clients a).socket.isSome then 0 else 1) :
    Net r scope endpoint parties (Function.update clients a c') d' i'
      (call.direct r (.resolve scope (parties a).uid) stamp t).2 where
  toHosted := hnet.toHosted.dispatched hkeeps horderly htree
  company := hnet.company
  small := hnet.small
  settings := fun b => by
    by_cases hb : b = a
    · rw [hb, Function.update_self, hsettings, hnet.settings]
    · rw [Function.update_of_ne hb, hnet.settings]
  rested := fun b => by
    by_cases hb : b = a
    · rw [hb, Function.update_self]
      exact hrested
    · rw [Function.update_of_ne hb]
      exact (hnet.rested b).keep hkeeps (fun heq => hb (hnet.company.names heq)) horderly
  permits := hkeeps.permits ▸ hnet.permits
  count := by rw [hlength, hnet.count, card_connected_update hsocket]
  within := by
    rw [htree]
    exact hnet.within.dispatch hnet.ready id d.now _ call.command
  readyDirect := Call.ready_direct hnet.readyDirect call _ stamp
  same := by
    rw [htree, (Call.wrap_dispatch hfits _ d.now d.host.tree).2]
    exact (Call.direct_congr hnet.ready hnet.readyDirect hnet.same call _ _ stamp).2

/-- **A call within the limit is answered as at first hand, and leaves everything ready for the
next.** -/
theorem Net.step_fits (hnet : Net r scope endpoint parties clients d i t) (a : Fin n)
    (hfits : call.payload.length ≤ r.maxObjectSize) (stamp : UInt64) :
    ∃ c' d' i', call.make (remote (parties a).name (parties a).uid) (clients a) d
        = ((call.direct r (.resolve scope (parties a).uid) stamp t).1, c', d')
      ∧ Net r scope endpoint parties (Function.update clients a c') d' i'
        (call.direct r (.resolve scope (parties a).uid) stamp t).2 := by
  let key : IdentityKey := .resolve scope (parties a).uid
  have hscope := hnet.toHosted.scope_eq
  have hreply : i.running.service.dispatch d.now (.resolve i.running.service.scope (parties a).uid)
      call.command call.payload d.host.tree
      = r.dispatch d.now key call.command call.payload d.host.tree := by
    rw [hscope, hnet.service]
    rfl
  have hpermit : (clients a).socket = none →
      i.running.server.active.length < i.running.server.permits := fun hnone => by
    rw [hnet.count]
    exact Nat.lt_of_lt_of_le (card_connected_lt hnone) hnet.permits
  have hmeets : Endpoint.parse (clients a).settings.endpoint = .ok endpoint := by
    rw [hnet.settings]
    exact hnet.company.meets a
  obtain ⟨c', d', i', hexecute, hsettings, hsocket, hrested, horderly, hkeeps, htree, hlength⟩ :=
    execute_rested (hnet.agreed a hfits key) hnet.orderly (by rw [hscope]; exact hnet.rested a)
      hmeets hnet.toHosted.connect? hpermit hreply
  rw [hscope] at hrested
  refine ⟨c', d', i', ?_,
    hnet.next a hfits stamp hsettings hsocket hrested horderly hkeeps htree hlength⟩
  have hwrap := (Call.wrap_dispatch hfits key d.now d.host.tree).1
  have hsame := (Call.direct_congr hnet.ready hnet.readyDirect hnet.same call key
    (UInt64.ofNat d.now) stamp).1
  rw [Call.make_eq, hexecute]
  exact congrArg (fun answer => (answer, c', d')) (hwrap.trans hsame)

/-- **A call is answered as at first hand, and leaves everything ready for the next.** -/
theorem Net.step (hnet : Net r scope endpoint parties clients d i t) (a : Fin n) (call : Call)
    (stamp : UInt64) :
    ∃ c' d' i', call.make (remote (parties a).name (parties a).uid) (clients a) d
        = ((call.direct r (.resolve scope (parties a).uid) stamp t).1, c', d')
      ∧ Net r scope endpoint parties (Function.update clients a c') d' i'
        (call.direct r (.resolve scope (parties a).uid) stamp t).2 := by
  by_cases hfits : call.payload.length ≤ r.maxObjectSize
  · exact hnet.step_fits a hfits stamp
  · cases call with
    | store blob =>
      have hlarge : r.maxObjectSize < blob.length := Nat.not_le.1 hfits
      obtain ⟨hmake, htree⟩ := hnet.step_tooLarge a hlarge stamp
      refine ⟨clients a, d, i, hmake, ?_⟩
      rw [Function.update_eq_self, htree]
      exact hnet
    | read => exact absurd (Nat.zero_le _) hfits
    | delete => exact absurd (Nat.zero_le _) hfits

/-- **Any number of calls is answered as at first hand.** -/
theorem Net.run (hnet : Net r scope endpoint parties clients d i t) (turns : List (Turn n)) :
    ∃ clients' d' i',
      takeTurns parties clients d turns
        = ((takeTurnsDirect r (fun a => .resolve scope (parties a).uid) t turns).1, clients', d')
      ∧ Net r scope endpoint parties clients' d' i'
        (takeTurnsDirect r (fun a => .resolve scope (parties a).uid) t turns).2 := by
  induction turns generalizing clients d i t with
  | nil => exact ⟨clients, d, i, rfl, hnet⟩
  | cons turn rest ih =>
    have hlater := hnet.later (d.now + turn.pause)
    obtain ⟨c₁, d₁, i₁, hmake, hnet₁⟩ := hlater.step turn.caller turn.call turn.stamp
    obtain ⟨clients', d', i', hrest, hnet'⟩ := ih hnet₁
    refine ⟨clients', d', i', ?_, hnet'⟩
    rw [takeTurns, hnet.orderly.sleep]
    dsimp only
    rw [hmake]
    dsimp only
    rw [hrest]
    rfl

/-- At first hand all answers are plain. -/
theorem plain_takeTurnsDirect (r : Registry) (key : Fin n → IdentityKey) (t : Tree)
    (turns : List (Turn n)) : ∀ answer ∈ (takeTurnsDirect r key t turns).1, answer.Plain := by
  induction turns generalizing t with
  | nil => exact fun _ hanswer => by cases hanswer
  | cons turn rest ih =>
    intro answer hanswer
    rcases List.mem_cons.1 hanswer with rfl | hrest
    · exact turn.call.plain_direct r (key turn.caller) turn.stamp t
    · exact ih _ answer hrest

/-! ## From the start -/

/-- The socket file of an endpoint stays clear of what belongs to the registry: it is not in the
place of an entry, and nothing about it looks like a store that was interrupted. -/
def Apart (r : Registry) (t : Tree) : Endpoint → Prop
  | .name _ => True
  | .path text => (∀ key, t.locate text ≠ .ok (r.entryPlace key))
    ∧ ∀ name file, Registry.isTemporaryName file = true →
      t.find? (r.place ++ [name] ++ [file]) = none

/-- Binding leaves the tree ready for the registry. -/
theorem ready_of_bind {h h' : Host} {listener : Nat} (hready : r.Ready h.tree)
    (hbind : h.bind endpoint = (.ok listener, h')) (hapart : Apart r h'.tree endpoint) :
    r.Ready h'.tree := by
  have hgrown := (Host.bind_ok hready.wellFormed hbind).1
  refine ⟨hgrown.wellFormed hready.wellFormed, hgrown.isDirectory hready.rooted, ?_⟩
  cases endpoint with
  | name text =>
    rw [(Host.bindName_ok hbind).1]
    exact hready.swept
  | path text => exact hapart.2

/-- What leads to the listener is not in the place of an entry. -/
theorem Apart.ne_entryPlace {h : Host} {listener : Nat} {file : Option Place}
    (hapart : Apart r h.tree endpoint) (hreaches : h.Reaches endpoint listener file)
    (key : IdentityKey) : file ≠ some (r.entryPlace key) := by
  cases hreaches with
  | name haddress hheld => exact (Option.some_ne_none _).symm
  | hidden haddress hheld => exact (Option.some_ne_none _).symm
  | file haddress hlocate hfind halive =>
    intro heq
    exact hapart.1 key (Option.some.inj heq ▸ hlocate)

/-- A daemon that was just started is found, and nobody has connected yet. -/
theorem hosted_start {opened : Tree} {plan : DaemonPlan} (ht : t.WellFormed)
    (hopen : Registry.open t plan.root plan.maxObjectSize = (.ok r, opened))
    (hstart : (Deployment.ofTree t).start plan = (.ok (), d)) (hidle : plan.idle = none)
    (hendpoint : Endpoint.parse plan.endpoint = .ok endpoint)
    (hapart : Apart r d.host.tree endpoint) :
    ∃ i, Hosted r plan.scope endpoint d i ∧ d.clients = [] ∧ i.running.server.active = []
      ∧ i.running.server.permits = max 1 plan.maxConnections
      ∧ r.maxObjectSize = plan.maxObjectSize := by
  obtain ⟨hready, -, hmax, -, -⟩ := Registry.open_ok ht hopen
  obtain ⟨endpoint', listener, host, hendpoint', hbind, rfl⟩ := start_ok hopen hstart
  obtain rfl : endpoint = endpoint' := Except.ok.inj (hendpoint.symm.trans hendpoint')
  obtain ⟨-, file, hreaches⟩ := Host.bind_ok hready.wellFormed hbind
  refine ⟨(launchedAlone host endpoint listener (r.service plan.maxObjectSize plan.idle plan.scope)
    plan.maxConnections).1, ?_, rfl, rfl, rfl, hmax⟩
  exact {
    orderly := orderly_launchedAlone host endpoint listener hidle plan.maxConnections
    service := by rw [launchedAlone, hmax, hidle]
    reached := ⟨file, hreaches, hapart.ne_entryPlace hreaches⟩
    ready := ready_of_bind hready hbind hapart }

/-- A daemon that was just started, and clients that have not called it yet. -/
theorem net_start {opened : Tree} {plan : DaemonPlan} (ht : t.WellFormed)
    (hopen : Registry.open t plan.root plan.maxObjectSize = (.ok r, opened))
    (hstart : (Deployment.ofTree t).start plan = (.ok (), d)) (hidle : plan.idle = none)
    (hendpoint : Endpoint.parse plan.endpoint = .ok endpoint)
    (hapart : Apart r d.host.tree endpoint) (hsmall : plan.maxObjectSize < 2 ^ 31 - 64)
    (hwithin : r.Within d.host.tree plan.maxObjectSize)
    (hcompany : Company parties endpoint plan.maxObjectSize)
    (hfew : n ≤ max 1 plan.maxConnections) :
    ∃ i, Net r plan.scope endpoint parties (fun a => .fresh (parties a).settings) d i
      d.host.tree := by
  obtain ⟨i, hhosted, hclients, hactive, hpermits, hmax⟩ :=
    hosted_start ht hopen hstart hidle hendpoint hapart
  rw [← hmax] at hsmall hwithin hcompany
  exact ⟨i, {
    toHosted := hhosted
    company := hcompany
    small := hsmall
    settings := fun _ => rfl
    rested := fun a => rested_fresh (parties a).settings (by simp [hclients])
    permits := hpermits ▸ hfew
    count := by
      have hnobody : connected (fun a => Client.fresh (parties a).settings) = ∅ :=
        Finset.filter_false_of_mem fun _ _ => Bool.false_ne_true
      rw [hactive, hnobody]
      rfl
    within := hwithin
    readyDirect := hhosted.ready
    same := .refl [] _ }⟩

/-- **Calls through a daemon are transparent.**  Clients that take turns are answered as if each had
called the registry itself, they leave the same file tree behind but for the times of storing, and
no answer blames the connection or what was said on it. -/
theorem transparent {opened : Tree} {plan : DaemonPlan} (ht : t.WellFormed)
    (hopen : Registry.open t plan.root plan.maxObjectSize = (.ok r, opened))
    (hstart : (Deployment.ofTree t).start plan = (.ok (), d)) (hidle : plan.idle = none)
    (hendpoint : Endpoint.parse plan.endpoint = .ok endpoint)
    (hapart : Apart r d.host.tree endpoint) (hsmall : plan.maxObjectSize < 2 ^ 31 - 64)
    (hwithin : r.Within d.host.tree plan.maxObjectSize)
    (hcompany : Company parties endpoint plan.maxObjectSize)
    (hfew : n ≤ max 1 plan.maxConnections) (turns : List (Turn n)) :
    let atDistance := takeTurns parties (fun a => .fresh (parties a).settings) d turns
    let atHand :=
      takeTurnsDirect r (fun a => .resolve plan.scope (parties a).uid) d.host.tree turns
    atDistance.1 = atHand.1 ∧ Tree.SameBelow [] atDistance.2.2.host.tree atHand.2
      ∧ ∀ answer ∈ atDistance.1, answer.Plain := by
  intro atDistance atHand
  obtain ⟨i, hnet⟩ :=
    net_start ht hopen hstart hidle hendpoint hapart hsmall hwithin hcompany hfew
  obtain ⟨clients', d', i', htaken, hnet'⟩ := hnet.run turns
  have hanswers : atDistance.1 = atHand.1 := congrArg (·.1) htaken
  have hdeployment : atDistance.2.2 = d' := congrArg (·.2.2) htaken
  refine ⟨hanswers, ?_, ?_⟩
  · rw [hdeployment]
    exact hnet'.same
  · rw [hanswers]
    exact plain_takeTurnsDirect r _ d.host.tree turns

end

/-- A daemon that takes small tokens, on an empty file tree. -/
def smallPlan : DaemonPlan := ⟨"r", 4, "#x", 2, none, .caller⟩

/-- What it starts with. -/
def smallStart : Deployment := ((Deployment.ofTree .empty).start smallPlan).2

theorem start_smallPlan : (Deployment.ofTree .empty).start smallPlan = (.ok (), smallStart) := by
  have hstarted : ((Deployment.ofTree .empty).start smallPlan).1 = .ok () := by decide +kernel
  exact Prod.ext hstarted rfl

theorem open_smallPlan : Registry.open .empty smallPlan.root smallPlan.maxObjectSize
    = (.ok ⟨"r", ["r"], 4⟩, ⟨[([], .directory 0o755), (["r"], .directory 0o700)]⟩) := by rfl

/-- It starts without tokens. -/
theorem within_smallStart (limit : Nat) :
    Registry.Within ⟨"r", ["r"], 4⟩ smallStart.host.tree limit := fun key blob hread => by
  have hempty : ∀ item ∈ smallStart.host.tree.entries, item.1.length ≠ 3 := by decide +kernel
  obtain ⟨mode, content, record, hfind, -, -⟩ := Registry.of_read_ok hread
  exact absurd rfl (hempty _ (Tree.mem_entries_of_find? hfind))

/-- Two clients of it.  The first id of the one is the last there is; the other waits for ever. -/
def twoParties : Fin 2 → Party
  | 0 => ⟨"first", 1000, { endpoint := "#x", maxPayload := 4, initialCommandId := 0xfffffffe }⟩
  | 1 => ⟨"second", 1001, { endpoint := "@x", maxPayload := 4, responseTimeoutMs := 0 }⟩

/-- Calls of both, with each kind of answer that a sound disk allows. -/
def mixedTurns : List (Turn 2) :=
  [⟨0, 5, .read, 0⟩, ⟨1, 0, .store [7, 8], 3⟩, ⟨0, 3, .store [1, 2, 3, 4, 5], 0⟩,
    ⟨0, 0, .store [], 9⟩, ⟨1, 2, .read, 0⟩, ⟨0, 0, .read, 0⟩, ⟨1, 0, .delete, 0⟩,
    ⟨1, 1, .delete, 0⟩]

/-- The two clients are told what is so, and the ids wrap without notice. -/
theorem transparent_as_ids_wrap :
    ∃ d, (Deployment.ofTree .empty).start smallPlan = (.ok (), d)
      ∧ (takeTurns twoParties (fun a => .fresh (twoParties a).settings) d mixedTurns).1
        = [.token (.failed .notFound), .outcome (.ok ()), .outcome (.failed (.tooLarge 5 4)),
            .outcome (.ok ()), .token (.ok [7, 8]), .token (.ok []), .outcome (.ok ()),
            .outcome (.failed .notFound)] := by
  have hcompany : Company twoParties (.name "x") 4 := ⟨by decide, by decide, by decide⟩
  refine ⟨_, start_smallPlan, (transparent Tree.wellFormed_empty open_smallPlan start_smallPlan rfl
    rfl trivial (by decide) (within_smallStart 4) hcompany (by decide) mixedTurns).1.trans ?_⟩
  decide +kernel

end Client
end TokenBroker
