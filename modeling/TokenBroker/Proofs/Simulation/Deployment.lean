import TokenBroker.Proofs.Daemon.Request
import TokenBroker.Simulation.Link
/-!
# A deployment of one daemon

What the far side of a client does when it is a daemon that sets no time limits, and to which the
clients speak one at a time.

* `Orderly` is such a deployment between two inputs.
* `Known` is a client with what is kept for it.  It is `Linked` to the handler at the other end of
  its connection, or `Parted` from a daemon that has closed it.
* `Revised` says that the clients are the same but for the socket of one; `Keeps` says what else an
  input of one client leaves as it was.
* `Linked.more` and `Linked.last` are the pieces of a request on their way, and `attempt_orderly` is
  a client that connects.
-/

set_option autoImplicit false

namespace TokenBroker
namespace Simulation
namespace Deployment

open Handler

variable {d d' : Deployment} {i i' : Instance} {name other : String} {k : Nat} {h h' : Handler}
  {t' : Tree} {socket : Socket}

/-! ## One input -/

/-- The daemon with other connections, after some events. -/
def withActive (i : Instance) (active : List (Nat × Handler)) (events : List Handler.Event) :
    Instance :=
  { i with
    running := { i.running with server := { i.running.server with active := active } }
    events := i.events ++ events }

/-- The deployment with its daemon, tree and clients changed. -/
def having (d : Deployment) (i : Instance) (t : Tree) (clients : List Caller) : Deployment :=
  { d with host := { d.host with tree := t }, instances := [i], clients := clients }

/-- A client is told something. -/
def tell (k : Nat) (arrivals : List Arrival) (clients : List Caller) : List Caller :=
  clients.map fun c =>
    if c.number = k then { c with socket := c.socket.receiveAll arrivals } else c

theorem tell_nil (k : Nat) (clients : List Caller) : tell k [] clients = clients := by
  have hid : ∀ c ∈ clients,
      (if c.number = k then { c with socket := c.socket.receiveAll [] } else c) = id c := by
    intro c _
    split <;> rfl
  rw [tell, List.map_congr_left hid, List.map_id]

theorem inform_foldl (k : Nat) (events : List Event) (clients : List Caller) :
    (Server.tagged k events).foldl inform clients = tell k (arrivals events) clients := by
  induction events generalizing clients with
  | nil => rw [arrivals, List.filterMap_nil, tell_nil]; rfl
  | cons event rest ih =>
    have hcons : Server.tagged k (event :: rest) = (k, event) :: Server.tagged k rest := rfl
    rw [hcons, List.foldl_cons, ih]
    cases harrival : event.arrival? with
    | none =>
      have hinform : inform clients (k, event) = clients := by rw [inform, harrival]
      rw [hinform, arrivals, arrivals, List.filterMap_cons_none harrival]
    | some arrival =>
      have hinform : inform clients (k, event) = tell k [arrival] clients := by
        rw [inform, harrival]
        rfl
      rw [hinform, arrivals, arrivals, List.filterMap_cons_some harrival, tell, tell, tell,
        List.map_map]
      refine List.map_congr_left fun c _ => ?_
      simp only [Function.comp]
      by_cases heq : c.number = k
      · rw [if_pos heq, if_pos heq, if_pos heq]
        rfl
      · rw [if_neg heq, if_neg heq, if_neg heq]

/-- An input that concerns the only daemon. -/
theorem feed_only (honly : d.instances = [i]) (concerns : Instance → Bool)
    (hconcerns : concerns i = true) (input : Server.Input) :
    d.feed concerns input
      = let result := i.next d.now input d.host.tree
        d.having result.2.1 result.2.2 (result.1.foldl inform d.clients) := by
  simp only [feed, honly, List.foldl_cons, List.foldl_nil, hconcerns, if_true, List.nil_append]
  rfl

/-- A deployment of one daemon that sets no time limit, between two inputs. -/
structure Orderly (d : Deployment) (i : Instance) : Prop where
  only : d.instances = [i]
  patient : i.running.service.idle = none
  settled : i.running.server.Settled
  handlers : (i.running.server.active.map (·.1)).Nodup
  served : ∀ item ∈ i.running.server.active, item.1 < d.nextClient
  numbered : ∀ c ∈ d.clients, c.number < d.nextClient

/-- A client with the number of its connection and what is kept for it. -/
structure Known (d : Deployment) (name : String) (k : Nat) (socket : Socket) : Prop where
  present : ∃ c ∈ d.clients, c.name = name
  mine : ∀ c ∈ d.clients, c.name = name → c.number = k ∧ c.socket = socket
  others : ∀ c ∈ d.clients, c.name ≠ name → c.number ≠ k

/-- A client with what is kept for it and the handler that serves it. -/
structure Linked (d : Deployment) (i : Instance) (name : String) (k : Nat) (socket : Socket)
    (h : Handler) : Prop extends Known d name k socket where
  handler : (k, h) ∈ i.running.server.active

/-- A client whose connection the daemon has closed. -/
structure Parted (d : Deployment) (i : Instance) (name : String) (k : Nat) (socket : Socket) :
    Prop extends Known d name k socket where
  unserved : ∀ item ∈ i.running.server.active, item.1 ≠ k

/-- The client that bears a name. -/
theorem Known.find? (hknown : Known d name k socket) :
    ∃ c, d.clients.find? (fun c => c.name = name) = some c ∧ c.number = k ∧ c.socket = socket := by
  obtain ⟨c, hc, hname⟩ := hknown.present
  cases hfind : d.clients.find? (fun c => c.name = name) with
  | none =>
    have hnone := List.find?_eq_none.1 hfind c hc
    exact absurd hname (by simpa using hnone)
  | some c' =>
    have hname' : c'.name = name := by simpa using List.find?_some hfind
    exact ⟨c', rfl, hknown.mine c' (List.mem_of_find?_eq_some hfind) hname'⟩

/-- Clients of different names have different numbers. -/
theorem Known.number_ne {k₂ : Nat} {socket₂ : Socket} (hknown : Known d name k socket)
    (hother : Known d other k₂ socket₂) (hne : other ≠ name) : k₂ ≠ k := by
  obtain ⟨c, hc, hname⟩ := hother.present
  rw [← (hother.mine c hc hname).1]
  exact hknown.others c hc (hname ▸ hne)

/-- The handler of a client is the only one of its number. -/
theorem Orderly.split (hd : d.Orderly i) (hhandler : (k, h) ∈ i.running.server.active) :
    ∃ a b, i.running.server.active = a ++ (k, h) :: b ∧ ∀ item ∈ a ++ b, item.1 ≠ k := by
  obtain ⟨a, b, hactive⟩ := List.append_of_mem hhandler
  have hnodup := hd.handlers
  rw [hactive, List.map_append, List.map_cons, List.nodup_append] at hnodup
  obtain ⟨-, hcons, hapart⟩ := hnodup
  refine ⟨a, b, hactive, fun item hitem => ?_⟩
  rcases List.mem_append.1 hitem with ha | hb
  · exact hapart _ (List.mem_map_of_mem ha) _ List.mem_cons_self
  · intro heq
    exact (List.nodup_cons.1 hcons).1 (heq ▸ List.mem_map_of_mem (f := (·.1)) hb)

/-- Something arrives from a client. -/
theorem arrive_orderly (hd : d.Orderly i) {a b : List (Nat × Handler)}
    (hactive : i.running.server.active = a ++ (k, h) :: b) (hapart : ∀ item ∈ a ++ b, item.1 ≠ k)
    {arrival : Arrival} {events : List Event}
    (hrun : Handler.run i.running.service d.now false ((Server.Move.send arrival).apply h)
      d.host.tree = (events, h', t')) :
    let active := a ++ ((if h'.isEnded then [] else [(k, h')]) ++ b)
    d.arrive k arrival
        = d.having (withActive i active events) t' (tell k (arrivals events) d.clients)
      ∧ (withActive i active events).running.server.Settled := by
  intro active
  have hnext := Server.next_move_among hd.settled hactive hapart hrun
  have hsettled := hd.settled.next_move i.running.service d.now k (.send arrival) d.host.tree
  have hknows : i.knows k = true := by
    rw [Instance.knows, Bool.or_eq_true, List.any_eq_true]
    exact .inl ⟨(k, h), hactive ▸ List.mem_append_right _ List.mem_cons_self, by simp⟩
  refine ⟨?_, ?_⟩
  · rw [arrive, feed_only hd.only _ hknows]
    have hinput : Server.Input.deliver k arrival = (Server.Move.send arrival).input k := rfl
    simp only [Instance.next, hinput, hnext]
    rw [inform_foldl, Server.tagged, List.map_map]
    have hevents : events.map ((fun x : Happening => x.2) ∘ fun event => (k, event)) = events :=
      List.map_id events
    rw [hevents]
    rfl
  · rw [hnext] at hsettled
    exact hsettled

/-- What an input that concerns one client leaves as it was. -/
structure Keeps (name : String) (d : Deployment) (i : Instance) (d' : Deployment) (i' : Instance) :
    Prop where
  service : i'.running.service = i.running.service
  listener : i'.running.listener = i.running.listener
  permits : i'.running.server.permits = i.running.server.permits
  now : d'.now = d.now
  names : d'.host.names = d.host.names
  listeners : d'.host.listeners = d.host.listeners
  others : ∀ other k socket h, other ≠ name → Linked d i other k socket h →
    Linked d' i' other k socket h
  parted : ∀ other k socket, other ≠ name → Parted d i other k socket →
    Parted d' i' other k socket
  strangers : ∀ other, other ≠ name → (∀ c ∈ d.clients, c.name ≠ other) →
    ∀ c ∈ d'.clients, c.name ≠ other

theorem Keeps.refl (name : String) (d : Deployment) (i : Instance) : Keeps name d i d i :=
  ⟨rfl, rfl, rfl, rfl, rfl, rfl, fun _ _ _ _ _ => id, fun _ _ _ _ => id, fun _ _ => id⟩

theorem Keeps.trans {d'' : Deployment} {i'' : Instance} (h : Keeps name d i d' i')
    (h' : Keeps name d' i' d'' i'') : Keeps name d i d'' i'' where
  service := h'.service.trans h.service
  listener := h'.listener.trans h.listener
  permits := h'.permits.trans h.permits
  now := h'.now.trans h.now
  names := h'.names.trans h.names
  listeners := h'.listeners.trans h.listeners
  others := fun other k socket handler hne hlinked =>
    h'.others other k socket handler hne (h.others other k socket handler hne hlinked)
  parted := fun other k socket hne hparted =>
    h'.parted other k socket hne (h.parted other k socket hne hparted)
  strangers := fun other hne hunknown => h'.strangers other hne (h.strangers other hne hunknown)

/-- The clients are the same, but for the socket of one of them. -/
structure Revised (name : String) (socket : Socket) (d d' : Deployment) : Prop where
  kept : ∀ c ∈ d.clients, ∃ c' ∈ d'.clients, c'.name = c.name
  known : ∀ c' ∈ d'.clients, ∃ c ∈ d.clients, c'.name = c.name ∧ c'.number = c.number
    ∧ c'.socket = if c.name = name then socket else c.socket
  number : d'.nextClient = d.nextClient

theorem Revised.present (hrevised : Revised name socket d d')
    (hpresent : ∃ c ∈ d.clients, c.name = other) : ∃ c ∈ d'.clients, c.name = other := by
  obtain ⟨c, hc, hname⟩ := hpresent
  obtain ⟨c', hc', hname'⟩ := hrevised.kept c hc
  exact ⟨c', hc', hname'.trans hname⟩

theorem Revised.numbered (hrevised : Revised name socket d d')
    (hnumbered : ∀ c ∈ d.clients, c.number < d.nextClient) :
    ∀ c ∈ d'.clients, c.number < d'.nextClient := by
  intro c' hc'
  obtain ⟨c, hc, -, hnumber, -⟩ := hrevised.known c' hc'
  rw [hnumber, hrevised.number]
  exact hnumbered c hc

/-- The client itself has another socket. -/
theorem Known.revise {socket' : Socket} (hknown : d.Known name k socket)
    (hrevised : Revised name socket' d d') : d'.Known name k socket' where
  present := hrevised.present hknown.present
  mine := fun c' hc' hname => by
    obtain ⟨c, hc, hname', hnumber, hsocket⟩ := hrevised.known c' hc'
    rw [if_pos (hname' ▸ hname)] at hsocket
    exact ⟨hnumber.trans (hknown.mine c hc (hname' ▸ hname)).1, hsocket⟩
  others := fun c' hc' hname => by
    obtain ⟨c, hc, hname', hnumber, -⟩ := hrevised.known c' hc'
    exact hnumber ▸ hknown.others c hc (hname' ▸ hname)

/-- Any other client has the socket that it had. -/
theorem Known.of_revised {socket' : Socket} (hknown : d.Known other k socket)
    (hrevised : Revised name socket' d d') (hne : other ≠ name) : d'.Known other k socket where
  present := hrevised.present hknown.present
  mine := fun c' hc' hname => by
    obtain ⟨c, hc, hname', hnumber, hsocket⟩ := hrevised.known c' hc'
    obtain ⟨hk, hs⟩ := hknown.mine c hc (hname' ▸ hname)
    rw [if_neg (fun heq => hne (hname.symm.trans (hname'.trans heq)))] at hsocket
    exact ⟨hnumber.trans hk, hsocket.trans hs⟩
  others := fun c' hc' hname => by
    obtain ⟨c, hc, hname', hnumber, -⟩ := hrevised.known c' hc'
    exact hnumber ▸ hknown.others c hc (hname' ▸ hname)

theorem Revised.strangers (hrevised : Revised name socket d d')
    (hunknown : ∀ c ∈ d.clients, c.name ≠ other) : ∀ c ∈ d'.clients, c.name ≠ other := by
  intro c' hc'
  obtain ⟨c, hc, hname', -⟩ := hrevised.known c' hc'
  exact hname' ▸ hunknown c hc

/-- A client that is told something by its number. -/
theorem Known.tell (hknown : d.Known name k socket) (arrivals : List Arrival)
    (hclients : d'.clients = tell k arrivals d.clients) (hnumber : d'.nextClient = d.nextClient) :
    Revised name (socket.receiveAll arrivals) d d' where
  kept := fun c hc => by
    rw [hclients]
    refine ⟨_, List.mem_map_of_mem hc, ?_⟩
    split <;> rfl
  known := fun c' hc' => by
    rw [hclients] at hc'
    obtain ⟨c, hc, rfl⟩ := List.mem_map.1 hc'
    refine ⟨c, hc, ?_⟩
    by_cases hname : c.name = name
    · obtain ⟨hk, hs⟩ := hknown.mine c hc hname
      rw [if_pos hk, if_pos hname, hs]
      exact ⟨rfl, rfl, rfl⟩
    · rw [if_neg (hknown.others c hc hname), if_neg hname]
      exact ⟨rfl, rfl, rfl⟩
  number := hnumber

/-- **What arrives from a client concerns that client alone.**  Its handler goes on or ends. -/
theorem Linked.deliver (hd : d.Orderly i) (hlinked : d.Linked i name k socket h) {arrival : Arrival}
    {events : List Event}
    (hrun : Handler.run i.running.service d.now false ((Server.Move.send arrival).apply h)
      d.host.tree = (events, h', t')) :
    ∃ i' a b, (d.arrive k arrival).Orderly i'
      ∧ (d.arrive k arrival).Known name k (socket.receiveAll (arrivals events))
      ∧ Keeps name d i (d.arrive k arrival) i' ∧ (d.arrive k arrival).host.tree = t'
      ∧ i.running.server.active = a ++ (k, h) :: b ∧ (∀ item ∈ a ++ b, item.1 ≠ k)
      ∧ i'.running.server.active = a ++ ((if h'.isEnded then [] else [(k, h')]) ++ b) := by
  obtain ⟨a, b, hactive, hapart⟩ := hd.split hlinked.handler
  obtain ⟨harrive, hsettled⟩ := arrive_orderly hd hactive hapart hrun
  let active := a ++ ((if h'.isEnded then [] else [(k, h')]) ++ b)
  have hrevised : Revised name (socket.receiveAll (arrivals events)) d
      (d.having (withActive i active events) t' (Deployment.tell k (arrivals events) d.clients)) :=
    hlinked.tell (arrivals events) rfl rfl
  have hnumbers : (active.map (·.1)).Sublist (i.running.server.active.map (·.1)) := by
    rw [hactive, List.map_append, List.map_append, List.map_append]
    refine (List.Sublist.refl _).append ?_
    rw [List.map_cons]
    split
    · exact List.sublist_cons_self _ _
    · exact List.Sublist.refl _
  have hthere : ∀ item ∈ i.running.server.active, item.1 ≠ k → item ∈ active := by
    intro item hitem hne
    rw [hactive] at hitem
    rcases List.mem_append.1 hitem with ha | hb
    · exact List.mem_append_left _ ha
    · rcases List.mem_cons.1 hb with rfl | hb
      · exact absurd rfl hne
      · exact List.mem_append_right _ (List.mem_append_right _ hb)
  have hold : ∀ item ∈ active, ∃ item' ∈ i.running.server.active, item'.1 = item.1 :=
    fun item hitem => List.mem_map.1 (hnumbers.subset (List.mem_map_of_mem (f := (·.1)) hitem))
  rw [harrive]
  refine ⟨withActive i active events, a, b, ?_, hlinked.revise hrevised, ?_, rfl, hactive, hapart,
    rfl⟩
  · exact {
      only := rfl
      patient := hd.patient
      settled := hsettled
      handlers := hd.handlers.sublist hnumbers
      served := fun item hitem => by
        obtain ⟨item', hitem', heq⟩ := hold item hitem
        exact heq ▸ hd.served item' hitem'
      numbered := hrevised.numbered hd.numbered }
  · exact {
      service := rfl
      listener := rfl
      permits := rfl
      now := rfl
      names := rfl
      listeners := rfl
      others := fun other k₂ socket₂ h₂ hne hother =>
        ⟨hother.of_revised hrevised hne,
          hthere _ hother.handler (hlinked.number_ne hother.toKnown hne)⟩
      parted := fun other k₂ socket₂ hne hother =>
        ⟨hother.of_revised hrevised hne, fun item hitem => by
          obtain ⟨item', hitem', heq⟩ := hold item hitem
          exact heq ▸ hother.unserved item' hitem'⟩
      strangers := fun other _ hunknown => hrevised.strangers hunknown }

/-- Something arrives from a client, and its handler goes on. -/
theorem Linked.arrive (hd : d.Orderly i) (hlinked : d.Linked i name k socket h) {arrival : Arrival}
    {events : List Event}
    (hrun : Handler.run i.running.service d.now false ((Server.Move.send arrival).apply h)
      d.host.tree = (events, h', t')) (hgoing : h'.isEnded = false) :
    ∃ i', (d.arrive k arrival).Orderly i'
      ∧ (d.arrive k arrival).Linked i' name k (socket.receiveAll (arrivals events)) h'
      ∧ Keeps name d i (d.arrive k arrival) i'
      ∧ i'.running.server.active.length = i.running.server.active.length
      ∧ (d.arrive k arrival).host.tree = t' := by
  obtain ⟨i', a, b, hd', hknown, hkeeps, htree, hactive, -, hactive'⟩ := hlinked.deliver hd hrun
  rw [hgoing, if_neg Bool.false_ne_true] at hactive'
  refine ⟨i', hd', ⟨hknown, ?_⟩, hkeeps, ?_, htree⟩
  · rw [hactive']
    exact List.mem_append_right _ List.mem_cons_self
  · rw [hactive, hactive', List.length_append, List.length_append, List.length_append]
    exact congrArg (a.length + ·) (Nat.add_comm 1 b.length)

/-- Something arrives from a client, and its handler ends. -/
theorem Linked.part (hd : d.Orderly i) (hlinked : d.Linked i name k socket h) {arrival : Arrival}
    {events : List Event}
    (hrun : Handler.run i.running.service d.now false ((Server.Move.send arrival).apply h)
      d.host.tree = (events, h', t')) (hended : h'.isEnded = true) :
    ∃ i', (d.arrive k arrival).Orderly i'
      ∧ (d.arrive k arrival).Parted i' name k (socket.receiveAll (arrivals events))
      ∧ Keeps name d i (d.arrive k arrival) i'
      ∧ i'.running.server.active.length + 1 = i.running.server.active.length
      ∧ (d.arrive k arrival).host.tree = t' := by
  obtain ⟨i', a, b, hd', hknown, hkeeps, htree, hactive, hapart, hactive'⟩ :=
    hlinked.deliver hd hrun
  rw [hended, if_pos rfl, List.nil_append] at hactive'
  refine ⟨i', hd', ⟨hknown, ?_⟩, hkeeps, ?_, htree⟩
  · rw [hactive']
    exact hapart
  · rw [hactive, hactive', List.length_append, List.length_append, List.length_cons]
    rfl

/-! ## Requests on their way -/

/-- What is kept for a client that was sent some bytes. -/
def mailbox (mail : Bytes) : Socket := Socket.receive {} (.bytes mail)

/-- The daemon has the first bytes of a request, but not all of them. -/
def Sending (d : Deployment) (i : Instance) (name : String) (key : IdentityKey) (q : Request)
    (got : Bytes) : Prop :=
  d.Orderly i ∧ ∃ k h, d.Linked i name k {} h ∧ h.Hears key q got

/-- The daemon is done with the requests of a client, for which some bytes are kept. -/
def Answered (d : Deployment) (i : Instance) (name : String) (key : IdentityKey) (mail : Bytes) :
    Prop :=
  d.Orderly i ∧ ∃ k h, d.Linked i name k (mailbox mail) h ∧ h.Idle key

/-- What one input of a client changes is the tree alone, as others see it. -/
structure Step (name : String) (d : Deployment) (i : Instance) (d' : Deployment) (i' : Instance)
    (t' : Tree) : Prop extends Keeps name d i d' i' where
  length : i'.running.server.active.length = i.running.server.active.length
  tree : d'.host.tree = t'

theorem Step.trans {d'' : Deployment} {i'' : Instance} {t'' : Tree}
    (h : Step name d i d' i' t') (h' : Step name d' i' d'' i'' t'') : Step name d i d'' i'' t'' :=
  ⟨h.toKeeps.trans h'.toKeeps, h'.length.trans h.length, h'.tree⟩

variable {key : IdentityKey} {q : Request} {got chunk rest : Bytes} {limit : Nat} {reply : Reply}

theorem Answered.sending (hanswered : d.Answered i name key []) (q : Request) :
    d.Sending i name key q [] := by
  obtain ⟨hd, k, h, hlinked, hidle⟩ := hanswered
  exact ⟨hd, k, h, hlinked, hidle.hears q⟩

/-- A piece of a request that is not the last arrives. -/
theorem Linked.more (hd : d.Orderly i) (hlinked : d.Linked i name k {} h)
    (hhears : h.Hears key q got) (haccepted : q.Accepted limit)
    (hlimit : i.running.service.limit = limit) (hframe : got ++ chunk ++ rest = q.frame)
    (hrest : rest ≠ []) :
    ∃ i', (d.arrive k (.bytes chunk)).Sending i' name key q (got ++ chunk)
      ∧ Step name d i (d.arrive k (.bytes chunk)) i' d.host.tree := by
  obtain ⟨events, h', hrun, hquiet, hhears'⟩ :=
    hhears.more haccepted hlimit hframe hrest d.now d.host.tree
  obtain ⟨i', hd', hlinked', hkeeps, hlength, htree⟩ := hlinked.arrive hd hrun hhears'.isEnded
  rw [hquiet] at hlinked'
  exact ⟨i', ⟨hd', k, h', hlinked', hhears'⟩, hkeeps, hlength, htree⟩

/-- The last piece of a request arrives, and its response is on its way back. -/
theorem Linked.last (hd : d.Orderly i) (hlinked : d.Linked i name k {} h)
    (hhears : h.Hears key q got) (haccepted : q.Accepted limit)
    (hlimit : i.running.service.limit = limit) (hframe : got ++ chunk = q.frame)
    (hreply : i.running.service.dispatch d.now key q.command q.payload d.host.tree = (reply, t'))
    (hfit : reply.payload.length ≤ limit) :
    ∃ i', (d.arrive k (.bytes chunk)).Answered i' name key (answer q.id reply)
      ∧ Step name d i (d.arrive k (.bytes chunk)) i' t' := by
  obtain ⟨events, h', hrun, hsaid, hidle⟩ := hhears.last haccepted hlimit hframe hreply hfit
  obtain ⟨i', hd', hlinked', hkeeps, hlength, htree⟩ := hlinked.arrive hd hrun hidle.isEnded
  rw [hsaid] at hlinked'
  exact ⟨i', ⟨hd', k, h', hlinked', hidle⟩, hkeeps, hlength, htree⟩

/-! ## Waiting -/

theorem Orderly.nextExpiry? (hd : d.Orderly i) : d.nextExpiry? = none := by
  have hnone : ∀ item ∈ i.running.server.active,
      Handler.expiry? i.running.service.idle item.2 = none := by
    intro item _
    rw [hd.patient, Handler.expiry?]
    split <;> rfl
  rw [Deployment.nextExpiry?, hd.only]
  have hserver : i.running.server.nextExpiry? i.running.service.idle = none := by
    rw [Server.nextExpiry?, List.filterMap_eq_nil_iff.2 hnone]
    rfl
  simp only [List.filterMap_cons, hserver, List.filterMap_nil]
  rfl

/-- Where no daemon waits for anything, time just passes. -/
theorem Orderly.advanceTo_eq (hd : d.Orderly i) (time : Nat) :
    d.advanceTo time = { d with now := max d.now time } := by
  rw [Deployment.advanceTo, advanceWithin, expireOnce?, hd.nextExpiry?]

theorem Orderly.advanceTo (hd : d.Orderly i) : d.advanceTo d.now = d := by
  rw [hd.advanceTo_eq, Nat.max_self]

theorem Orderly.sleep (hd : d.Orderly i) (duration : Nat) :
    d.sleep duration = { d with now := d.now + duration } := by
  rw [Deployment.sleep, hd.advanceTo_eq, Nat.max_eq_right (Nat.le_add_right _ _)]

/-- What holds between two inputs holds later as well. -/
theorem Orderly.later (hd : d.Orderly i) (time : Nat) :
    ({ d with now := time } : Deployment).Orderly i :=
  ⟨hd.only, hd.patient, hd.settled, hd.handlers, hd.served, hd.numbered⟩

theorem Known.later (hknown : d.Known name k socket) (time : Nat) :
    ({ d with now := time } : Deployment).Known name k socket :=
  ⟨hknown.present, hknown.mine, hknown.others⟩

theorem Linked.later (hlinked : d.Linked i name k socket h) (time : Nat) :
    ({ d with now := time } : Deployment).Linked i name k socket h :=
  ⟨hlinked.toKnown.later time, hlinked.handler⟩

theorem Orderly.mailWithin (hd : d.Orderly i) (fuel : Nat) (name : String) :
    d.mailWithin fuel name = d.mail name := by
  rw [mailWithin.eq_def]
  cases fuel with
  | zero => exact List.append_nil _
  | succ fuel =>
    simp only [hd.nextExpiry?]
    exact List.append_nil _

/-- What is kept for a client is there at once. -/
theorem Known.mail_eq (hknown : d.Known name k socket) :
    d.mail name = (mailOf socket).map fun arrival => (d.now, arrival) := by
  obtain ⟨c, hfind, -, hsocket⟩ := hknown.find?
  rw [Deployment.mail, hfind]
  dsimp only
  rw [hsocket]

theorem Known.mail (hknown : d.Known name k (mailbox [])) : d.mail name = [] := hknown.mail_eq

theorem Known.mail_of_ne_nil {mail : Bytes} (hknown : d.Known name k (mailbox mail))
    (hmail : mail ≠ []) : d.mail name = [(d.now, .bytes mail)] := by
  have hsome : mail.isEmpty = false := by
    cases mail with
    | nil => exact absurd rfl hmail
    | cons byte rest => rfl
  rw [hknown.mail_eq, mailbox, Socket.receive, hsome]
  simp [mailOf, hsome]

theorem revised_clearMail (d : Deployment) (name : String) :
    Revised name {} d (d.clearMail name) where
  kept := fun c hc => by
    refine ⟨_, List.mem_map_of_mem hc, ?_⟩
    split <;> rfl
  known := fun c' hc' => by
    obtain ⟨c, hc, rfl⟩ := List.mem_map.1 hc'
    refine ⟨c, hc, ?_⟩
    by_cases hname : c.name = name
    · rw [if_pos hname, if_pos hname]
      exact ⟨rfl, rfl, rfl⟩
    · rw [if_neg hname, if_neg hname]
      exact ⟨rfl, rfl, rfl⟩
  number := rfl

/-- A client takes what was kept for it. -/
theorem Orderly.clearMail (hd : d.Orderly i) (name : String) :
    (d.clearMail name).Orderly i ∧ Step name d i (d.clearMail name) i d.host.tree := by
  have hrevised := revised_clearMail d name
  refine ⟨⟨hd.only, hd.patient, hd.settled, hd.handlers, hd.served,
    hrevised.numbered hd.numbered⟩, ⟨?_, rfl, rfl⟩⟩
  exact {
    service := rfl
    listener := rfl
    permits := rfl
    now := rfl
    names := rfl
    listeners := rfl
    others := fun other k₂ socket₂ h₂ hne hother =>
      ⟨hother.of_revised hrevised hne, hother.handler⟩
    parted := fun other k₂ socket₂ hne hother =>
      ⟨hother.of_revised hrevised hne, hother.unserved⟩
    strangers := fun other _ hunknown => hrevised.strangers hunknown }

/-- When a client has taken what was kept for it, nothing is. -/
theorem Known.clearMail (hknown : d.Known name k socket) : (d.clearMail name).Known name k {} :=
  hknown.revise (revised_clearMail d name)

/-! ## Connecting -/

/-- The daemon as it serves one more client, the next there is. -/
def serving (d : Deployment) (i : Instance) (uid : UInt32) : Instance :=
  withActive i (i.running.server.active
    ++ [(d.nextClient, newcomer i.running.service.scope uid .flowing d.now)]) [.started]

/-- The deployment with that client. -/
def joined (d : Deployment) (i : Instance) (name : String) (uid : UInt32) : Deployment :=
  { d.having (d.serving i uid) d.host.tree
      (d.clients ++ [({ name := name, number := d.nextClient } : Caller)]) with
    nextClient := d.nextClient + 1 }

theorem mem_serving {uid : UInt32} {item : Nat × Handler}
    (hitem : item ∈ (d.serving i uid).running.server.active) :
    item ∈ i.running.server.active
      ∨ item = (d.nextClient, newcomer i.running.service.scope uid .flowing d.now) := by
  rcases List.mem_append.1 hitem with hold | hnew
  · exact .inl hold
  · exact .inr (List.mem_singleton.1 hnew)

theorem mem_joined {uid : UInt32} {c : Caller} (hc : c ∈ (d.joined i name uid).clients) :
    c ∈ d.clients ∨ c = { name := name, number := d.nextClient } := by
  rcases List.mem_append.1 hc with hold | hnew
  · exact .inl hold
  · exact .inr (List.mem_singleton.1 hnew)

/-- Numbers are given once, so a new connection has a number of its own. -/
theorem Orderly.nodup_serving (hd : d.Orderly i) (uid : UInt32) :
    ((d.serving i uid).running.server.active.map (·.1)).Nodup := by
  have hfresh : d.nextClient ∉ i.running.server.active.map (·.1) := by
    intro hmem
    obtain ⟨item, hitem, heq⟩ := List.mem_map.1 hmem
    exact absurd (hd.served item hitem) (by rw [heq]; exact Nat.lt_irrefl _)
  rw [serving, withActive]
  dsimp only
  rw [List.map_append]
  refine List.nodup_append.2 ⟨hd.handlers, List.pairwise_singleton _ _, ?_⟩
  intro a ha b hb heq
  have hb' : b = d.nextClient := List.mem_singleton.1 hb
  exact hfresh (by rw [← hb', ← heq]; exact ha)

theorem Orderly.settled_serving (hd : d.Orderly i) (uid : UInt32) :
    (d.serving i uid).running.server.Settled where
  accepted := hd.settled.accepted
  running := hd.settled.running
  going := fun item hitem => by
    rcases mem_serving hitem with hold | rfl
    · exact hd.settled.going item hold
    · rfl
  resting := fun item hitem => by
    rcases mem_serving hitem with hold | rfl
    · exact hd.settled.resting item hold
    · exact rests_newcomer _ _ _ _

theorem Orderly.joined (hd : d.Orderly i) (name : String) (uid : UInt32) :
    (d.joined i name uid).Orderly (d.serving i uid) where
  only := rfl
  patient := hd.patient
  settled := hd.settled_serving uid
  handlers := hd.nodup_serving uid
  served := fun item hitem => by
    rcases mem_serving hitem with hold | rfl
    · exact Nat.lt_succ_of_lt (hd.served item hold)
    · exact Nat.lt_succ_self _
  numbered := fun c hc => by
    rcases mem_joined hc with hold | rfl
    · exact Nat.lt_succ_of_lt (hd.numbered c hold)
    · exact Nat.lt_succ_self _

/-- The new client is linked to its handler. -/
theorem Orderly.linked_joined (hd : d.Orderly i) (hunknown : ∀ c ∈ d.clients, c.name ≠ name)
    (uid : UInt32) :
    (d.joined i name uid).Linked (d.serving i uid) name d.nextClient (mailbox [])
      (newcomer i.running.service.scope uid .flowing d.now) where
  present := ⟨_, List.mem_append_right _ (List.mem_singleton.2 rfl), rfl⟩
  mine := fun c hc hname => by
    rcases mem_joined hc with hold | rfl
    · exact absurd hname (hunknown c hold)
    · exact ⟨rfl, rfl⟩
  others := fun c hc hname => by
    rcases mem_joined hc with hold | rfl
    · exact Nat.ne_of_lt (hd.numbered c hold)
    · exact absurd rfl hname
  handler := List.mem_append_right _ (List.mem_singleton.2 rfl)

/-- Whoever else there is stays as he is when a client joins. -/
theorem Known.of_joined (hknown : d.Known other k socket) (hne : other ≠ name)
    (hnumber : k < d.nextClient) (uid : UInt32) : (d.joined i name uid).Known other k socket where
  present := by
    obtain ⟨c, hc, hname⟩ := hknown.present
    exact ⟨c, List.mem_append_left _ hc, hname⟩
  mine := fun c hc hname => by
    rcases mem_joined hc with hold | rfl
    · exact hknown.mine c hold hname
    · exact absurd hname.symm hne
  others := fun c hc hname => by
    rcases mem_joined hc with hold | rfl
    · exact hknown.others c hold hname
    · exact Nat.ne_of_gt hnumber

theorem Orderly.number_lt (hd : d.Orderly i) (hknown : d.Known name k socket) :
    k < d.nextClient := by
  obtain ⟨c, hc, hname⟩ := hknown.present
  exact (hknown.mine c hc hname).1 ▸ hd.numbered c hc

theorem Orderly.keeps_joined (hd : d.Orderly i) (name : String) (uid : UInt32) :
    Keeps name d i (d.joined i name uid) (d.serving i uid) where
  service := rfl
  listener := rfl
  permits := rfl
  now := rfl
  names := rfl
  listeners := rfl
  others := fun other k₂ socket₂ h₂ hne hother =>
    ⟨hother.of_joined hne (hd.number_lt hother.toKnown) uid,
      List.mem_append_left _ hother.handler⟩
  parted := fun other k₂ socket₂ hne hother =>
    ⟨hother.of_joined hne (hd.number_lt hother.toKnown) uid, fun item hitem => by
      rcases mem_serving hitem with hold | rfl
      · exact hother.unserved item hold
      · exact Nat.ne_of_gt (hd.number_lt hother.toKnown)⟩
  strangers := fun other hne hstranger c hc => by
    rcases mem_joined hc with hold | rfl
    · exact hstranger c hold
    · exact hne.symm

/-- What comes of an attempt to connect. -/
theorem Orderly.attempt_eq (hd : d.Orderly i) (hunknown : ∀ c ∈ d.clients, c.name ≠ name)
    {endpoint : Endpoint} (hreach : d.host.connect? endpoint = .ok i.running.listener)
    (hpermit : i.running.server.active.length < i.running.server.permits) (uid : UInt32) :
    attempt name uid endpoint d = (.done, d.joined i name uid) := by
  have hclose : d.close name = d := by
    have hnone : d.clients.find? (fun c => c.name = name) = none :=
      List.find?_eq_none.2 fun c hc => by simpa using hunknown c hc
    rw [close, hnone]
  have hconcerns : (i.isRunning && decide (i.running.listener = i.running.listener)) = true := by
    rw [Instance.isRunning, hd.settled.running]
    simp
  let added : Deployment :=
    { d with
      clients := d.clients ++ [({ name := name, number := d.nextClient } : Caller)]
      nextClient := d.nextClient + 1 }
  have hfeed := feed_only (d := added) hd.only
    (fun other => other.isRunning && decide (other.running.listener = i.running.listener))
    hconcerns (.connect d.nextClient (some uid) .flowing)
  have hnext := Server.next_connect hd.settled hpermit i.running.service d.now d.nextClient uid
    .flowing d.host.tree
  simp only [added, Instance.next, hnext] at hfeed
  rw [attempt, connect, hreach]
  dsimp only
  rw [hclose, hfeed]
  rfl

/-- **A client that connects while there are permits is served.** -/
theorem attempt_orderly (hd : d.Orderly i) (hunknown : ∀ c ∈ d.clients, c.name ≠ name)
    {endpoint : Endpoint} (hreach : d.host.connect? endpoint = .ok i.running.listener)
    (hpermit : i.running.server.active.length < i.running.server.permits) (uid : UInt32) :
    ∃ d' i', attempt name uid endpoint d = (.done, d')
      ∧ d'.Answered i' name (.resolve i.running.service.scope uid) []
      ∧ Keeps name d i d' i' ∧ d'.host.tree = d.host.tree
      ∧ i'.running.server.active.length = i.running.server.active.length + 1 :=
  ⟨d.joined i name uid, d.serving i uid, hd.attempt_eq hunknown hreach hpermit uid,
    ⟨hd.joined name uid, _, _, hd.linked_joined hunknown uid, idle_newcomer _ _ _⟩,
    hd.keeps_joined name uid, rfl, List.length_append⟩

/-! ## A daemon that was started -/

/-- The only daemon of a deployment, as it was started. -/
def launchedAlone (host : Host) (endpoint : Endpoint) (listener : Nat) (service : Service Tree)
    (maxConnections : Nat) : Instance × Deployment :=
  let i : Instance := ⟨⟨endpoint, listener, service, .ofLimit maxConnections⟩, [], false⟩
  (i, ⟨host, 0, [i], [], 0⟩)

/-- A daemon that started has opened its registry and bound its endpoint. -/
theorem start_ok {t opened : Tree} {plan : DaemonPlan} {r : Registry}
    (hopen : Registry.open t plan.root plan.maxObjectSize = (.ok r, opened))
    (hstart : (ofTree t).start plan = (.ok (), d)) :
    ∃ endpoint listener host, Endpoint.parse plan.endpoint = .ok endpoint
      ∧ Host.bind ⟨opened, [], [], 0⟩ endpoint = (.ok listener, host)
      ∧ d = (launchedAlone host endpoint listener
          (r.service plan.maxObjectSize plan.idle plan.scope) plan.maxConnections).2 := by
  rw [start, ofTree, Host.ofTree, Daemon.start] at hstart
  dsimp only at hstart
  rw [hopen] at hstart
  dsimp only at hstart
  cases hparse : Endpoint.parse plan.endpoint with
  | error e =>
    rw [hparse] at hstart
    cases (Prod.mk.inj hstart).1
  | ok endpoint =>
    rw [hparse] at hstart
    dsimp only at hstart
    rw [Daemon.serve] at hstart
    cases hbind : Host.bind ⟨opened, [], [], 0⟩ endpoint with
    | mk result host =>
      rw [hbind] at hstart
      cases result with
      | error e => cases (Prod.mk.inj hstart).1
      | ok listener =>
        dsimp only at hstart
        split at hstart
        · cases (Prod.mk.inj hstart).1
        · exact ⟨endpoint, listener, host, rfl, hbind, (Prod.mk.inj hstart).2.symm⟩

theorem orderly_launchedAlone (host : Host) (endpoint : Endpoint) (listener : Nat)
    {service : Service Tree} (hpatient : service.idle = none) (maxConnections : Nat) :
    (launchedAlone host endpoint listener service maxConnections).2.Orderly
      (launchedAlone host endpoint listener service maxConnections).1 where
  only := rfl
  patient := hpatient
  settled := Server.settled_ofLimit maxConnections
  handlers := List.nodup_nil
  served := fun _ hitem => by cases hitem
  numbered := fun _ hc => by cases hc

end Deployment
end Simulation
end TokenBroker
