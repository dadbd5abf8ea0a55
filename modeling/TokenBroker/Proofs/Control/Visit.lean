import TokenBroker.Proofs.Client.Transparency
import TokenBroker.Proofs.Control.Spelling
import TokenBroker.Proofs.Registry.Custody
import TokenBroker.Proofs.Simulation.Parting
/-!
# One run of the control program

A user runs the control program beside a daemon that has room for one more client.  The program
connects, makes its call, and is gone when it ends: the daemon is then ready for the next run.

* `Calm` is a daemon between two runs, and `Open` one with the connection of a run that has made its
  call; `Calm.execute` leads from the one to the other, and `Open.leave` back.
* `Asks` says what a command line asks for, and that its settings lead to the daemon.
* `Calm.run_of_carryOut` puts the parts of a run together.
-/

set_option autoImplicit false

namespace TokenBroker
namespace Control

open CommandLine Client Simulation Simulation.Deployment

variable {r : Registry} {scope : IdentityScope} {endpoint : Endpoint} {name : String}
  {d d' : Deployment} {i i' : Instance} {t t' : Tree} {c : Client} {targets : Place → Prop}
  {size : Nat}

/-! ## Between two runs -/

/-- A daemon with room for one more client, and no client that goes by a name. -/
structure Calm (r : Registry) (scope : IdentityScope) (endpoint : Endpoint) (name : String)
    (d : Deployment) (i : Instance) : Prop extends Hosted r scope endpoint d i where
  unknown : ∀ c ∈ d.clients, c.name ≠ name
  room : i.running.server.active.length < i.running.server.permits

theorem Calm.later (hcalm : Calm r scope endpoint name d i) (time : Nat) :
    Calm r scope endpoint name { d with now := time } i :=
  ⟨hcalm.toHosted.later time, hcalm.unknown, hcalm.room⟩

/-- The deployment with another file tree. -/
def withTree (d : Deployment) (t : Tree) : Deployment :=
  { d with host := { d.host with tree := t } }

theorem answered_withTree {key : IdentityKey} {mail : Bytes}
    (hanswered : d.Answered i name key mail) (t : Tree) :
    (withTree d t).Answered i name key mail := by
  obtain ⟨hd, k, h, hlinked, hidle⟩ := hanswered
  exact ⟨⟨hd.only, hd.patient, hd.settled, hd.handlers, hd.served, hd.numbered⟩, k, h,
    ⟨⟨hlinked.present, hlinked.mine, hlinked.others⟩, hlinked.handler⟩, hidle⟩

theorem keeps_withTree (name : String) (d : Deployment) (i : Instance) (t : Tree) :
    Keeps name d i (withTree d t) i where
  service := rfl
  listener := rfl
  permits := rfl
  now := rfl
  names := rfl
  listeners := rfl
  others := fun _ _ _ _ _ h => ⟨⟨h.present, h.mine, h.others⟩, h.handler⟩
  parted := fun _ _ _ _ h => ⟨⟨h.present, h.mine, h.others⟩, h.unserved⟩
  strangers := fun _ _ => id

theorem socket_of_reaches {h : Host} {listener : Nat} {p : Place}
    (hreaches : h.Reaches endpoint listener (some p)) :
    ∃ mode, h.tree.find? p = some (.socket mode listener) := by
  cases hreaches with
  | file haddress hlocate hfind halive => exact ⟨_, hfind⟩

/-- A daemon is found as before when a user has done what passes it by. -/
theorem hosted_of_passes (hhosted : Hosted r scope endpoint d i) (hkeeps : Keeps name d i d' i')
    (horderly : d'.Orderly i') (hpasses : r.Passes targets d.host.tree d'.host.tree) :
    Hosted r scope endpoint d' i' where
  orderly := horderly
  service := hkeeps.service.trans hhosted.service
  reached := by
    obtain ⟨file, hreaches, hfile⟩ := hhosted.reached
    refine ⟨file, ?_, hfile⟩
    rw [hkeeps.listener]
    refine hreaches.of_stays hkeeps.names hkeeps.listeners hpasses.directories
      hpasses.ready.wellFormed fun p e hp hfind => ?_
    subst hp
    obtain ⟨mode, hsocket⟩ := socket_of_reaches hreaches
    rw [hpasses.sockets p mode _ (fun key heq => hfile key (congrArg some heq)) hsocket, ← hsocket,
      hfind]
  ready := hpasses.ready

/-! ## A call -/

/-- A client that has made its call, on the connection that it has opened for it. -/
structure Open (name : String) (key : IdentityKey) (d : Deployment) (i : Instance) (c : Client)
    (d' : Deployment) (i' : Instance) : Prop extends Keeps name d i d' i' where
  answered : d'.Answered i' name key []
  farewell : c.farewell? = some (.hangUp false)
  length : i'.running.server.active.length = i.running.server.active.length + 1

/-- **The call of a client that has just been made ends as at first hand.** -/
theorem Calm.execute (hcalm : Calm r scope endpoint name d i) (uid : UInt32) {s : ClientSettings}
    (hmeets : Endpoint.parse s.endpoint = .ok endpoint) {call : Call}
    (hasked : (Client.fresh s).Carries i call.payload)
    (htold : (Client.fresh s).Carries i (r.dispatch d.now (.resolve scope uid) call.command
      call.payload d.host.tree).1.payload) :
    ∃ ended c' d' i', (Client.fresh s).execute (remote name uid) none call.command call.payload d
        = (ended, c', d')
      ∧ call.wrap ended
        = (call.direct r (.resolve scope uid) (UInt64.ofNat d.now) d.host.tree).1
      ∧ d'.host.tree
        = (call.direct r (.resolve scope uid) (UInt64.ofNat d.now) d.host.tree).2
      ∧ Open name (.resolve scope uid) d i c' d' i' := by
  have hscope := hcalm.toHosted.scope_eq
  have hlimit := hcalm.toHosted.limit_eq
  have hreply : i.running.service.dispatch d.now (.resolve i.running.service.scope uid)
      call.command call.payload d.host.tree
      = r.dispatch d.now (.resolve scope uid) call.command call.payload d.host.tree := by
    rw [hscope, hcalm.service]
    rfl
  obtain ⟨c', d', i', hexecute, -, hsocket, hrested, -, hkeeps, htree, hlength⟩ :=
    execute_rested ⟨hasked, call.payload_bare, htold⟩ hcalm.orderly
      (rested_fresh s hcalm.unknown) hmeets hcalm.toHosted.connect? (fun _ => hcalm.room) hreply
  rw [hscope] at hrested
  obtain ⟨hwrap, hsame⟩ :=
    Call.wrap_dispatch (hlimit ▸ hasked.limit) (.resolve scope uid) d.now d.host.tree
  obtain ⟨hnone, -⟩ | ⟨socket, hthere, hquiet, hanswered⟩ := hrested.connection
  · rw [hnone] at hsocket
    cases hsocket
  · refine ⟨_, c', d', i', hexecute, hwrap, htree.trans hsame, hkeeps, hanswered, ?_, hlength⟩
    rw [farewell?, hthere, Option.map_some, Socket.farewell, hquiet.unread]
    rfl

/-- **When the client has gone, the daemon is ready for the next run**, whatever the user has done
with files of his own. -/
theorem Open.leave {key : IdentityKey} (hopen : Open name key d i c d' i')
    (hcalm : Calm r scope endpoint name d i) (hpasses : r.Passes targets d.host.tree t)
    (uid : UInt32) :
    ∃ i'', Calm r scope endpoint name (c.disconnect (remote name uid) (withTree d' t)).2 i''
      ∧ (c.disconnect (remote name uid) (withTree d' t)).2.host.tree = t := by
  have hclose : (c.disconnect (remote name uid) (withTree d' t)).2
      = (withTree d' t).hangUp name (.hangUp false) := by
    rw [disconnect, hopen.farewell]
    rfl
  obtain ⟨i'', horderly, hunknown, hloss⟩ := (answered_withTree hopen.answered t).hangUp false
  have hkeeps := (hopen.toKeeps.trans (keeps_withTree name d' i' t)).trans hloss.toKeeps
  have htree : ((withTree d' t).hangUp name (.hangUp false)).host.tree = t := hloss.tree
  have hlength := hloss.length
  have hroom := hcalm.room
  rw [hclose]
  refine ⟨i'', ⟨hosted_of_passes hcalm.toHosted hkeeps horderly (htree ▸ hpasses), hunknown, ?_⟩,
    htree⟩
  rw [hkeeps.permits]
  have := hopen.length
  omega

/-! ## What is asked for -/

/-- The settings of a file with those of the command line over them. -/
def overlay (a : Arguments) (base : ClientSettings) : ClientSettings :=
  { base with
    endpoint := a.endpoint.getD base.endpoint
    responseTimeoutMs := a.timeoutMs.getD base.responseTimeoutMs }

/-- The settings that the command line starts from: those of a file, if it names one.  That file is
neither in the registry nor where tokens are written to. -/
inductive Based (r : Registry) (targets : Place → Prop) (t : Tree) :
    Option String → ClientSettings → Prop
  | plain : Based r targets t none {}
  | file {path : String} {p : Place} {content : Bytes} {base : ClientSettings}
      (hshows : t.Shows path p content) (hout : ¬ r.place <+: p) (hfree : ¬ targets p)
      (hload : ClientSettings.load (.ok content) = .ok base) : Based r targets t (some path) base

theorem settings_of_based {a : Arguments} {base : ClientSettings}
    (h : Based r targets d.host.tree a.settings base) (ht : d.host.tree.WellFormed) (uid : UInt32) :
    settings (surroundings name uid) a d = .ok (overlay a base) := by
  generalize hnamed : a.settings = named at h
  cases h with
  | plain => simp only [settings, hnamed]; rfl
  | @file path p content base hshows hout hfree hload =>
    have hread : (surroundings name uid).readFile path d = .ok content := hshows.readPath ht
    simp only [settings, hnamed, hread, hload]
    rfl

theorem Based.of_passes {named : Option String} {base : ClientSettings}
    (h : Based r targets t named base) (hpasses : r.Passes targets t t') :
    Based r targets t' named base := by
  cases h with
  | plain => exact .plain
  | file hshows hout hfree hload =>
    exact .file (hshows.of_keeps hpasses.directories hpasses.ready.wellFormed
      (hpasses.elsewhere _ hout hfree)) hout hfree hload

/-- A command line asks for something, and its settings lead to the daemon and allow for a token of
some size. -/
structure Asks (r : Registry) (targets : Place → Prop) (endpoint : Endpoint) (size : Nat) (t : Tree)
    (words : List String) (request : Request) : Prop where
  understood : ∃ a base, Arguments.ofWords words = .ok a ∧ a.request = request
    ∧ Based r targets t a.settings base
    ∧ Endpoint.parse (overlay a base).endpoint = .ok endpoint
    ∧ size ≤ (overlay a base).maxPayload

/-- A command line asks for the same when its user has done what passes its settings by. -/
theorem Asks.of_passes {words : List String} {request : Request}
    (h : Asks r targets endpoint size t words request) (hpasses : r.Passes targets t t') :
    Asks r targets endpoint size t' words request := by
  obtain ⟨a, base, hwords, hrequest, hbased, hmeets, hsize⟩ := h.understood
  exact ⟨a, base, hwords, hrequest, hbased.of_passes hpasses, hmeets, hsize⟩

/-! ## Runs -/

theorem withTree_self (h : d.host.tree = t) : withTree d t = d := by
  subst h
  rfl

/-- **A run that makes a call** reports how it ended, and leaves the daemon ready for the next
run. -/
theorem Calm.run_of_carryOut (hcalm : Calm r scope endpoint name d i) {uid : UInt32}
    {key : IdentityKey} {words : List String} {request : Request} {report : Report}
    (hasks : Asks r targets endpoint size d.host.tree words request)
    (hcarry : ∀ s : ClientSettings, Endpoint.parse s.endpoint = .ok endpoint →
      size ≤ s.maxPayload → ∃ c d' i',
        carryOut (surroundings name uid) request (Client.fresh s) d
            = (some report, c, withTree d' t)
          ∧ Open name key d i c d' i')
    (hpasses : r.Passes targets d.host.tree t) :
    ∃ d'' i'', Control.run (surroundings name uid) words d = (some report, d'')
      ∧ Calm r scope endpoint name d'' i'' ∧ d''.host.tree = t := by
  obtain ⟨a, base, hwords, rfl, hbased, hmeets, hsize⟩ := hasks.understood
  obtain ⟨c, d', i', hcarry, hopen⟩ := hcarry _ hmeets hsize
  obtain ⟨i'', hcalm', htree⟩ := hopen.leave hcalm hpasses uid
  refine ⟨_, i'', ?_, hcalm', htree⟩
  rw [Control.run, hwords]
  dsimp only
  rw [settings_of_based hbased hcalm.ready.wellFormed uid]
  dsimp only
  rw [hcarry]
  rfl

/-- What a user wants with a token that was stored. -/
inductive Wish where
  /-- See it. -/
  | print
  /-- Have it in a file. -/
  | write (path : String)
  | delete
  deriving DecidableEq

/-- What is asked of the control program for that. -/
def Wish.request : Wish → Request
  | print => .read none
  | write path => .read (some path)
  | delete => .delete

/-- A token that is to be stored comes from a text that spells it, or from a file that holds it. -/
def Yields (t : Tree) (source : TokenSource) (blob : Bytes) : Prop :=
  match source with
  | .spelled text => Spells text blob
  | .file path => t.readPath path = .ok blob

theorem Yields.token {source : TokenSource} {blob : Bytes}
    (h : Yields d.host.tree source blob) (uid : UInt32) :
    token (surroundings name uid) source d = .ok blob := by
  cases source with
  | spelled text => rw [Control.token, spelledToken_ok_iff.2 h]
  | file path =>
    have hread : (surroundings name uid).readFile path d = .ok blob := h
    rw [Control.token, hread]

section
variable (hcalm : Calm r scope endpoint name d i) (uid : UInt32) {s : ClientSettings}
  (hmeets : Endpoint.parse s.endpoint = .ok endpoint) (hmost : size ≤ s.maxPayload)
  (hfits : size ≤ r.maxObjectSize) (hdeclared : size < UInt32.size)
include hcalm hmeets hmost hfits hdeclared

/-- A call is made if neither what is asked nor what is told is too large. -/
theorem Calm.call (call : Call) (hasked : call.payload.length ≤ size)
    (htold : call = .read → ∀ blob, r.read d.host.tree (.resolve scope uid) = .ok blob →
      blob.length ≤ size) :
    ∃ ended c' d' i', (Client.fresh s).execute (remote name uid) none call.command call.payload d
        = (ended, c', d')
      ∧ call.wrap ended
        = (call.direct r (.resolve scope uid) (UInt64.ofNat d.now) d.host.tree).1
      ∧ d'.host.tree
        = (call.direct r (.resolve scope uid) (UInt64.ofNat d.now) d.host.tree).2
      ∧ Open name (.resolve scope uid) d i c' d' i' := by
  have hcarries : ∀ {bytes : Bytes}, bytes.length ≤ size → (Client.fresh s).Carries i bytes :=
    fun hle => ⟨Nat.le_trans hle hmost, hcalm.toHosted.limit_eq ▸ Nat.le_trans hle hfits,
      Nat.lt_of_le_of_lt hle hdeclared⟩
  refine hcalm.execute uid hmeets (hcarries hasked) (hcarries ?_)
  cases call with
  | store blob =>
    show (Reply.ofOutcome _).payload.length ≤ size
    rw [Registry.payload_ofOutcome]
    exact Nat.zero_le _
  | read =>
    rw [Call.command, Call.payload, Registry.dispatch]
    split
    · next blob hread => exact htold rfl blob hread
    · exact Nat.zero_le _
  | delete =>
    show (Reply.ofOutcome _).payload.length ≤ size
    rw [Registry.payload_ofOutcome]
    exact Nat.zero_le _

/-- What a client is told that reads. -/
theorem Calm.read {token : Option Bytes}
    (hholds : r.Holds d.host.tree (.resolve scope uid) token)
    (htoken : ∀ blob ∈ token, blob.length ≤ size) :
    ∃ ended c' d' i', (Client.fresh s).read (surroundings name uid).remote none d = (ended, c', d')
      ∧ ended = token.elim (.failed .notFound) .ok
      ∧ d'.host.tree = d.host.tree ∧ Open name (.resolve scope uid) d i c' d' i' := by
  obtain ⟨ended, c', d', i', hexecute, hwrap, htree, hopen⟩ :=
    hcalm.call uid hmeets hmost hfits hdeclared .read (Nat.zero_le _)
      fun _ blob hread => htoken blob (by
        cases token with
        | none => cases hholds.symm.trans hread
        | some other => exact congrArg some (Except.ok.inj (hholds.symm.trans hread)))
  refine ⟨ended, c', d', i', hexecute, ?_, htree, hopen⟩
  have hended : ended = .direct (r.read d.host.tree (.resolve scope uid)) :=
    Answer.token.inj hwrap
  cases token with
  | none => exact hended.trans (congrArg CallEnd.direct hholds)
  | some blob => exact hended.trans (congrArg CallEnd.direct hholds)

/-- A token that is there is printed. -/
theorem Calm.carryOut_print {blob : Bytes}
    (hholds : r.Holds d.host.tree (.resolve scope uid) (some blob)) (hblob : blob.length ≤ size) :
    ∃ c' d' i', carryOut (surroundings name uid) (.read none) (Client.fresh s) d
        = (some (done (Hex.encode blob ++ "\n")), c', withTree d' d.host.tree)
      ∧ Open name (.resolve scope uid) d i c' d' i' := by
  obtain ⟨ended, c', d', i', hread, rfl, htree, hopen⟩ :=
    hcalm.read uid hmeets hmost hfits hdeclared hholds fun _ h => Option.some.inj h ▸ hblob
  refine ⟨c', d', i', ?_, hopen⟩
  rw [withTree_self htree, carryOut, hread]
  rfl

/-- A token that is there is written to a file. -/
theorem Calm.carryOut_write {blob : Bytes} {path : String}
    (hholds : r.Holds d.host.tree (.resolve scope uid) (some blob)) (hblob : blob.length ≤ size)
    (hwrite : d.host.tree.writePath path blob = .ok t) :
    ∃ c' d' i', carryOut (surroundings name uid) (.read (some path)) (Client.fresh s) d
        = (some (done ("Wrote " ++ toString blob.length ++ " bytes to " ++ path ++ "\n")), c',
            withTree d' t)
      ∧ Open name (.resolve scope uid) d i c' d' i' := by
  obtain ⟨ended, c', d', i', hread, rfl, htree, hopen⟩ :=
    hcalm.read uid hmeets hmost hfits hdeclared hholds fun _ h => Option.some.inj h ▸ hblob
  refine ⟨c', d', i', ?_, hopen⟩
  have hwritten : (surroundings name uid).writeFile path blob d' = (.ok (), withTree d' t) := by
    simp only [surroundings, htree, hwrite]
    rfl
  rw [carryOut, hread]
  simp only [Option.elim_some, handOver, hwritten]

/-- Where there is no token, none is handed over. -/
theorem Calm.carryOut_read_absent
    (hholds : r.Holds d.host.tree (.resolve scope uid) none) (target : Option String) :
    ∃ c' d' i', carryOut (surroundings name uid) (.read target) (Client.fresh s) d
        = (some (.ofComplaint .absent), c', withTree d' d.host.tree)
      ∧ Open name (.resolve scope uid) d i c' d' i' := by
  obtain ⟨ended, c', d', i', hread, rfl, htree, hopen⟩ :=
    hcalm.read uid hmeets hmost hfits hdeclared hholds nofun
  refine ⟨c', d', i', ?_, hopen⟩
  rw [withTree_self htree, carryOut, hread]
  rfl

/-- A token is removed, if there is one. -/
theorem Calm.carryOut_delete :
    ∃ c' d' i', carryOut (surroundings name uid) .delete (Client.fresh s) d
        = (reportOn (fun _ => done "Auth token deleted\n")
              (.direct (r.delete d.host.tree (.resolve scope uid)).1), c',
            withTree d' (r.delete d.host.tree (.resolve scope uid)).2)
      ∧ Open name (.resolve scope uid) d i c' d' i' := by
  obtain ⟨ended, c', d', i', hexecute, hwrap, htree, hopen⟩ :=
    hcalm.call uid hmeets hmost hfits hdeclared .delete (Nat.zero_le _) nofun
  rw [Call.direct_delete] at hwrap htree
  have hended : ended.discard = .direct (r.delete d.host.tree (.resolve scope uid)).1 :=
    Answer.outcome.inj hwrap
  have hcall : (Client.fresh s).delete (surroundings name uid).remote none d
      = (ended.discard, c', d') := by
    rw [Client.delete]
    exact congrArg (fun result => (CallEnd.discard result.1, result.2)) hexecute
  refine ⟨c', d', i', ?_, hopen⟩
  rw [withTree_self htree, carryOut, hcall, hended]

end

end Control
end TokenBroker
