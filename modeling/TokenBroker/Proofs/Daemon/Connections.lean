import TokenBroker.Daemon.Server
import TokenBroker.Proofs.Daemon.Handler
/-!
# Many connections

A server runs its connections one after the other.  Between two inputs each of them is at rest, so
that an input concerns only the connection that it comes to.

* `runActive_cons` is one connection before the others.
* `Settled` is a server between two inputs, and `Settled.resume` says that every input leaves it so.
* `next_move` is what a client does on its connection, and `next_connect` is a client that is served
  at once.
-/

set_option autoImplicit false

namespace TokenBroker
namespace Server

open Handler

variable {σ : Type} {service : Service σ} {s : Server} {now : Nat} {w : σ}

/-! ## One after the other -/

/-- What is run after some connections only adds to what is known. -/
theorem foldl_runNext (stopping : Bool) (active : List (Nat × Handler)) (p : Progress σ) :
    active.foldl (fun p (client, h) => p.runNext service now stopping client h) p
      = let q := runActive service now stopping active p.state
        ⟨p.happenings ++ q.happenings, p.active ++ q.active, q.state⟩ := by
  induction active generalizing p with
  | nil => simp [runActive]
  | cons item rest ih =>
    obtain ⟨client, h⟩ := item
    simp only [runActive, List.foldl_cons] at ih ⊢
    rw [ih, ih (Progress.runNext service now stopping ⟨[], [], p.state⟩ client h)]
    simp only [Progress.runNext]
    split <;> simp

/-- A connection and all those after it. -/
theorem runActive_cons (stopping : Bool) (client : Nat) (h : Handler) (rest : List (Nat × Handler))
    (w : σ) : runActive service now stopping ((client, h) :: rest) w
      = let first := h.run service now stopping w
        let more := runActive service now stopping rest first.2.2
        ⟨tagged client first.1 ++ more.happenings,
          (if first.2.1.isEnded then [] else [(client, first.2.1)]) ++ more.active,
          more.state⟩ := by
  rw [runActive, List.foldl_cons, foldl_runNext]
  simp only [Progress.runNext]
  split <;> simp

theorem runActive_append (stopping : Bool) (a b : List (Nat × Handler)) (w : σ) :
    runActive service now stopping (a ++ b) w
      = let p := runActive service now stopping a w
        let q := runActive service now stopping b p.state
        ⟨p.happenings ++ q.happenings, p.active ++ q.active, q.state⟩ := by
  rw [runActive, List.foldl_append, foldl_runNext]
  rfl

/-- Connections at rest go on being so. -/
theorem runActive_of_rests {active : List (Nat × Handler)}
    (hgoing : ∀ item ∈ active, item.2.isEnded = false) (hrests : ∀ item ∈ active, item.2.Rests)
    (service : Service σ) (now : Nat) (w : σ) :
    runActive service now false active w = ⟨[], active, w⟩ := by
  induction active generalizing w with
  | nil => rfl
  | cons item rest ih =>
    obtain ⟨client, h⟩ := item
    have hrun := hrests (client, h) List.mem_cons_self σ service now w
    have hgoes := hgoing (client, h) List.mem_cons_self
    dsimp only at hrun hgoes
    rw [runActive_cons, hrun]
    simp only [hgoes, Bool.false_eq_true, if_false,
      ih (fun item hitem => hgoing item (List.mem_cons_of_mem _ hitem))
        (fun item hitem => hrests item (List.mem_cons_of_mem _ hitem))]
    rfl

/-- Whatever was run has not ended, and is at rest. -/
theorem rests_of_runActive (active : List (Nat × Handler)) (w : σ) :
    ∀ item ∈ (runActive service now false active w).active,
      item.2.isEnded = false ∧ item.2.Rests := by
  induction active generalizing w with
  | nil => intro item hitem; cases hitem
  | cons first rest ih =>
    obtain ⟨client, h⟩ := first
    intro item hitem
    rw [runActive_cons] at hitem
    rcases List.mem_append.1 hitem with hfirst | hrest
    · by_cases hended : (h.run service now false w).2.1.isEnded = true
      · rw [if_pos hended] at hfirst
        cases hfirst
      · rw [if_neg hended] at hfirst
        obtain rfl := List.mem_singleton.1 hfirst
        exact ⟨by rwa [Bool.not_eq_true] at hended, rests_of_run service now h w⟩
    · exact ih _ item hrest

/-- Inputs that come after others are taken where these lead. -/
theorem run_append (service : Service σ) (first rest : List (Nat × Input)) (s : Server) (w : σ) :
    s.run service w (first ++ rest)
      = let before := s.run service w first
        let after := before.2.1.run service before.2.2 rest
        (before.1 ++ after.1, after.2) := by
  induction first generalizing s w with
  | nil => rfl
  | cons input inputs ih =>
    obtain ⟨now, input⟩ := input
    simp only [List.cons_append, Server.run, ih, List.append_assoc]

/-! ## Between two inputs -/

/-- A server that goes on, where nobody waits to be accepted and every connection is at rest. -/
structure Settled (s : Server) : Prop where
  accepted : s.waiting = []
  running : s.stopping = false
  going : ∀ item ∈ s.active, item.2.isEnded = false
  resting : ∀ item ∈ s.active, item.2.Rests

theorem settled_ofLimit (maxConnections : Nat) : (ofLimit maxConnections).Settled where
  accepted := rfl
  running := rfl
  going := fun _ hitem => by cases hitem
  resting := fun _ hitem => by cases hitem

theorem resume_of_accepted (haccepted : s.waiting = []) (hrunning : s.stopping = false) :
    resume service now s w
      = let p := runActive service now false s.active w
        (p.happenings, { s with active := p.active }, p.state) := by
  simp only [resume, hrunning, haccepted, acceptWaiting, Bool.false_eq_true, if_false]

theorem settled_resume (service : Service σ) (now : Nat) (haccepted : s.waiting = [])
    (hrunning : s.stopping = false) (w : σ) : (resume service now s w).2.1.Settled := by
  rw [resume_of_accepted haccepted hrunning]
  exact {
    accepted := haccepted
    running := hrunning
    going := fun item hitem => (rests_of_runActive s.active w item hitem).1
    resting := fun item hitem => (rests_of_runActive s.active w item hitem).2 }

/-- A settled server has nothing to do. -/
theorem Settled.resume (hsettled : s.Settled) (service : Service σ) (now : Nat) (w : σ) :
    s.resume service now w = ([], s, w) := by
  rw [resume_of_accepted hsettled.accepted hsettled.running,
    runActive_of_rests hsettled.going hsettled.resting]

/-! ## What a client does -/

/-- What a client does on its connection. -/
inductive Move where
  | send (arrival : Arrival)
  /-- The client reads so many bytes. -/
  | take (count : Nat)

/-- A move as an input of the server. -/
def Move.input (client : Nat) : Move → Input
  | send arrival => .deliver client arrival
  | take count => .consume client count

/-- What a move changes for the handler of the client. -/
def Move.apply : Move → Handler → Handler
  | send arrival, h => { h with socket := h.socket.receive arrival }
  | take count, h => { h with outlet := h.outlet.consume count }

@[simp] theorem Move.apply_identity (move : Move) (h : Handler) :
    (move.apply h).identity = h.identity := by
  cases move <;> rfl

/-- Change the handlers of a client. -/
def touch (client : Nat) (f : Handler → Handler) (active : List (Nat × Handler)) :
    List (Nat × Handler) :=
  active.map fun (other, h) => if other = client then (other, f h) else (other, h)

@[simp] theorem touch_cons (client other : Nat) (f : Handler → Handler) (h : Handler)
    (rest : List (Nat × Handler)) : touch client f ((other, h) :: rest)
      = (other, if other = client then f h else h) :: touch client f rest := by
  rw [touch, List.map_cons]
  by_cases heq : other = client
  · simp only [if_pos heq, touch]
  · simp only [if_neg heq, touch]

/-- What holds of every handler and does not mind the change holds of them afterwards. -/
theorem forall_mem_touch {P : Handler → Prop} {active : List (Nat × Handler)}
    (hall : ∀ item ∈ active, P item.2) (client : Nat) {f : Handler → Handler}
    (hchange : ∀ h, P h → P (f h)) : ∀ item ∈ touch client f active, P item.2 := by
  intro item hitem
  obtain ⟨⟨other, h⟩, hmem, rfl⟩ := List.mem_map.1 hitem
  have hbefore := hall _ hmem
  dsimp only
  split
  · exact hchange h hbefore
  · exact hbefore

theorem next_move (hsettled : s.Settled) (client : Nat) (move : Move) :
    s.next service now (move.input client) w
      = Server.resume service now { s with active := touch client move.apply s.active } w := by
  have hwaiting := hsettled.accepted
  cases move with
  | send arrival => simp only [next, Move.input, receive, hwaiting, List.map_nil]; rfl
  | take count => rfl

theorem Settled.next_move (hsettled : s.Settled) (service : Service σ) (now client : Nat)
    (move : Move) (w : σ) : (s.next service now (move.input client) w).2.1.Settled := by
  rw [Server.next_move hsettled]
  have haccepted : (⟨s.permits, s.waiting, touch client move.apply s.active, s.stopping⟩
      : Server).waiting = [] := hsettled.accepted
  exact settled_resume service now haccepted hsettled.running w

/-- A client that connects while there are permits is served at once. -/
theorem next_connect (hsettled : s.Settled) (hpermit : s.active.length < s.permits)
    (service : Service σ) (now client : Nat) (uid : UInt32) (outlet : Outlet) (w : σ) :
    s.next service now (.connect client (some uid) outlet) w
      = ([(client, .started)], { s with
          active := s.active ++ [(client, newcomer service.scope uid outlet now)] }, w) := by
  have hrun := rests_newcomer service.scope uid outlet now σ service now w
  have hgoing : (newcomer service.scope uid outlet now).isEnded = false := rfl
  have hactive := runActive_of_rests hsettled.going hsettled.resting service now w
  obtain ⟨hwaiting, hstopping, -, -⟩ := hsettled
  simp only [next, hstopping, Bool.false_eq_true, if_false, hwaiting, List.nil_append,
    Server.resume, hactive, acceptWaiting, hpermit, if_true, start_some, Progress.runNext, hrun,
    hgoing]
  cases s
  dsimp only at hwaiting
  subst hwaiting
  rfl

/-! ## One connection among others -/

theorem touch_of_ne {client : Nat} {active : List (Nat × Handler)}
    (hne : ∀ item ∈ active, item.1 ≠ client) (f : Handler → Handler) :
    touch client f active = active := by
  induction active with
  | nil => rfl
  | cons item rest ih =>
    obtain ⟨other, h⟩ := item
    rw [touch_cons, if_neg (hne _ List.mem_cons_self),
      ih fun item hitem => hne item (List.mem_cons_of_mem _ hitem)]

theorem touch_append (client : Nat) (f : Handler → Handler) (a b : List (Nat × Handler)) :
    touch client f (a ++ b) = touch client f a ++ touch client f b := List.map_append

/-- What a client does concerns its own connection alone. -/
theorem next_move_among {client : Nat} {h h' : Handler} {a b : List (Nat × Handler)} {w' : σ}
    {events : List Event} {move : Move} (hsettled : s.Settled)
    (hactive : s.active = a ++ (client, h) :: b) (happart : ∀ item ∈ a ++ b, item.1 ≠ client)
    (hrun : Handler.run service now false (move.apply h) w = (events, h', w')) :
    s.next service now (move.input client) w
      = (tagged client events,
          { s with active := a ++ ((if h'.isEnded then [] else [(client, h')]) ++ b) }, w') := by
  have hmem : ∀ item ∈ a ++ b, item ∈ s.active := by
    intro item hitem
    rw [hactive]
    rcases List.mem_append.1 hitem with ha | hb
    · exact List.mem_append_left _ ha
    · exact List.mem_append_right _ (List.mem_cons_of_mem _ hb)
  have hquiet : ∀ (part : List (Nat × Handler)) (w : σ), (∀ item ∈ part, item ∈ a ++ b) →
      runActive service now false part w = ⟨[], part, w⟩ := fun part w hpart =>
    runActive_of_rests (fun item hitem => hsettled.going item (hmem item (hpart item hitem)))
      (fun item hitem => hsettled.resting item (hmem item (hpart item hitem))) service now w
  have htouch : touch client move.apply s.active = a ++ (client, move.apply h) :: b := by
    rw [hactive, touch_append, touch_cons, if_pos rfl,
      touch_of_ne fun item hitem => happart item (List.mem_append_left _ hitem),
      touch_of_ne fun item hitem => happart item (List.mem_append_right _ hitem)]
  have hall : runActive service now false (a ++ (client, move.apply h) :: b) w
      = ⟨tagged client events, a ++ ((if h'.isEnded then [] else [(client, h')]) ++ b), w'⟩ := by
    rw [runActive_append, hquiet a w fun _ => List.mem_append_left _]
    dsimp only
    rw [runActive_cons, hrun]
    dsimp only
    rw [hquiet b w' fun _ => List.mem_append_right _]
    simp
  rw [next_move hsettled, htouch]
  rw [resume_of_accepted (s := { s with active := a ++ (client, move.apply h) :: b })
    hsettled.accepted hsettled.running]
  dsimp only
  rw [hall]

end Server
end TokenBroker
