import TokenBroker.Proofs.Daemon.Lifetime
import TokenBroker.Proofs.Daemon.Stream
/-!
# Permits

A permit is in use as long as a connection is served, and is free again whatever ends that.

* `Swings` follows the number of connections being served through what happens; `swings_run` says
  that it goes up and down between zero and the number of permits.
* `Steady` is a server between two inputs, and `Steady.admits` says how many of those who connect
  then are served at once: as many as there are permits left.
* `permits_accounted` puts this together: the gauge, the connections being served and the permits
  agree at all times.
-/

set_option autoImplicit false

namespace TokenBroker
namespace Server

open Handler

variable {σ : Type} {service : Service σ} {now limit client k m n : Nat} {w : σ} {s : Server}
  {inputs : List (Nat × Input)} {events : List Event} {ends : Bool}
  {happenings more past : List Happening} {active : List (Nat × Handler)}

/-! ## Up and down -/

/-- The gauge of connections, after some happenings. -/
def gauge (happenings : List Happening) : Int :=
  (Metrics.ofEvents (happenings.map (·.2))).activeConnections

theorem gauge_eq (happenings : List Happening) : gauge happenings
    = happenings.countP (·.2.isStart) - happenings.countP (·.2.isEnd) := by
  rw [gauge, Metrics.activeConnections_ofEvents, List.countP_map, List.countP_map]
  rfl

/-- In what happens, the number of connections being served goes from `n` to `m` and never above
a limit. -/
inductive Swings (limit : Nat) : Nat → Nat → List Happening → Prop
  | nothing {n : Nat} (hlimit : n ≤ limit) : Swings limit n n []
  | up {n m : Nat} {happening : Happening} {rest : List Happening}
      (hstart : happening.2 = .started) (hrest : Swings limit (n + 1) m rest) :
      Swings limit n m (happening :: rest)
  | down {n m : Nat} {happening : Happening} {rest : List Happening} {reset : Bool}
      (hend : happening.2 = .ended reset) (hlimit : n + 1 ≤ limit)
      (hrest : Swings limit n m rest) : Swings limit (n + 1) m (happening :: rest)
  | level {n m : Nat} {happening : Happening} {rest : List Happening}
      (hstart : happening.2.isStart = false) (hend : happening.2.isEnd = false)
      (hrest : Swings limit n m rest) : Swings limit n m (happening :: rest)

theorem Swings.append (hfirst : Swings limit n k happenings) (hmore : Swings limit k m more) :
    Swings limit n m (happenings ++ more) := by
  induction hfirst with
  | nothing => exact hmore
  | up hstart _ ih => exact .up hstart (ih hmore)
  | down hend hlimit _ ih => exact .down hend hlimit (ih hmore)
  | level hstart hend _ ih => exact .level hstart hend (ih hmore)

theorem Swings.start_le (hswings : Swings limit n m happenings) : n ≤ limit := by
  induction hswings with
  | nothing hlimit => exact hlimit
  | up _ _ ih => exact Nat.le_of_succ_le ih
  | down _ hlimit _ _ => exact hlimit
  | level _ _ _ ih => exact ih

/-- The gauge shows the number of connections being served. -/
theorem Swings.gauge_eq (hswings : Swings limit n m happenings) :
    n + gauge happenings = m := by
  induction hswings with
  | nothing => simp [Server.gauge_eq]
  | up hstart _ ih =>
    simp only [Server.gauge_eq, List.countP_cons, hstart, Event.isStart, Event.isEnd] at ih ⊢
    push_cast at ih ⊢
    omega
  | down hend _ _ ih =>
    simp only [Server.gauge_eq, List.countP_cons, hend, Event.isStart, Event.isEnd] at ih ⊢
    push_cast at ih ⊢
    omega
  | level hstart hend _ ih =>
    simp only [Server.gauge_eq, List.countP_cons, hstart, hend, Bool.false_eq_true, if_false,
      Nat.add_zero] at ih ⊢
    exact ih

/-- What happens up to some time swings as well. -/
theorem Swings.upTo (hswings : Swings limit n m happenings) (hpast : past <+: happenings) :
    ∃ k, Swings limit n k past := by
  induction hswings generalizing past with
  | nothing hlimit =>
    obtain rfl := List.prefix_nil.1 hpast
    exact ⟨_, .nothing hlimit⟩
  | up hstart hrest ih =>
    rcases List.prefix_cons_iff.1 hpast with rfl | ⟨tail, rfl, htail⟩
    · exact ⟨_, .nothing (Nat.le_of_succ_le hrest.start_le)⟩
    · exact (ih htail).imp fun _ => .up hstart
  | down hend hlimit hrest ih =>
    rcases List.prefix_cons_iff.1 hpast with rfl | ⟨tail, rfl, htail⟩
    · exact ⟨_, .nothing hlimit⟩
    · exact (ih htail).imp fun _ => .down hend hlimit
  | level hstart hend hrest ih =>
    rcases List.prefix_cons_iff.1 hpast with rfl | ⟨tail, rfl, htail⟩
    · exact ⟨_, .nothing hrest.start_le⟩
    · exact (ih htail).imp fun _ => .level hstart hend

theorem Swings.end_le (hswings : Swings limit n m happenings) : m ≤ limit := by
  induction hswings with
  | nothing hlimit => exact hlimit
  | up _ _ ih => exact ih
  | down _ _ _ ih => exact ih
  | level _ _ _ ih => exact ih

/-- A stretch of one connection. -/
theorem Swings.of_stretch (hstretch : Stretch events ends) (hlimit : n + ends.toNat ≤ limit)
    (client : Nat) : Swings limit (n + ends.toNat) n (tagged client events) := by
  induction hstretch with
  | nothing => exact .nothing hlimit
  | ended reset => exact .down rfl hlimit (.nothing (Nat.le_of_succ_le hlimit))
  | @cons event events ends hinner _ ih =>
    refine .level ?_ ?_ (ih hlimit)
    · cases event <;> first | rfl | cases hinner
    · cases event <;> first | rfl | cases hinner

/-! ## Running, accepting, dropping -/

/-- No connection that is served has ended. -/
def Going (active : List (Nat × Handler)) : Prop := ∀ item ∈ active, item.2.isEnded = false

/-- One connection is run among others, and is kept unless it ends. -/
theorem swings_one {h : Handler} (hgoing : h.isEnded = false) (hlimit : k + 1 ≤ limit)
    (service : Service σ) (now client : Nat) (stopping : Bool) (w : σ) :
    let result := h.run service now stopping w
    let kept := if result.2.1.isEnded then [] else [(client, result.2.1)]
    Swings limit (k + 1) (k + kept.length) (tagged client result.1) := by
  have hstretch := stretch_run service now stopping h w hgoing
  dsimp only
  cases hended : (h.run service now stopping w).2.1.isEnded with
  | false => exact .of_stretch (n := k + 1) (hended ▸ hstretch) hlimit client
  | true => exact .of_stretch (n := k) (hended ▸ hstretch) hlimit client

theorem swings_runActive (hgoing : Going active) (hlimit : k + active.length ≤ limit)
    (service : Service σ) (now : Nat) (stopping : Bool) (w : σ) :
    let p := runActive service now stopping active w
    Swings limit (k + active.length) (k + p.active.length) p.happenings := by
  induction active generalizing k w with
  | nil => exact .nothing hlimit
  | cons item rest ih =>
    obtain ⟨client, h⟩ := item
    rw [List.length_cons] at hlimit ⊢
    have hfirst := swings_one (k := k + rest.length) (hgoing _ List.mem_cons_self) hlimit service
      now client stopping w
    rw [runActive_cons]
    dsimp only at hfirst ⊢
    set kept := if (h.run service now stopping w).2.1.isEnded then []
      else [(client, (h.run service now stopping w).2.1)]
    have hsum : k + kept.length + rest.length = k + rest.length + kept.length :=
      Nat.add_right_comm ..
    have hrest := ih (k := k + kept.length)
      (fun item hitem => hgoing item (List.mem_cons_of_mem _ hitem)) (hsum ▸ hfirst.end_le)
      (h.run service now stopping w).2.2
    rw [List.length_append, ← Nat.add_assoc k kept.length]
    exact hfirst.append (hsum ▸ hrest)

/-- What a connection is like between two inputs. -/
def Quiet (stopping : Bool) (active : List (Nat × Handler)) : Prop :=
  ∀ item ∈ active, item.2.isEnded = false ∧ (stopping = false → item.2.Rests)

theorem Quiet.going {stopping : Bool} (hquiet : Quiet stopping active) : Going active :=
  fun item hitem => (hquiet item hitem).1

theorem quiet_append {stopping : Bool} {a b : List (Nat × Handler)} :
    Quiet stopping (a ++ b) ↔ Quiet stopping a ∧ Quiet stopping b := List.forall_mem_append

theorem quiet_kept (service : Service σ) (now client : Nat) (stopping : Bool) (h : Handler)
    (w : σ) :
    let result := h.run service now stopping w
    Quiet stopping (if result.2.1.isEnded then [] else [(client, result.2.1)]) := by
  intro result item hitem
  split at hitem
  · cases hitem
  · next hgoing =>
    obtain rfl := List.mem_singleton.1 hitem
    refine ⟨by rwa [Bool.not_eq_true] at hgoing, ?_⟩
    rintro rfl
    exact rests_of_run service now h w

theorem quiet_runActive (service : Service σ) (now : Nat) (stopping : Bool)
    (active : List (Nat × Handler)) (w : σ) :
    Quiet stopping (runActive service now stopping active w).active := by
  induction active generalizing w with
  | nil =>
    intro item hitem
    cases hitem
  | cons item rest ih =>
    obtain ⟨client, h⟩ := item
    rw [runActive_cons]
    exact quiet_append.2 ⟨quiet_kept service now client stopping h w, ih _⟩

/-- A connection that is run behind others. -/
theorem runNext_eq (service : Service σ) (now client : Nat) (stopping : Bool) (p : Progress σ)
    (h : Handler) : p.runNext service now stopping client h
      = let result := h.run service now stopping p.state
        ⟨p.happenings ++ tagged client result.1,
          p.active ++ (if result.2.1.isEnded then [] else [(client, result.2.1)]),
          result.2.2⟩ := by
  simp only [Progress.runNext]
  split <;> simp

/-- One more client is accepted. -/
theorem swings_acceptOne {p : Progress σ} (hquiet : Quiet false p.active)
    (hfree : p.active.length < limit) (hswings : Swings limit n p.active.length p.happenings)
    (service : Service σ) (now : Nat) (c : Waiting) :
    let accepted := acceptOne service now p c
    Quiet false accepted.active
      ∧ Swings limit n accepted.active.length accepted.happenings := by
  rw [acceptOne]
  cases hstart : Handler.start service.scope c.uid c.socket c.outlet now with
  | mk events started =>
    cases started with
    | none =>
      obtain rfl := events_of_start_none hstart
      exact ⟨hquiet, hswings.append (.level rfl rfl (.nothing (Nat.le_of_lt hfree)))⟩
    | some h =>
      obtain ⟨rfl, -, -, hphase, -⟩ := of_start_some hstart
      have hgoing : h.isEnded = false := by rw [isEnded, hphase]
      have hone := swings_one hgoing hfree service now c.client false p.state
      have hkept := quiet_kept service now c.client false h p.state
      dsimp only at hone hkept ⊢
      rw [runNext_eq]
      dsimp only
      rw [List.append_assoc, List.length_append]
      exact ⟨quiet_append.2 ⟨hquiet, hkept⟩, hswings.append (.up rfl hone)⟩

theorem swings_acceptWaiting {p : Progress σ} (hquiet : Quiet false p.active)
    (hswings : Swings limit n p.active.length p.happenings) (service : Service σ) (now : Nat)
    (waiting : List Waiting) :
    let accepted := (acceptWaiting service now limit p waiting).1
    Quiet false accepted.active
      ∧ Swings limit n accepted.active.length accepted.happenings := by
  induction waiting generalizing p with
  | nil => exact ⟨hquiet, hswings⟩
  | cons c rest ih =>
    rw [acceptWaiting_cons]
    split
    · next hfree =>
      obtain ⟨hquiet', hswings'⟩ := swings_acceptOne hquiet hfree hswings service now c
      exact ih hquiet' hswings'
    · exact ⟨hquiet, hswings⟩

theorem dropOverdue_cons (idle : Option Nat) (now client : Nat) (h : Handler)
    (rest : List (Nat × Handler)) : dropOverdue idle now ((client, h) :: rest)
      = let more := dropOverdue idle now rest
        if isOverdue idle now h then (tagged client h.finish.1 ++ more.1, more.2)
        else (more.1, (client, h) :: more.2) := by
  by_cases hdue : isOverdue idle now h = true <;> simp [dropOverdue, hdue]

/-- Connections that are overdue are ended, and the others are left. -/
theorem swings_dropOverdue (hlimit : k + active.length ≤ limit) (idle : Option Nat) (now : Nat) :
    Swings limit (k + active.length) (k + (dropOverdue idle now active).2.length)
      (dropOverdue idle now active).1 := by
  induction active generalizing k with
  | nil => exact .nothing hlimit
  | cons item rest ih =>
    obtain ⟨client, h⟩ := item
    rw [dropOverdue_cons]
    rw [List.length_cons] at hlimit ⊢
    dsimp only
    split
    · exact .down rfl hlimit (ih (Nat.le_of_succ_le hlimit))
    · have hrest := ih (k := k + 1) (by omega)
      simp only [Nat.add_right_comm k 1] at hrest
      exact hrest

/-- Nobody who is turned away was served. -/
theorem swings_refused (hlimit : n ≤ limit) (waiting : List Waiting) :
    Swings limit n n (waiting.flatMap fun c => tagged c.client [.rejected true]) := by
  induction waiting with
  | nil => exact .nothing hlimit
  | cons c rest ih => exact .level rfl rfl ih

/-! ## Runs -/

/-- What a server is like between two inputs. -/
structure Steady (s : Server) : Prop where
  quiet : Quiet s.stopping s.active
  within : s.active.length ≤ s.permits
  prompt : s.Prompt

theorem steady_ofLimit (maxConnections : Nat) : (ofLimit maxConnections).Steady where
  quiet := fun _ hitem => by cases hitem
  within := Nat.zero_le _
  prompt := fun _ hwaiting => absurd rfl hwaiting

theorem steady_resume (hgoing : Going s.active) (hwithin : s.active.length ≤ s.permits)
    (service : Service σ) (now : Nat) (w : σ) :
    let result := s.resume service now w
    result.2.1.Steady ∧ Swings s.permits s.active.length result.2.1.active.length result.1 := by
  have hquiet := quiet_runActive service now s.stopping s.active w
  have hzero : 0 + s.active.length ≤ s.permits := by rwa [Nat.zero_add]
  have hswings := swings_runActive hgoing hzero service now s.stopping w
  have hprompt := prompt_resume service now s w
  simp only [Nat.zero_add] at hswings
  rw [Server.resume] at hprompt ⊢
  dsimp only at hprompt ⊢
  split
  · next hstopping =>
    rw [if_pos hstopping] at hprompt
    exact ⟨⟨hquiet, hswings.end_le, hprompt⟩, hswings⟩
  · next hrunning =>
    rw [if_neg hrunning] at hprompt
    rw [Bool.not_eq_true] at hrunning
    obtain ⟨hquiet', hswings'⟩ :=
      swings_acceptWaiting (hrunning ▸ hquiet) hswings service now s.waiting
    exact ⟨⟨fun item hitem => ⟨(hquiet' item hitem).1, fun _ => (hquiet' item hitem).2 rfl⟩,
      hswings'.end_le, hprompt⟩, hswings'⟩

theorem going_touch (hgoing : Going active) (client : Nat) {f : Handler → Handler}
    (hphase : ∀ h, (f h).isEnded = h.isEnded) : Going (touch client f active) :=
  forall_mem_touch (P := fun h => h.isEnded = false) hgoing client
    fun h hbefore => (hphase h).trans hbefore

/-- What one input does. -/
theorem Steady.next (hsteady : s.Steady) (service : Service σ) (now : Nat) (input : Input)
    (w : σ) :
    let result := s.next service now input w
    result.2.1.Steady ∧ Swings s.permits s.active.length result.2.1.active.length result.1 := by
  have hgoing := hsteady.quiet.going
  have hwithin := hsteady.within
  cases input with
  | connect client uid outlet =>
    rw [Server.next]
    split
    · exact ⟨hsteady, .nothing hwithin⟩
    · exact steady_resume (s := { s with waiting := s.waiting ++ [⟨client, uid, {}, outlet⟩] })
        hgoing hwithin service now w
  | deliver client arrival =>
    have hlength : (s.receive client arrival).active.length = s.active.length := List.length_map _
    have hresume := steady_resume (s := s.receive client arrival)
      (going_touch (f := fun h => { h with socket := h.socket.receive arrival }) hgoing client
        fun _ => rfl) (hlength ▸ hwithin) service now w
    rw [hlength] at hresume
    exact hresume
  | consume client count =>
    have hlength : (s.makeRoom client count).active.length = s.active.length := List.length_map _
    have hresume := steady_resume (s := s.makeRoom client count)
      (going_touch (f := fun h => { h with outlet := h.outlet.consume count }) hgoing client
        fun _ => rfl) (hlength ▸ hwithin) service now w
    rw [hlength] at hresume
    exact hresume
  | acceptFailed => exact ⟨hsteady, .nothing hwithin⟩
  | tick =>
    have hzero : 0 + s.active.length ≤ s.permits := by rwa [Nat.zero_add]
    have hdropped := swings_dropOverdue hzero service.idle now
    simp only [Nat.zero_add] at hdropped
    obtain ⟨hsteady', hswings⟩ := steady_resume
      (s := { s with active := (dropOverdue service.idle now s.active).2 })
      (fun item hitem => hgoing item (List.mem_of_mem_filter hitem)) hdropped.end_le service now w
    exact ⟨hsteady', hdropped.append hswings⟩
  | stop =>
    obtain ⟨hsteady', hswings⟩ := steady_resume
      (s := { s with stopping := true, waiting := [] }) hgoing hwithin service now w
    exact ⟨hsteady', (swings_refused hwithin s.waiting).append hswings⟩

/-- What any inputs do. -/
theorem Steady.run (hsteady : s.Steady) (service : Service σ) (inputs : List (Nat × Input))
    (w : σ) :
    let result := s.run service w inputs
    result.2.1.Steady ∧ Swings s.permits s.active.length result.2.1.active.length result.1 := by
  induction inputs generalizing s w with
  | nil => exact ⟨hsteady, .nothing hsteady.within⟩
  | cons input rest ih =>
    obtain ⟨now, input⟩ := input
    obtain ⟨hnext, hfirst⟩ := hsteady.next service now input w
    obtain ⟨hlast, hrest⟩ := ih hnext (s.next service now input w).2.2
    rw [permits_next] at hrest
    exact ⟨hlast, hfirst.append hrest⟩

/-! ## Those who come next -/

/-- Somebody who connects at a time. -/
structure Entrant where
  time : Nat
  client : Nat
  uid : Option UInt32
  outlet : Outlet

/-- Somebody who connects, as an input of the server. -/
def Entrant.input (e : Entrant) : Nat × Input := (e.time, .connect e.client e.uid e.outlet)

/-- The client, if its caller is known. -/
def Entrant.known? (e : Entrant) : Option Nat := e.uid.map fun _ => e.client

theorem acceptWaiting_full {p : Progress σ} (hfull : limit ≤ p.active.length)
    (service : Service σ) (now : Nat) (waiting : List Waiting) :
    acceptWaiting service now limit p waiting = (p, waiting) := by
  cases waiting with
  | nil => rfl
  | cons c rest => rw [acceptWaiting_cons, if_neg (Nat.not_lt.2 hfull)]

/-- One more client connects: it is served, or turned away, or it waits because all permits are in
use. -/
theorem Steady.admit (hsteady : s.Steady) (hrunning : s.stopping = false) (service : Service σ)
    (e : Entrant) (w : σ) :
    let after := s.next service e.input.1 e.input.2 w
    after.2.1.stopping = false ∧ s.active <+: after.2.1.active
      ∧ after.2.1.active.map (·.1)
        = s.active.map (·.1) ++ e.known?.toList.take (s.permits - s.active.length) := by
  obtain ⟨time, client, uid, outlet⟩ := e
  have hgoing : ∀ item ∈ s.active, item.2.isEnded = false := hsteady.quiet.going
  have hrests : ∀ item ∈ s.active, item.2.Rests := fun item hitem =>
    (hsteady.quiet item hitem).2 hrunning
  have hactive := runActive_of_rests hgoing hrests service time w
  by_cases hfull : s.permits ≤ s.active.length
  · have hnone : s.permits - s.active.length = 0 := Nat.sub_eq_zero_of_le hfull
    simp only [Entrant.input, Server.next, hrunning, Server.resume, hactive, Bool.false_eq_true,
      if_false, acceptWaiting_full (p := ⟨[], s.active, w⟩) hfull, hnone, List.take_zero,
      List.append_nil]
    exact ⟨trivial, List.prefix_refl _, trivial⟩
  · have hfree := Nat.not_le.1 hfull
    have haccepted : s.waiting = [] := by
      by_contra hwaiting
      exact hfull (hsteady.prompt hrunning hwaiting)
    cases uid with
    | none =>
      simp only [Entrant.input, Server.next, hrunning, Server.resume, hactive, haccepted,
        Bool.false_eq_true, if_false, List.nil_append, acceptWaiting, hfree, if_true,
        Handler.start, Entrant.known?]
      simp
    | some uid =>
      have hone : s.permits - s.active.length = s.permits - s.active.length - 1 + 1 := by omega
      rw [Entrant.input, next_connect ⟨haccepted, hrunning, hgoing, hrests⟩ hfree, hone]
      simp [Entrant.known?, hrunning]

/-- **Of those who connect next, as many are served as there are permits left**, and nobody who is
served already is disturbed. -/
theorem Steady.admits (hsteady : s.Steady) (hrunning : s.stopping = false) (service : Service σ)
    (crowd : List Entrant) (w : σ) :
    let after := s.run service w (crowd.map Entrant.input)
    s.active <+: after.2.1.active
      ∧ after.2.1.active.map (·.1)
        = s.active.map (·.1)
          ++ (crowd.filterMap Entrant.known?).take (s.permits - s.active.length) := by
  induction crowd generalizing s w with
  | nil => exact ⟨List.prefix_refl _, by simp [Server.run]⟩
  | cons e rest ih =>
    obtain ⟨hrunning', hstay, hclients⟩ := hsteady.admit hrunning service e w
    have hpermits := permits_next service e.input.1 e.input.2 s w
    obtain ⟨hstay', hclients'⟩ := ih (hsteady.next service e.input.1 e.input.2 w).1 hrunning'
      (s.next service e.input.1 e.input.2 w).2.2
    refine ⟨hstay.trans hstay', ?_⟩
    have hknown : (e :: rest).filterMap Entrant.known?
        = e.known?.toList ++ rest.filterMap Entrant.known? := by
      cases hknown : e.known? <;> simp [hknown]
    have hlength := congrArg List.length hclients
    simp only [List.length_map, List.length_append, List.length_take] at hlength
    have hleft : s.permits - (s.next service e.input.1 e.input.2 w).2.1.active.length
        = s.permits - s.active.length - e.known?.toList.length := by omega
    rw [hclients, hpermits, hleft, List.append_assoc, ← List.take_append, ← hknown] at hclients'
    exact hclients'

/-! ## All together -/

/-- The clients whose callers are known and whose connections have not ended, after some
happenings. -/
def served (clients : List Nat) (happenings : List Happening) : List Nat :=
  clients.filter fun client => isServed (eventsOf client happenings)

theorem length_served (clients : List Nat) (happenings : List Happening) :
    (served clients happenings).length
      = (clients.map fun client => (isServed (eventsOf client happenings)).toNat).sum := by
  induction clients with
  | nil => rfl
  | cons client rest ih =>
    rw [served, List.filter_cons, List.map_cons, List.sum_cons, ← ih, served]
    cases isServed (eventsOf client happenings) <;> simp [Nat.add_comm]

theorem eventsOf_mono (hpast : past <+: happenings) (client : Nat) :
    eventsOf client past <+: eventsOf client happenings := (hpast.filter _).map _

/-- The gauge shows how many connections are being served, at any time. -/
theorem gauge_eq_length_served (hdistinct : (connecting inputs).Nodup) (service : Service σ)
    (maxConnections : Nat) (w : σ)
    (hpast : past <+: ((ofLimit maxConnections).run service w inputs).1) :
    gauge past = (served (connecting inputs) past).length := by
  have hall : ∀ happening ∈ past, happening.1 ∈ connecting inputs := fun happening hmem =>
    client_mem_connecting (hpast.subset hmem)
  have hbalance : (connecting inputs).map
        (fun client => (eventsOf client past).countP Event.isStart)
      = (connecting inputs).map fun client => (eventsOf client past).countP Event.isEnd
        + (isServed (eventsOf client past)).toNat :=
    List.map_congr_left fun client hmem =>
      ((life_of_run hdistinct hmem service maxConnections w).1.upTo
        (eventsOf_mono hpast client)).balance
  rw [gauge_eq, ← sum_countP_eventsOf hdistinct hall, ← sum_countP_eventsOf hdistinct hall,
    hbalance, List.sum_map_add, length_served]
  push_cast
  omega

theorem count_clients (client : Nat) (active : List (Nat × Handler)) :
    (active.map (·.1)).count client = (handlersOf client active).length := by
  rw [handlersOf, List.length_map, ← List.countP_eq_length_filter, List.count, List.countP_map]
  rfl

/-- The connections being served are those that have a handler. -/
theorem active_perm_served (hdistinct : (connecting inputs).Nodup) (service : Service σ)
    (maxConnections : Nat) (w : σ) :
    let result := (ofLimit maxConnections).run service w inputs
    (result.2.1.active.map (·.1)).Perm (served (connecting inputs) result.1) := by
  intro result
  rw [List.perm_iff_count]
  intro client
  rw [count_clients]
  by_cases hmem : client ∈ connecting inputs
  · obtain ⟨-, hhandlers⟩ := life_of_run hdistinct hmem service maxConnections w
    rw [hhandlers, served]
    cases hserves : isServed (eventsOf client result.1) with
    | false =>
      rw [eq_comm, Bool.toNat_false, List.count_eq_zero]
      intro hserved
      exact Bool.false_ne_true (hserves.symm.trans (List.mem_filter.1 hserved).2)
    | true =>
      rw [List.count_filter (p := fun client => isServed (eventsOf client result.1)) hserves,
        List.count_eq_one_of_mem hdistinct hmem]
      rfl
  · obtain ⟨-, -, hunknown⟩ :=
      stranger (unknown_ofLimit client maxConnections) hmem service w
    rw [(unknown_iff.1 hunknown).1, List.length_nil, eq_comm, List.count_eq_zero]
    exact fun hserved => hmem (List.mem_of_mem_filter hserved)

/-- **Permits are neither lost nor duplicated.**  At any time the gauge shows how many connections
are being served, and that is never more than there are permits.  Between two inputs those are the
connections that have a handler.  As long as the daemon goes on, clients wait only while all permits
are in use, and of those who connect next as many are served as there are permits left. -/
theorem permits_accounted (hdistinct : (connecting inputs).Nodup) (service : Service σ)
    (maxConnections : Nat) (w : σ) :
    let result := (ofLimit maxConnections).run service w inputs
    let s := result.2.1
    (∀ past, past <+: result.1 → gauge past = (served (connecting inputs) past).length
        ∧ (served (connecting inputs) past).length ≤ max 1 maxConnections)
      ∧ (s.active.map (·.1)).Perm (served (connecting inputs) result.1)
      ∧ (s.stopping = false →
        (s.waiting ≠ [] → s.active.length = max 1 maxConnections)
          ∧ ∀ crowd : List Entrant, let after := s.run service result.2.2 (crowd.map Entrant.input)
            s.active <+: after.2.1.active
              ∧ after.2.1.active.map (·.1) = s.active.map (·.1)
                ++ (crowd.filterMap Entrant.known?).take
                  (max 1 maxConnections - s.active.length)) := by
  intro result s
  obtain ⟨hsteady, hswings⟩ := (steady_ofLimit maxConnections).run service inputs w
  have hpermits : s.permits = max 1 maxConnections :=
    permits_run service inputs (ofLimit maxConnections) w
  refine ⟨fun past hpast => ?_, active_perm_served hdistinct service maxConnections w,
    fun hrunning => ⟨fun hwaiting => ?_, fun crowd => ?_⟩⟩
  · have hgauge := gauge_eq_length_served hdistinct service maxConnections w hpast
    obtain ⟨k, hpart⟩ := hswings.upTo hpast
    have hlevel := hpart.gauge_eq
    have hlimit : k ≤ max 1 maxConnections := hpart.end_le
    rw [hgauge] at hlevel
    refine ⟨hgauge, ?_⟩
    simp only [ofLimit, List.length_nil] at hlevel
    omega
  · exact hpermits ▸ Nat.le_antisymm hsteady.within (hsteady.prompt hrunning hwaiting)
  · exact hpermits ▸ hsteady.admits hrunning service crowd result.2.2

/-- A limit of zero counts as one: of three who connect, one is served at a time. -/
theorem one_at_a_time :
    let inputs := [(3, Input.connect 7 (some 1000) .flowing), (4, .connect 8 none .flowing),
      (5, .connect 9 (some 1001) .flowing), (6, .deliver 7 (.hangUp false))]
    (connecting inputs).Nodup
      ∧ ∀ past, past <+: ((ofLimit 0).run mirror () inputs).1 → gauge past ≤ 1 := by
  intro inputs
  have hdistinct : (connecting inputs).Nodup := by decide
  refine ⟨hdistinct, fun past hpast => ?_⟩
  obtain ⟨hgauge, hlimit⟩ := (permits_accounted hdistinct mirror 0 ()).1 past hpast
  rw [hgauge]
  exact Int.ofNat_le.2 hlimit

end Server
end TokenBroker
