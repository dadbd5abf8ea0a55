import TokenBroker.Proofs.Daemon.Connections
/-!
# One client among others

A server runs all its connections whenever anything comes to it.  Here is what that means for the
connection of one client.

* `Service.Keeps` says that the state of a dispatcher goes on being sound, and `sound_inputs` that
  it does so whatever comes.
* `eventsOf`, `handlersOf` and `queuedOf` are what concerns one client; what the server does to it
  when it runs its connections (`runActive_served`), accepts (`acceptWaiting_queued`), passes on
  what arrives (`handlersOf_touch`, `queuedOf_receive`), drops connections (`of_dropOverdue`) and
  stops (`eventsOf_refused`).
* `next_cases` is what any input does, and `Prompt.run` says that clients wait only while all
  permits are in use.
-/

set_option autoImplicit false

namespace TokenBroker

/-! ## The state of the dispatcher -/

/-- Whatever a service does keeps a property of the state of its dispatcher. -/
def Service.Keeps {σ : Type} (service : Service σ) (sound : σ → Prop) : Prop :=
  ∀ (now : Nat) (key : IdentityKey) (command : Command) (payload : Bytes) (w : σ),
    sound w → sound (service.dispatch now key command payload w).2

namespace Handler

variable {σ : Type} {service : Service σ} {sound : σ → Prop} {w : σ}

theorem sound_act (hkeeps : service.Keeps sound) (hsound : sound w) (now : Nat)
    (identity : IdentityKey) (observer : Sequence.Observer) (socket : Socket) (wanted : Wanted)
    (part : Bytes) : sound (act service now identity observer socket wanted part w).state := by
  cases wanted with
  | header =>
    rw [act]
    split <;> exact hsound
  | payload header command => exact hkeeps now identity command part w hsound
  | refused header reason => exact hsound

theorem sound_run (hkeeps : service.Keeps sound) (hsound : sound w) (now : Nat) (stopping : Bool)
    (h : Handler) : sound (run service now stopping h w).2.2 := by
  induction hmeasure : h.measure using Nat.strongRecOn generalizing h w with
  | _ n ih =>
  subst hmeasure
  cases hphase : h.phase with
  | ended =>
    rw [run_ended hphase]
    exact hsound
  | writing response rest last =>
    rw [run_writing hphase]
    dsimp only
    split
    · next hdone =>
      refine ih _ ?_ hsound _ rfl
      rw [measure_writeOn, hdone, measure, hphase, Phase.weight]
      omega
    · exact hsound
  | reading wanted =>
    by_cases hstop : (stopping && wanted.isHeader) = true
    · rw [run_stopping hphase hstop]
      exact hsound
    · rw [Bool.not_eq_true] at hstop
      by_cases henough : wanted.need ≤ h.soFar.length + h.socket.unread.length
      · rw [run_complete hphase hstop henough]
        exact ih _ (measure_goOn_act_lt service now hphase henough w)
          (sound_act hkeeps hsound _ _ _ _ _ _) _ rfl
      · rw [run_reading hphase hstop]
        have hshort := Nat.not_le.1 henough
        by_cases halive : h.socket.ended = false ∧ h.socket.reset = false
        · rw [Socket.fill_of_lt halive.1 halive.2 hshort]
          exact hsound
        · obtain ⟨error, socket, hfill⟩ := Socket.fill_of_over halive hshort
          rw [hfill]
          exact hsound

/-- A connection of an unknown caller is turned away. -/
theorem events_of_start_none {scope : IdentityScope} {uid : Option UInt32} {socket : Socket}
    {outlet : Outlet} {now : Nat} {events : List Event}
    (hstart : start scope uid socket outlet now = (events, none)) :
    events = [.rejected (!socket.unread.isEmpty)] := by
  cases uid with
  | none => exact (Prod.mk.inj hstart).1.symm
  | some uid => cases (Prod.mk.inj hstart).2

/-- A connection of a known caller begins with nothing read. -/
theorem of_start_some {scope : IdentityScope} {uid : Option UInt32} {socket : Socket}
    {outlet : Outlet} {now : Nat} {events : List Event} {h : Handler}
    (hstart : start scope uid socket outlet now = (events, some h)) :
    events = [.started] ∧ h.socket = socket ∧ h.outlet = outlet ∧ h.phase = .reading .header
      ∧ h.soFar = [] ∧ h.observer = {} := by
  cases uid with
  | none => cases (Prod.mk.inj hstart).2
  | some uid =>
    obtain ⟨rfl, hsome⟩ := Prod.mk.inj hstart
    obtain rfl := Option.some.inj hsome
    exact ⟨rfl, rfl, rfl, rfl, rfl, rfl⟩

end Handler

/-! ## What a client sends -/

/-- What has come from a client as long as it had a connection. -/
structure Heard where
  bytes : Bytes
  /-- How many bytes had come when the daemon was told to stop. -/
  told : Option Nat

namespace Heard

/-- Nothing has come. -/
def nothing (stopping : Bool) : Heard := ⟨[], if stopping then some 0 else none⟩

/-- Some more bytes come. -/
def append (past : Heard) (chunk : Bytes) : Heard := { past with bytes := past.bytes ++ chunk }

/-- The daemon is told to stop; only the first time counts. -/
def stop (past : Heard) : Heard := { past with told := some (past.told.getD past.bytes.length) }

end Heard

/-! ## What concerns one client -/

namespace Server

open Handler

variable {σ : Type} {service : Service σ} {sound : σ → Prop} {client : Nat} {w : σ}

/-- What happens on the connection of a client. -/
def eventsOf (client : Nat) (happenings : List Happening) : List Event :=
  (happenings.filter fun happening => happening.1 = client).map (·.2)

/-- The connections of a client that are served. -/
def handlersOf (client : Nat) (active : List (Nat × Handler)) : List Handler :=
  (active.filter fun item => item.1 = client).map (·.2)

/-- The connections of a client that wait to be accepted. -/
def queuedOf (client : Nat) (waiting : List Waiting) : List Waiting :=
  waiting.filter fun c => c.client = client

@[simp] theorem eventsOf_append (client : Nat) (a b : List Happening) :
    eventsOf client (a ++ b) = eventsOf client a ++ eventsOf client b := by
  simp only [eventsOf, List.filter_append, List.map_append]

@[simp] theorem handlersOf_append (client : Nat) (a b : List (Nat × Handler)) :
    handlersOf client (a ++ b) = handlersOf client a ++ handlersOf client b := by
  simp only [handlersOf, List.filter_append, List.map_append]

theorem handlersOf_cons (client other : Nat) (h : Handler) (rest : List (Nat × Handler)) :
    handlersOf client ((other, h) :: rest)
      = if other = client then h :: handlersOf client rest else handlersOf client rest := by
  by_cases heq : other = client
  · simp [handlersOf, heq]
  · simp [handlersOf, heq]

theorem queuedOf_cons (client : Nat) (c : Waiting) (rest : List Waiting) :
    queuedOf client (c :: rest)
      = if c.client = client then c :: queuedOf client rest else queuedOf client rest := by
  by_cases heq : c.client = client
  · simp [queuedOf, heq]
  · simp [queuedOf, heq]

theorem queuedOf_concat (client : Nat) (waiting : List Waiting) (c : Waiting) :
    queuedOf client (waiting ++ [c])
      = queuedOf client waiting ++ if c.client = client then [c] else [] := by
  rw [queuedOf, List.filter_append]
  exact congrArg (queuedOf client waiting ++ ·) (queuedOf_cons client c [])

theorem client_of_queued {waiting : List Waiting} {c : Waiting}
    (hqueued : queuedOf client waiting = [c]) : c.client = client := by
  have hmem : c ∈ queuedOf client waiting := by
    rw [hqueued]
    exact List.mem_singleton_self c
  simpa [queuedOf] using (List.mem_filter.1 hmem).2

@[simp] theorem eventsOf_tagged_self (client : Nat) (events : List Event) :
    eventsOf client (tagged client events) = events := by
  induction events with
  | nil => rfl
  | cons event rest ih =>
    simp only [eventsOf, tagged, List.map_cons] at ih ⊢
    rw [List.filter_cons_of_pos (by simp), List.map_cons, ih]

theorem eventsOf_tagged_of_ne {other : Nat} (hne : other ≠ client) (events : List Event) :
    eventsOf client (tagged other events) = [] := by
  have hnone : (tagged other events).filter (fun happening => happening.1 = client) = [] := by
    rw [List.filter_eq_nil_iff]
    intro happening hmem
    obtain ⟨event, -, rfl⟩ := List.mem_map.1 hmem
    simpa using hne
  rw [eventsOf, hnone, List.map_nil]

theorem handlersOf_kept {other : Nat} (hne : other ≠ client) (h : Handler) :
    handlersOf client (if h.isEnded then [] else [(other, h)]) = [] := by
  split
  · rfl
  · rw [handlersOf_cons, if_neg hne]
    rfl

theorem sound_runActive (hkeeps : service.Keeps sound) (hsound : sound w) (now : Nat)
    (stopping : Bool) (active : List (Nat × Handler)) :
    sound (runActive service now stopping active w).state := by
  induction active generalizing w with
  | nil => exact hsound
  | cons item rest ih =>
    obtain ⟨other, h⟩ := item
    rw [runActive_cons]
    exact ih (sound_run hkeeps hsound now stopping h)

/-- Nothing happens to a client that is not served. -/
theorem runActive_absent {active : List (Nat × Handler)} (habsent : handlersOf client active = [])
    (service : Service σ) (now : Nat) (stopping : Bool) (w : σ) :
    eventsOf client (runActive service now stopping active w).happenings = []
      ∧ handlersOf client (runActive service now stopping active w).active = [] := by
  induction active generalizing w with
  | nil => exact ⟨rfl, rfl⟩
  | cons item rest ih =>
    obtain ⟨other, h⟩ := item
    rw [handlersOf_cons] at habsent
    split at habsent
    · cases habsent
    · next hne =>
      obtain ⟨hquiet, hstill⟩ := ih habsent (h.run service now stopping w).2.2
      rw [runActive_cons]
      dsimp only
      rw [eventsOf_append, handlersOf_append, eventsOf_tagged_of_ne hne, handlersOf_kept hne,
        hquiet, hstill]
      exact ⟨rfl, rfl⟩

/-- What happens to a client when all connections are run is what its own handler does. -/
theorem runActive_served {active : List (Nat × Handler)} {h : Handler}
    (hserved : handlersOf client active = [h]) (hkeeps : service.Keeps sound) (hsound : sound w)
    (now : Nat) (stopping : Bool) :
    ∃ w₁, sound w₁
      ∧ eventsOf client (runActive service now stopping active w).happenings
        = (h.run service now stopping w₁).1
      ∧ handlersOf client (runActive service now stopping active w).active
        = if (h.run service now stopping w₁).2.1.isEnded then []
          else [(h.run service now stopping w₁).2.1] := by
  induction active generalizing w with
  | nil => cases hserved
  | cons item rest ih =>
    obtain ⟨other, first⟩ := item
    rw [handlersOf_cons] at hserved
    rw [runActive_cons]
    dsimp only
    rw [eventsOf_append, handlersOf_append]
    split at hserved
    · next heq =>
      obtain ⟨rfl, habsent⟩ := List.cons.inj hserved
      subst heq
      obtain ⟨hquiet, hstill⟩ :=
        runActive_absent habsent service now stopping (first.run service now stopping w).2.2
      refine ⟨w, hsound, ?_, ?_⟩
      · rw [hquiet, eventsOf_tagged_self, List.append_nil]
      · rw [hstill, List.append_nil]
        split
        · rfl
        · rw [handlersOf_cons, if_pos rfl]
          rfl
    · next hne =>
      obtain ⟨w₁, hsound₁, hevents, hleft⟩ :=
        ih hserved (sound_run hkeeps hsound now stopping first)
      rw [eventsOf_tagged_of_ne hne, handlersOf_kept hne, hevents, hleft]
      exact ⟨w₁, hsound₁, rfl, rfl⟩

/-! ## Accepting -/

/-- One more connection of somebody else is run. -/
theorem runNext_of_ne {other : Nat} (hne : other ≠ client) (service : Service σ) (now : Nat)
    (stopping : Bool) (p : Progress σ) (h : Handler) :
    eventsOf client (p.runNext service now stopping other h).happenings
        = eventsOf client p.happenings
      ∧ handlersOf client (p.runNext service now stopping other h).active
        = handlersOf client p.active := by
  simp only [Progress.runNext, eventsOf_append, eventsOf_tagged_of_ne hne, List.append_nil,
    true_and]
  split
  · rfl
  · rw [handlersOf_append, handlersOf_cons, if_neg hne]
    exact List.append_nil _

/-- One more connection of the client itself is run. -/
theorem runNext_self (client : Nat) (service : Service σ) (now : Nat) (stopping : Bool)
    (p : Progress σ) (h : Handler) :
    eventsOf client (p.runNext service now stopping client h).happenings
        = eventsOf client p.happenings ++ (h.run service now stopping p.state).1
      ∧ handlersOf client (p.runNext service now stopping client h).active
        = handlersOf client p.active
          ++ if (h.run service now stopping p.state).2.1.isEnded then []
            else [(h.run service now stopping p.state).2.1] := by
  simp only [Progress.runNext, eventsOf_append, eventsOf_tagged_self, true_and]
  split
  · exact (List.append_nil _).symm
  · rw [handlersOf_append, handlersOf_cons, if_pos rfl]
    rfl

/-- A client that was accepted, with what comes first and, if it is served, its handler. -/
def acceptOne (service : Service σ) (now : Nat) (p : Progress σ) (c : Waiting) : Progress σ :=
  match Handler.start service.scope c.uid c.socket c.outlet now with
  | (events, none) => { p with happenings := p.happenings ++ tagged c.client events }
  | (events, some h) =>
    Progress.runNext service now false
      { p with happenings := p.happenings ++ tagged c.client events } c.client h

theorem acceptWaiting_cons (service : Service σ) (now permits : Nat) (p : Progress σ)
    (c : Waiting) (rest : List Waiting) :
    acceptWaiting service now permits p (c :: rest)
      = if p.active.length < permits then
          acceptWaiting service now permits (acceptOne service now p c) rest
        else (p, c :: rest) := by
  rw [acceptWaiting, acceptOne]
  split
  · cases Handler.start service.scope c.uid c.socket c.outlet now with
    | mk events started => cases started <;> rfl
  · rfl

theorem sound_acceptOne (hkeeps : service.Keeps sound) {p : Progress σ} (hsound : sound p.state)
    (now : Nat) (c : Waiting) : sound (acceptOne service now p c).state := by
  rw [acceptOne]
  split
  · exact hsound
  · exact sound_run hkeeps hsound now false _

/-- Somebody else is accepted. -/
theorem acceptOne_of_ne {c : Waiting} (hne : c.client ≠ client) (service : Service σ) (now : Nat)
    (p : Progress σ) :
    eventsOf client (acceptOne service now p c).happenings = eventsOf client p.happenings
      ∧ handlersOf client (acceptOne service now p c).active = handlersOf client p.active := by
  have hstarted : ∀ events, eventsOf client (p.happenings ++ tagged c.client events)
      = eventsOf client p.happenings := fun events => by
    rw [eventsOf_append, eventsOf_tagged_of_ne hne, List.append_nil]
  rw [acceptOne]
  split
  · exact ⟨hstarted _, rfl⟩
  · obtain ⟨hquiet, hothers⟩ := runNext_of_ne hne service now false
      { p with happenings := p.happenings ++ tagged c.client _ } _
    exact ⟨hquiet.trans (hstarted _), hothers⟩

/-- Nothing happens to a client that does not wait. -/
theorem acceptWaiting_absent {waiting : List Waiting} (habsent : queuedOf client waiting = [])
    (service : Service σ) (now permits : Nat) (p : Progress σ) :
    let accepted := acceptWaiting service now permits p waiting
    eventsOf client accepted.1.happenings = eventsOf client p.happenings
      ∧ handlersOf client accepted.1.active = handlersOf client p.active
      ∧ queuedOf client accepted.2 = [] := by
  induction waiting generalizing p with
  | nil => exact ⟨rfl, rfl, rfl⟩
  | cons c rest ih =>
    have hcons := habsent
    rw [queuedOf_cons] at hcons
    split at hcons
    · cases hcons
    · next hne =>
      rw [acceptWaiting_cons]
      split
      · obtain ⟨hquiet, hothers⟩ := acceptOne_of_ne hne service now p
        obtain ⟨hquiet', hothers', hgone⟩ := ih hcons (acceptOne service now p c)
        exact ⟨hquiet'.trans hquiet, hothers'.trans hothers, hgone⟩
      · exact ⟨rfl, rfl, habsent⟩

/-- Clients are left waiting only where all permits are in use. -/
theorem full_of_acceptWaiting (service : Service σ) (now permits : Nat) (p : Progress σ)
    (waiting : List Waiting) :
    let accepted := acceptWaiting service now permits p waiting
    accepted.2 ≠ [] → permits ≤ accepted.1.active.length := by
  induction waiting generalizing p with
  | nil => exact fun hleft => absurd rfl hleft
  | cons c rest ih =>
    rw [acceptWaiting_cons]
    split
    · exact ih (acceptOne service now p c)
    · next hfull => exact fun _ => Nat.not_lt.1 hfull

theorem sound_acceptWaiting (hkeeps : service.Keeps sound) {p : Progress σ}
    (hsound : sound p.state) (now permits : Nat) (waiting : List Waiting) :
    sound (acceptWaiting service now permits p waiting).1.state := by
  induction waiting generalizing p with
  | nil => exact hsound
  | cons c rest ih =>
    rw [acceptWaiting_cons]
    split
    · exact ih (sound_acceptOne hkeeps hsound now c)
    · exact hsound

/-- A client that waits goes on waiting, or is accepted. -/
theorem acceptWaiting_queued {waiting : List Waiting} {c : Waiting}
    (hqueued : queuedOf client waiting = [c]) (hkeeps : service.Keeps sound) (now permits : Nat)
    (p : Progress σ) (hsound : sound p.state) :
    let accepted := acceptWaiting service now permits p waiting
    (eventsOf client accepted.1.happenings = eventsOf client p.happenings
        ∧ handlersOf client accepted.1.active = handlersOf client p.active
        ∧ queuedOf client accepted.2 = [c])
      ∨ (queuedOf client accepted.2 = [] ∧ ∃ q : Progress σ, sound q.state
          ∧ eventsOf client q.happenings = eventsOf client p.happenings
          ∧ handlersOf client q.active = handlersOf client p.active
          ∧ eventsOf client accepted.1.happenings
            = eventsOf client (acceptOne service now q c).happenings
          ∧ handlersOf client accepted.1.active
            = handlersOf client (acceptOne service now q c).active) := by
  induction waiting generalizing p with
  | nil => cases hqueued
  | cons first rest ih =>
    have hcons := hqueued
    rw [queuedOf_cons] at hcons
    rw [acceptWaiting_cons]
    split
    · split at hcons
      · obtain ⟨rfl, habsent⟩ := List.cons.inj hcons
        obtain ⟨hquiet, hothers, hgone⟩ :=
          acceptWaiting_absent habsent service now permits (acceptOne service now p first)
        exact .inr ⟨hgone, p, hsound, rfl, rfl, hquiet, hothers⟩
      · next hne =>
        obtain ⟨hquiet, hothers⟩ := acceptOne_of_ne hne service now p
        rcases ih hcons (acceptOne service now p first) (sound_acceptOne hkeeps hsound now first)
          with ⟨hevents, hserved, hstill⟩ | ⟨hgone, q, hsoundq, hevents, hserved, hafter⟩
        · exact .inl ⟨hevents.trans hquiet, hserved.trans hothers, hstill⟩
        · exact .inr ⟨hgone, q, hsoundq, hevents.trans hquiet, hserved.trans hothers, hafter⟩
    · exact .inl ⟨rfl, rfl, hqueued⟩

/-- The client itself is accepted. -/
theorem acceptOne_self (service : Service σ) (now : Nat) (p : Progress σ) (c : Waiting) :
    let accepted := acceptOne service now p c
    (∃ events, Handler.start service.scope c.uid c.socket c.outlet now = (events, none)
        ∧ eventsOf c.client accepted.happenings = eventsOf c.client p.happenings ++ events
        ∧ handlersOf c.client accepted.active = handlersOf c.client p.active)
      ∨ ∃ events h, Handler.start service.scope c.uid c.socket c.outlet now = (events, some h)
        ∧ eventsOf c.client accepted.happenings
          = eventsOf c.client p.happenings ++ (events ++ (h.run service now false p.state).1)
        ∧ handlersOf c.client accepted.active
          = handlersOf c.client p.active
            ++ if (h.run service now false p.state).2.1.isEnded then []
              else [(h.run service now false p.state).2.1] := by
  rw [acceptOne]
  cases hstart : Handler.start service.scope c.uid c.socket c.outlet now with
  | mk events started =>
    cases started with
    | none => exact .inl ⟨events, rfl, by simp, rfl⟩
    | some h =>
      obtain ⟨hevents, hserved⟩ := runNext_self c.client service now false
        { p with happenings := p.happenings ++ tagged c.client events } h
      refine .inr ⟨events, h, rfl, ?_, hserved⟩
      dsimp only
      rw [hevents, eventsOf_append, eventsOf_tagged_self, List.append_assoc]

/-! ## Moves and time -/

/-- No connection bears the number of a client. -/
def Unknown (client : Nat) (s : Server) : Prop :=
  (∀ item ∈ s.active, item.1 ≠ client) ∧ ∀ c ∈ s.waiting, c.client ≠ client

instance (client : Nat) (s : Server) : Decidable (Unknown client s) :=
  inferInstanceAs (Decidable (_ ∧ _))

theorem unknown_iff {s : Server} : s.Unknown client
    ↔ handlersOf client s.active = [] ∧ queuedOf client s.waiting = [] := by
  simp [Unknown, handlersOf, queuedOf]

/-- An input is a connection of the client. -/
def Input.connects (client : Nat) : Input → Bool
  | .connect other _ _ => other = client
  | _ => false

theorem handlersOf_touch (client other : Nat) (f : Handler → Handler)
    (active : List (Nat × Handler)) :
    handlersOf client (touch other f active)
      = if other = client then (handlersOf client active).map f
        else handlersOf client active := by
  induction active with
  | nil => split <;> rfl
  | cons item rest ih =>
    obtain ⟨number, h⟩ := item
    rw [touch_cons, handlersOf_cons, handlersOf_cons, ih]
    by_cases hother : other = client
    · subst hother
      by_cases hnumber : number = other
      · simp only [hnumber, if_true, List.map_cons]
      · simp only [if_neg hnumber, if_true]
    · by_cases hnumber : number = client
      · have hne : number ≠ other := fun heq => hother (heq.symm.trans hnumber)
        simp only [if_pos hnumber, if_neg hother, if_neg hne]
      · simp only [if_neg hnumber, if_neg hother]

theorem queuedOf_receive (s : Server) (client other : Nat) (arrival : Arrival) :
    queuedOf client (s.receive other arrival).waiting
      = if other = client then
          (queuedOf client s.waiting).map fun c =>
            { c with socket := c.socket.receive arrival }
        else queuedOf client s.waiting := by
  rw [receive]
  dsimp only
  induction s.waiting with
  | nil => split <;> rfl
  | cons c rest ih =>
    rw [List.map_cons, queuedOf_cons, queuedOf_cons, ih]
    by_cases hother : other = client
    · subst hother
      by_cases hown : c.client = other
      · simp only [hown, if_true, List.map_cons]
      · simp only [if_neg hown, if_true]
    · by_cases hown : c.client = client
      · have hne : c.client ≠ other := fun heq => hother (heq.symm.trans hown)
        simp only [if_pos hown, if_neg hother, if_neg hne]
      · by_cases heq : c.client = other
        · simp only [if_pos heq, if_neg hown, if_neg hother]
        · simp only [if_neg heq, if_neg hown, if_neg hother]

/-- Of the connections of a client, those that are overdue are ended. -/
theorem of_dropOverdue (client : Nat) (idle : Option Nat) (now : Nat)
    (active : List (Nat × Handler)) :
    eventsOf client (dropOverdue idle now active).1
        = ((handlersOf client active).filter (isOverdue idle now)).flatMap (fun h => h.finish.1)
      ∧ handlersOf client (dropOverdue idle now active).2
        = (handlersOf client active).filter fun h => !isOverdue idle now h := by
  induction active with
  | nil => exact ⟨rfl, rfl⟩
  | cons item rest ih =>
    obtain ⟨other, h⟩ := item
    obtain ⟨hevents, hleft⟩ := ih
    simp only [dropOverdue] at hevents hleft ⊢
    rw [handlersOf_cons]
    by_cases hdue : isOverdue idle now h = true
    · rw [List.filter_cons_of_pos (by simpa using hdue), List.flatMap_cons, eventsOf_append,
        hevents, List.filter_cons_of_neg (by simpa using hdue), hleft]
      by_cases hown : other = client
      · subst hown
        rw [if_pos rfl, List.filter_cons_of_pos hdue, List.flatMap_cons, eventsOf_tagged_self,
          List.filter_cons_of_neg (by simpa using hdue)]
        exact ⟨rfl, rfl⟩
      · rw [if_neg hown, eventsOf_tagged_of_ne hown]
        exact ⟨rfl, rfl⟩
    · rw [List.filter_cons_of_neg (by simpa using hdue), hevents,
        List.filter_cons_of_pos (by simpa using hdue), handlersOf_cons, hleft]
      by_cases hown : other = client
      · rw [if_pos hown, if_pos hown, List.filter_cons_of_neg hdue,
          List.filter_cons_of_pos (by simpa using hdue)]
        exact ⟨rfl, rfl⟩
      · rw [if_neg hown, if_neg hown]
        exact ⟨rfl, rfl⟩

/-- Those who wait to be accepted are turned away when the daemon stops. -/
theorem eventsOf_refused (client : Nat) (waiting : List Waiting) :
    eventsOf client (waiting.flatMap fun c => tagged c.client [.rejected true])
      = (queuedOf client waiting).flatMap fun _ => [.rejected true] := by
  induction waiting with
  | nil => rfl
  | cons c rest ih =>
    rw [List.flatMap_cons, eventsOf_append, ih, queuedOf_cons]
    by_cases hown : c.client = client
    · rw [if_pos hown, ← hown, eventsOf_tagged_self]
      rfl
    · rw [if_neg hown, eventsOf_tagged_of_ne hown]
      rfl

/-! ## Runs -/

/-- An input changes nothing, or changes the connections somehow and then runs what can run. -/
theorem next_cases (service : Service σ) (now : Nat) (input : Input) (s : Server) (w : σ) :
    (s.next service now input w = ([], s, w) ∧ (s.stopping = true ∨ input = .acceptFailed))
      ∨ ∃ (before : List Happening) (s' : Server), s'.permits = s.permits
        ∧ s.next service now input w
          = (before ++ (s'.resume service now w).1, (s'.resume service now w).2) := by
  cases input with
  | connect other uid outlet =>
    rw [Server.next]
    split
    · next hstopping => exact .inl ⟨rfl, .inl hstopping⟩
    · exact .inr ⟨[], { s with waiting := s.waiting ++ [⟨other, uid, {}, outlet⟩] }, rfl, rfl⟩
  | deliver other arrival => exact .inr ⟨[], s.receive other arrival, rfl, rfl⟩
  | consume other count => exact .inr ⟨[], s.makeRoom other count, rfl, rfl⟩
  | acceptFailed => exact .inl ⟨rfl, .inr rfl⟩
  | tick =>
    exact .inr ⟨_, { s with active := (dropOverdue service.idle now s.active).2 }, rfl, rfl⟩
  | stop => exact .inr ⟨_, { s with stopping := true, waiting := [] }, rfl, rfl⟩

theorem sound_resume (hkeeps : service.Keeps sound) (hsound : sound w) (now : Nat) (s : Server) :
    sound (s.resume service now w).2.2 := by
  have hsound' := sound_runActive hkeeps hsound now s.stopping s.active
  rw [Server.resume]
  dsimp only
  split
  · exact hsound'
  · exact sound_acceptWaiting hkeeps hsound' now s.permits s.waiting

theorem sound_next (hkeeps : service.Keeps sound) (hsound : sound w) (now : Nat) (input : Input)
    (s : Server) : sound (s.next service now input w).2.2 := by
  rcases next_cases service now input s w with ⟨heq, -⟩ | ⟨before, s', -, heq⟩
  · exact heq ▸ hsound
  · exact heq ▸ sound_resume hkeeps hsound now s'

theorem sound_inputs (hkeeps : service.Keeps sound) (hsound : sound w)
    (inputs : List (Nat × Input)) (s : Server) : sound (s.run service w inputs).2.2 := by
  induction inputs generalizing s w with
  | nil => exact hsound
  | cons input rest ih =>
    obtain ⟨now, input⟩ := input
    exact ih (sound_next hkeeps hsound now input s) _

theorem permits_resume (service : Service σ) (now : Nat) (s : Server) (w : σ) :
    (s.resume service now w).2.1.permits = s.permits := by
  rw [Server.resume]
  dsimp only
  split <;> rfl

theorem permits_next (service : Service σ) (now : Nat) (input : Input) (s : Server) (w : σ) :
    (s.next service now input w).2.1.permits = s.permits := by
  rcases next_cases service now input s w with ⟨heq, -⟩ | ⟨before, s', hpermits, heq⟩
  · rw [heq]
  · rw [heq]
    exact (permits_resume service now s' w).trans hpermits

/-- There are always as many permits as in the beginning. -/
theorem permits_run (service : Service σ) (inputs : List (Nat × Input)) (s : Server) (w : σ) :
    (s.run service w inputs).2.1.permits = s.permits := by
  induction inputs generalizing s w with
  | nil => rfl
  | cons input rest ih =>
    obtain ⟨now, input⟩ := input
    exact (ih _ _).trans (permits_next service now input s w)

/-- Nobody waits to be accepted, as long as the daemon goes on and there is a permit. -/
def Prompt (s : Server) : Prop :=
  s.stopping = false → s.waiting ≠ [] → s.permits ≤ s.active.length

theorem prompt_of_stopping {s : Server} (h : s.stopping = true) : s.Prompt :=
  fun hrunning => absurd h (Bool.eq_false_iff.1 hrunning)

theorem prompt_resume (service : Service σ) (now : Nat) (s : Server) (w : σ) :
    (s.resume service now w).2.1.Prompt := by
  rw [Server.resume]
  dsimp only
  split
  · next hstopping => exact prompt_of_stopping hstopping
  · exact fun _ => full_of_acceptWaiting service now s.permits _ s.waiting

/-- After an input nobody waits in vain; that accepting failed changes nothing. -/
theorem prompt_next {s : Server} {input : Input} (h : s.Prompt ∨ input ≠ .acceptFailed)
    (service : Service σ) (now : Nat) (w : σ) : (s.next service now input w).2.1.Prompt := by
  rcases next_cases service now input s w with ⟨heq, hnothing⟩ | ⟨before, s', -, heq⟩
  · rw [heq]
    rcases hnothing with hstopping | hfailed
    · exact prompt_of_stopping hstopping
    · exact h.resolve_right fun hother => hother hfailed
  · rw [heq]
    exact prompt_resume service now s' w

theorem Prompt.run {s : Server} (hprompt : s.Prompt) (service : Service σ)
    (inputs : List (Nat × Input)) (w : σ) : (s.run service w inputs).2.1.Prompt := by
  induction inputs generalizing s w with
  | nil => exact hprompt
  | cons input rest ih =>
    obtain ⟨now, input⟩ := input
    exact ih (prompt_next (.inl hprompt) service now w) _

/-! ## What is heard of a client -/

/-- What has come from a client after an input, if it has a connection. -/
def heardNow (client : Nat) (s : Server) (past : Heard) : Input → Heard
  | .deliver other arrival =>
    if other = client ∧ ¬ s.Unknown client then past.append arrival.content else past
  | .stop => past.stop
  | _ => past

/-- What has come from a client after some inputs. -/
def heardIn (service : Service σ) (client : Nat) (past : Heard) (s : Server) (w : σ) :
    List (Nat × Input) → Heard
  | [] => past
  | (now, input) :: rest =>
    let after := (s.next service now input w).2
    heardIn service client (heardNow client s past input) after.1 after.2 rest

end Server
end TokenBroker
