import TokenBroker.Proofs.Daemon.Clients
/-!
# The course of one connection

Of what a server does, its clients each get to see what happens on their own connection.  Whatever
can be said of that in the course of time is a matter of one handler, and of what its client does.

* `Course` is something that can be said of a connection, together with the reasons why it goes on
  holding: one for each thing that can come to the connection.
* `Course.At.run` says that it then holds on any server, whatever other clients do, how often the
  connection is run, and when it is accepted or dropped.

What a client sends counts as long as it has a connection.
-/

set_option autoImplicit false

namespace TokenBroker
namespace Server

open Handler

variable {σ : Type} {service : Service σ} {sound : σ → Prop} {client : Nat} {w : σ}

/-- Something that can be said of a connection at any time, given what was heard of its client and
all that happened: while it waits to be accepted, when its handler is to be run, when that is at
rest, and when the connection is over.  It goes on holding in all that the client does, as far as
that is allowed, and in all that the daemon does. -/
structure Course (service : Service σ) (sound : σ → Prop) (allowed : Arrival → Prop) where
  waiting : Heard → Waiting → Prop
  busy : Heard → List Event → Handler → Prop
  resting : Heard → List Event → Handler → Prop
  closed : Heard → List Event → Prop
  queue : ∀ {past : Heard} {c : Waiting} {arrival : Arrival}, waiting past c → allowed arrival →
    waiting (past.append arrival.content) { c with socket := c.socket.receive arrival }
  refuse : ∀ {past : Heard} {c : Waiting} {now : Nat} {events : List Event}, waiting past c →
    Handler.start service.scope c.uid c.socket c.outlet now = (events, none) → closed past events
  begin : ∀ {past : Heard} {c : Waiting} {now : Nat} {events : List Event} {h : Handler},
    waiting past c → past.told = none →
    Handler.start service.scope c.uid c.socket c.outlet now = (events, some h) →
    busy past events h
  turnAway : ∀ {past : Heard} {c : Waiting}, waiting past c → closed past.stop [.rejected true]
  wake : ∀ {past : Heard} {events : List Event} {h : Handler}, resting past events h →
    busy past events h
  hear : ∀ {past : Heard} {events : List Event} {h : Handler} {arrival : Arrival},
    resting past events h → allowed arrival →
    busy (past.append arrival.content) events { h with socket := h.socket.receive arrival }
  makeRoom : ∀ {past : Heard} {events : List Event} {h : Handler} (count : Nat),
    resting past events h → busy past events { h with outlet := h.outlet.consume count }
  run : ∀ {past : Heard} {events : List Event} {h : Handler} {w : σ} (now : Nat),
    busy past events h → sound w →
    let result := h.run service now past.told.isSome w
    if result.2.1.isEnded then closed past (events ++ result.1)
    else resting past (events ++ result.1) result.2.1
  expire : ∀ {past : Heard} {events : List Event} {h : Handler} (now : Nat),
    resting past events h → isOverdue service.idle now h = true → closed past (events ++ h.finish.1)
  tell : ∀ {past : Heard} {events : List Event} {h : Handler}, resting past events h →
    busy past.stop events h
  conclude : ∀ {past : Heard} {events : List Event}, closed past events → closed past.stop events

variable {allowed : Arrival → Prop} {course : Course service sound allowed}
  {serving : Heard → List Event → Handler → Prop} {past : Heard} {events : List Event} {s : Server}

/-- Where its course has taken the connection of a client. -/
inductive Course.Stands (course : Course service sound allowed)
    (serving : Heard → List Event → Handler → Prop) (client : Nat) (past : Heard)
    (events : List Event) (s : Server) : Prop where
  | waits {c : Waiting} : s.stopping = false → handlersOf client s.active = [] →
      queuedOf client s.waiting = [c] → events = [] → course.waiting past c →
      Course.Stands course serving client past events s
  | serves {h : Handler} : handlersOf client s.active = [h] → queuedOf client s.waiting = [] →
      serving past events h → Course.Stands course serving client past events s
  | closed : handlersOf client s.active = [] → queuedOf client s.waiting = [] →
      course.closed past events → Course.Stands course serving client past events s

/-- The connection of a client is where its course has taken it, and what was heard tells whether
the daemon is stopping. -/
structure Course.At (course : Course service sound allowed)
    (serving : Heard → List Event → Handler → Prop) (client : Nat) (past : Heard)
    (events : List Event) (s : Server) : Prop where
  told : s.stopping = past.told.isSome
  stands : course.Stands serving client past events s

/-- The handler of the client is run, if it is served. -/
theorem Course.stands_of_run (hqueued : queuedOf client s.waiting = []) {h : Handler}
    (hbusy : course.busy past events h) (hsound : sound w) (now : Nat) {more : List Event}
    (hmore : more = (h.run service now past.told.isSome w).1)
    (hleft : handlersOf client s.active
      = if (h.run service now past.told.isSome w).2.1.isEnded then []
        else [(h.run service now past.told.isSome w).2.1]) :
    course.Stands course.resting client past (events ++ more) s := by
  have hrun := course.run now hbusy hsound
  subst hmore
  dsimp only at hrun
  split at hrun
  · next hended =>
    rw [if_pos hended] at hleft
    exact .closed hleft hqueued hrun
  · next hgoing =>
    rw [if_neg hgoing] at hleft
    exact .serves hleft hqueued hrun

theorem stopping_resume (service : Service σ) (now : Nat) (s : Server) (w : σ) :
    (s.resume service now w).2.1.stopping = s.stopping := by
  rw [Server.resume]
  dsimp only
  split <;> rfl

/-- Nothing happens to a client that has no connection. -/
theorem resume_absent (habsent : handlersOf client s.active = [])
    (hqueued : queuedOf client s.waiting = []) (service : Service σ) (now : Nat) (w : σ) :
    let result := s.resume service now w
    eventsOf client result.1 = [] ∧ handlersOf client result.2.1.active = []
      ∧ queuedOf client result.2.1.waiting = [] := by
  obtain ⟨hquiet, hstill⟩ := runActive_absent habsent service now s.stopping w
  rw [Server.resume]
  dsimp only
  split
  · exact ⟨hquiet, hstill, hqueued⟩
  · obtain ⟨hquiet', hothers, hgone⟩ :=
      acceptWaiting_absent hqueued service now s.permits
        (runActive service now s.stopping s.active w)
    exact ⟨hquiet'.trans hquiet, hothers.trans hstill, hgone⟩

/-- The client is accepted. -/
theorem Course.stands_of_acceptOne {c : Waiting} (hwaiting : course.waiting past c)
    (htold : past.told = none) {q : Progress σ} (hsound : sound q.state)
    (hevents : eventsOf c.client q.happenings = []) (habsent : handlersOf c.client q.active = [])
    (now : Nat) (hqueued : queuedOf c.client s.waiting = [])
    (hactive : handlersOf c.client s.active
      = handlersOf c.client (acceptOne service now q c).active) :
    course.Stands course.resting c.client past
      (eventsOf c.client (acceptOne service now q c).happenings) s := by
  rcases acceptOne_self service now q c with
    ⟨started, hstart, hheard, hleft⟩ | ⟨started, h, hstart, hheard, hleft⟩
  · rw [hheard, hevents, List.nil_append]
    exact .closed (hactive.trans (hleft.trans habsent)) hqueued (course.refuse hwaiting hstart)
  · rw [hheard, hevents, List.nil_append]
    have hgoing : past.told.isSome = false := by rw [htold]; rfl
    refine course.stands_of_run hqueued (course.begin hwaiting htold hstart) hsound now ?_ ?_
    · rw [hgoing]
    · rw [hactive, hleft, habsent, hgoing, List.nil_append]

/-- What can run is run, and clients are accepted. -/
theorem Course.At.resume (hat : course.At course.busy client past events s)
    (hkeeps : service.Keeps sound) (hsound : sound w) (now : Nat) :
    course.At course.resting client past (events ++ eventsOf client (s.resume service now w).1)
      (s.resume service now w).2.1 := by
  obtain ⟨htold, hstands⟩ := hat
  refine ⟨(stopping_resume service now s w).trans htold, ?_⟩
  have hsound' := sound_runActive hkeeps hsound now s.stopping s.active
  -- those who are served come first, and then those who wait
  cases hstands with
  | @waits c hrunning habsent hqueued hnone hwaiting =>
    obtain ⟨hquiet, hstill⟩ := runActive_absent habsent service now s.stopping w
    rw [Server.resume]
    dsimp only
    split
    · next hstopping =>
      rw [hrunning] at hstopping
      cases hstopping
    · have hgoing : past.told = none :=
        Option.not_isSome_iff_eq_none.1 (Bool.eq_false_iff.1 (htold.symm.trans hrunning))
      rcases acceptWaiting_queued hqueued hkeeps now s.permits _ hsound' with
        ⟨hevents, hserved, hwaits⟩ | ⟨hgone, q, hsoundq, hevents, hserved, hevents', hserved'⟩
      · exact .waits hrunning (hserved.trans hstill) hwaits (by rw [hnone, hevents, hquiet]; rfl)
          hwaiting
      · obtain rfl := client_of_queued hqueued
        rw [hevents', hnone, List.nil_append]
        exact course.stands_of_acceptOne hwaiting hgoing hsoundq (hevents.trans hquiet)
          (hserved.trans hstill) now hgone hserved'
  | serves hserved hqueued hbusy =>
    obtain ⟨w₁, hsound₁, hevents, hleft⟩ :=
      runActive_served hserved hkeeps hsound now s.stopping
    rw [Server.resume]
    dsimp only
    rw [htold] at hevents hleft ⊢
    split
    · exact Course.stands_of_run
        (s := { s with
          active := (runActive service now past.told.isSome s.active w).active
          stopping := past.told.isSome }) hqueued hbusy hsound₁ now hevents hleft
    · obtain ⟨hquiet, hothers, hgone⟩ :=
        acceptWaiting_absent hqueued service now s.permits
          (runActive service now past.told.isSome s.active w)
      exact course.stands_of_run hgone hbusy hsound₁ now (hquiet.trans hevents)
        (hothers.trans hleft)
  | closed habsent hqueued hclosed =>
    obtain ⟨hquiet, hstill, hgone⟩ := resume_absent habsent hqueued service now w
    rw [hquiet, List.append_nil]
    exact .closed hstill hgone hclosed

/-- Whatever rests can be run again. -/
theorem Course.At.wake {s' : Server} (hat : course.At course.resting client past events s)
    (hserved : handlersOf client s'.active = handlersOf client s.active)
    (hqueued : queuedOf client s'.waiting = queuedOf client s.waiting)
    (hstopping : s'.stopping = s.stopping) : course.At course.busy client past events s' := by
  refine ⟨hstopping.trans hat.told, ?_⟩
  cases hat.stands with
  | waits hrunning habsent hwaits hnone hwaiting =>
    exact .waits (hstopping.trans hrunning) (hserved.trans habsent) (hqueued.trans hwaits) hnone
      hwaiting
  | serves hserves hnobody hresting =>
    exact .serves (hserved.trans hserves) (hqueued.trans hnobody) (course.wake hresting)
  | closed habsent hnobody hclosed =>
    exact .closed (hserved.trans habsent) (hqueued.trans hnobody) hclosed

/-- Something arrives from the client. -/
theorem Course.At.hear {arrival : Arrival} (hat : course.At course.resting client past events s)
    (hallowed : allowed arrival) :
    course.At course.busy client (heardNow client s past (.deliver client arrival)) events
      (s.receive client arrival) := by
  have hserved := handlersOf_touch client client
    (fun h => { h with socket := h.socket.receive arrival }) s.active
  have hqueued := queuedOf_receive s client client arrival
  rw [if_pos rfl] at hserved hqueued
  obtain ⟨htold, hstands⟩ := hat
  cases hstands with
  | waits hrunning habsent hwaits hnone hwaiting =>
    have hknown : ¬ s.Unknown client := fun hunknown => by
      rw [(unknown_iff.1 hunknown).2] at hwaits
      cases hwaits
    rw [heardNow, if_pos ⟨rfl, hknown⟩]
    rw [habsent] at hserved
    rw [hwaits] at hqueued
    exact ⟨htold, .waits hrunning hserved hqueued hnone (course.queue hwaiting hallowed)⟩
  | serves hserves hnobody hresting =>
    have hknown : ¬ s.Unknown client := fun hunknown => by
      rw [(unknown_iff.1 hunknown).1] at hserves
      cases hserves
    rw [heardNow, if_pos ⟨rfl, hknown⟩]
    rw [hserves] at hserved
    rw [hnobody] at hqueued
    exact ⟨htold, .serves hserved hqueued (course.hear hresting hallowed)⟩
  | closed habsent hnobody hclosed =>
    rw [heardNow, if_neg fun hknown => hknown.2 (unknown_iff.2 ⟨habsent, hnobody⟩)]
    rw [habsent] at hserved
    rw [hnobody] at hqueued
    exact ⟨htold, .closed hserved hqueued hclosed⟩

/-- The client reads some of what was written to it. -/
theorem Course.At.consume (hat : course.At course.resting client past events s) (count : Nat) :
    course.At course.busy client past events (s.makeRoom client count) := by
  have hserved := handlersOf_touch client client
    (fun h => { h with outlet := h.outlet.consume count }) s.active
  rw [if_pos rfl] at hserved
  refine ⟨hat.told, ?_⟩
  cases hat.stands with
  | waits hrunning habsent hwaits hnone hwaiting =>
    rw [habsent] at hserved
    exact .waits hrunning hserved hwaits hnone hwaiting
  | serves hserves hnobody hresting =>
    rw [hserves] at hserved
    exact .serves hserved hnobody (course.makeRoom count hresting)
  | closed habsent hnobody hclosed =>
    rw [habsent] at hserved
    exact .closed hserved hnobody hclosed

/-- Connections that kept the daemon waiting are ended. -/
theorem Course.At.expire (hat : course.At course.resting client past events s) (now : Nat) :
    let dropped := dropOverdue service.idle now s.active
    course.At course.busy client past (events ++ eventsOf client dropped.1)
      { s with active := dropped.2 } := by
  obtain ⟨hevents, hleft⟩ := of_dropOverdue client service.idle now s.active
  refine ⟨hat.told, ?_⟩
  rw [hevents]
  cases hat.stands with
  | waits hrunning habsent hwaits hnone hwaiting =>
    rw [habsent] at hleft ⊢
    exact .waits hrunning hleft hwaits (by rw [hnone]; rfl) hwaiting
  | @serves h hserves hnobody hresting =>
    rw [hserves] at hleft ⊢
    by_cases hdue : isOverdue service.idle now h = true
    · rw [List.filter_cons_of_neg (by simpa using hdue)] at hleft
      rw [List.filter_cons_of_pos hdue]
      exact .closed hleft hnobody (course.expire now hresting hdue)
    · rw [List.filter_cons_of_pos (by simpa using hdue)] at hleft
      rw [List.filter_cons_of_neg hdue, List.filter_nil, List.flatMap_nil, List.append_nil]
      exact .serves hleft hnobody (course.wake hresting)
  | closed habsent hnobody hclosed =>
    rw [habsent, List.filter_nil] at hleft ⊢
    exact .closed hleft hnobody (by rw [List.flatMap_nil, List.append_nil]; exact hclosed)

/-- The daemon is told to stop. -/
theorem Course.At.stop (hat : course.At course.resting client past events s) :
    course.At course.busy client past.stop
      (events ++ eventsOf client (s.waiting.flatMap fun c => tagged c.client [.rejected true]))
      { s with stopping := true, waiting := [] } := by
  rw [eventsOf_refused]
  refine ⟨rfl, ?_⟩
  cases hat.stands with
  | waits _ habsent hwaits hnone hwaiting =>
    rw [hwaits, hnone]
    exact .closed habsent rfl (course.turnAway hwaiting)
  | serves hserves hnobody hresting =>
    rw [hnobody, List.flatMap_nil, List.append_nil]
    exact .serves hserves rfl (course.tell hresting)
  | closed habsent hnobody hclosed =>
    rw [hnobody, List.flatMap_nil, List.append_nil]
    exact .closed habsent rfl (course.conclude hclosed)

/-- An input does not connect a client again, nor let it do what is not allowed. -/
def Input.Allows (allowed : Arrival → Prop) (client : Nat) : Input → Prop
  | .connect other _ _ => other ≠ client
  | .deliver other arrival => other = client → allowed arrival
  | _ => True

/-- What one input does. -/
theorem Course.At.next {input : Input} (hat : course.At course.resting client past events s)
    (hinput : input.Allows allowed client) (hkeeps : service.Keeps sound) (hsound : sound w)
    (now : Nat) :
    course.At course.resting client (heardNow client s past input)
      (events ++ eventsOf client (s.next service now input w).1)
      (s.next service now input w).2.1 := by
  have hidle : course.At course.resting client past (events ++ eventsOf client []) s :=
    (List.append_nil events).symm ▸ hat
  cases input with
  | connect other uid outlet =>
    rw [Server.next]
    split
    · exact hidle
    · refine Course.At.resume
        (s := { s with waiting := s.waiting ++ [⟨other, uid, {}, outlet⟩] })
        (hat.wake rfl ?_ rfl) hkeeps hsound now
      rw [queuedOf_concat, if_neg hinput, List.append_nil]
  | deliver other arrival =>
    by_cases heq : other = client
    · subst heq
      exact (hat.hear (hinput rfl)).resume hkeeps hsound now
    · rw [heardNow, if_neg fun hown => heq hown.1]
      refine Course.At.resume (s := s.receive other arrival) (hat.wake ?_ ?_ rfl) hkeeps hsound now
      · have hserved := handlersOf_touch client other
          (fun h => { h with socket := h.socket.receive arrival }) s.active
        rwa [if_neg heq] at hserved
      · rw [queuedOf_receive, if_neg heq]
  | consume other count =>
    by_cases heq : other = client
    · subst heq
      exact (hat.consume count).resume hkeeps hsound now
    · refine Course.At.resume (s := s.makeRoom other count) (hat.wake ?_ rfl rfl) hkeeps hsound now
      have hserved := handlersOf_touch client other
        (fun h => { h with outlet := h.outlet.consume count }) s.active
      rwa [if_neg heq] at hserved
  | acceptFailed => exact hidle
  | tick =>
    rw [Server.next]
    dsimp only
    rw [eventsOf_append, ← List.append_assoc]
    exact (hat.expire now).resume hkeeps hsound now
  | stop =>
    rw [Server.next]
    dsimp only
    rw [eventsOf_append, ← List.append_assoc]
    exact hat.stop.resume hkeeps hsound now

/-- **A connection keeps to its course, whatever comes.** -/
theorem Course.At.run {inputs : List (Nat × Input)}
    (hat : course.At course.resting client past events s)
    (hinputs : ∀ input ∈ inputs, input.2.Allows allowed client) (hkeeps : service.Keeps sound)
    (hsound : sound w) :
    course.At course.resting client (heardIn service client past s w inputs)
      (events ++ eventsOf client (s.run service w inputs).1) (s.run service w inputs).2.1 := by
  induction inputs generalizing past events s w with
  | nil => exact (List.append_nil events).symm ▸ hat
  | cons input rest ih =>
    obtain ⟨now, input⟩ := input
    have hmore := ih (hat.next (hinputs _ List.mem_cons_self) hkeeps hsound now)
      (fun input hinput => hinputs input (List.mem_cons_of_mem _ hinput))
      (sound_next hkeeps hsound now input s)
    rw [List.append_assoc, ← eventsOf_append] at hmore
    exact hmore

/-- A connection begins its course when its client connects. -/
theorem Course.at_of_connect (hunknown : s.Unknown client) {uid : Option UInt32} {outlet : Outlet}
    (hwaiting : course.waiting (.nothing false) ⟨client, uid, {}, outlet⟩)
    (hclosed : course.closed (.nothing true) []) (hkeeps : service.Keeps sound) (hsound : sound w)
    (now : Nat) :
    course.At course.resting client (.nothing s.stopping)
      (eventsOf client (s.next service now (.connect client uid outlet) w).1)
      (s.next service now (.connect client uid outlet) w).2.1 := by
  obtain ⟨habsent, hnobody⟩ := unknown_iff.1 hunknown
  rw [Server.next]
  split
  · next hstopping =>
    rw [hstopping]
    exact ⟨hstopping, .closed habsent hnobody hclosed⟩
  · next hrunning =>
    rw [Bool.not_eq_true] at hrunning
    have htold : s.stopping = (Heard.nothing s.stopping).told.isSome := by
      rw [hrunning]
      rfl
    have hqueued : queuedOf client (s.waiting ++ [⟨client, uid, {}, outlet⟩])
        = [⟨client, uid, {}, outlet⟩] := by
      rw [queuedOf_concat, hnobody, if_pos rfl, List.nil_append]
    have hat : course.At course.busy client (.nothing s.stopping) []
        { s with waiting := s.waiting ++ [⟨client, uid, {}, outlet⟩] } :=
      ⟨htold, .waits hrunning habsent hqueued rfl (hrunning ▸ hwaiting)⟩
    exact hat.resume hkeeps hsound now

/-- What is heard of a client from when it connects. -/
def heardFrom (service : Service σ) (client : Nat) (s : Server) (w : σ)
    (inputs : List (Nat × Input)) : Heard :=
  heardIn service client (.nothing s.stopping) s w inputs

/-- **What becomes of a client from when it connects.** -/
theorem Course.at_of_run (hunknown : s.Unknown client) {uid : Option UInt32} {outlet : Outlet}
    (hwaiting : course.waiting (.nothing false) ⟨client, uid, {}, outlet⟩)
    (hclosed : course.closed (.nothing true) []) {inputs : List (Nat × Input)}
    (hinputs : ∀ input ∈ inputs, input.2.Allows allowed client) (hkeeps : service.Keeps sound)
    (hsound : sound w) (now : Nat) :
    let all := (now, Input.connect client uid outlet) :: inputs
    course.At course.resting client (heardFrom service client s w all)
      (eventsOf client (s.run service w all).1) (s.run service w all).2.1 := by
  intro all
  have hconnected := course.at_of_connect hunknown hwaiting hclosed hkeeps hsound now
  have hrun := hconnected.run hinputs hkeeps
    (sound_next hkeeps hsound now (.connect client uid outlet) s)
  simp only [all, heardFrom, heardIn, heardNow, Server.run, eventsOf_append]
  exact hrun

/-! ## Clients without a connection -/

/-- Of a client that has no connection it can be said that it goes on having none. -/
def Course.absent (service : Service σ) : Course service (fun _ => True) (fun _ => True) where
  waiting := fun _ _ => False
  busy := fun _ _ _ => False
  resting := fun _ _ _ => False
  closed := fun _ _ => True
  queue := fun hwaiting _ => hwaiting
  refuse := fun _ _ => trivial
  begin := fun hwaiting _ _ => hwaiting
  turnAway := fun _ => trivial
  wake := fun hresting => hresting
  hear := fun hresting _ => hresting
  makeRoom := fun _ hresting => hresting
  run := fun _ hbusy _ => hbusy.elim
  expire := fun _ _ _ => trivial
  tell := fun hresting => hresting
  conclude := fun _ => trivial

theorem Course.At.unknown
    (hat : (Course.absent service).At (Course.absent service).resting client past events s) :
    s.Unknown client := by
  cases hat.stands with
  | waits _ _ _ _ hwaiting => exact hwaiting.elim
  | serves _ _ hresting => exact hresting.elim
  | closed habsent hnobody _ => exact unknown_iff.2 ⟨habsent, hnobody⟩

theorem allows_of_connects {input : Input} (hconnects : input.connects client = false) :
    input.Allows (fun _ => True) client := by
  cases input with
  | connect other uid outlet => exact of_decide_eq_false hconnects
  | deliver other arrival => exact fun _ => trivial
  | consume | acceptFailed | tick | stop => trivial

/-- A client that does not connect has no connection. -/
theorem Unknown.run (hunknown : s.Unknown client) {inputs : List (Nat × Input)}
    (honce : ∀ input ∈ inputs, input.2.connects client = false) (service : Service σ) (w : σ) :
    (s.run service w inputs).2.1.Unknown client := by
  obtain ⟨habsent, hnobody⟩ := unknown_iff.1 hunknown
  have hat : (Course.absent service).At (Course.absent service).resting client
      (.nothing s.stopping) [] s :=
    ⟨by cases s.stopping <;> rfl, .closed habsent hnobody trivial⟩
  exact (hat.run (fun input hinput => allows_of_connects (honce input hinput))
    (fun _ _ _ _ _ _ => trivial) trivial).unknown

end Server
end TokenBroker
