import TokenBroker.Proofs.Daemon.Course
import TokenBroker.Proofs.Daemon.Request
/-!
# Commands that come in step

A client that numbers its commands one after the other is never reported to have left one out,
however its bytes are cut, whatever becomes of the commands, and wherever they break off.

* `Series` says of commands that each has the id after the one before it.
* `Handler.InStep` is a handler that has in hand, and is still to be given, nothing but the rest of
  such commands; `InStep.run` says that it notes no gap and stays so.
* `Server.inStep` is the course of the connection of such a client among any others, and
  `Server.unbroken_of_series` says the same of the bytes that it sends.
-/

set_option autoImplicit false

namespace TokenBroker

/-- Requests that a daemon reads as they are meant, each with the id after the one before it. -/
inductive Series : Sequence.Observer → List Request → Prop where
  | nil (o : Sequence.Observer) : Series o []
  | cons {o : Sequence.Observer} {q : Request} {rest : List Request} :
      (∀ previous, o.previous = some previous → q.id - previous = 1) →
      q.payload.length < UInt32.size → Series ⟨some q.id⟩ rest → Series o (q :: rest)

namespace Handler

/-- No gap is noted. -/
def Gapless (events : List Event) : Prop :=
  ∀ previous current, Event.gap previous current ∉ events

theorem gapless_nil : Gapless [] := fun _ _ hmem => by cases hmem

theorem gapless_singleton {event : Event} (h : ∀ previous current, event ≠ .gap previous current) :
    Gapless [event] := fun previous current hmem =>
  h previous current (List.mem_singleton.1 hmem).symm

/-- Whatever happens when a connection ends, or is not served, is no gap. -/
theorem gapless_finish (h : Handler) : Gapless h.finish.1 :=
  gapless_singleton fun _ _ => Event.noConfusion

theorem gapless_rejected (reset : Bool) : Gapless [.rejected reset] :=
  gapless_singleton fun _ _ => Event.noConfusion

theorem gapless_append {a b : List Event} (ha : Gapless a) (hb : Gapless b) : Gapless (a ++ b) :=
  fun previous current hmem => (List.mem_append.1 hmem).elim (ha previous current)
    (hb previous current)

theorem noteId_of_next {o : Sequence.Observer} {id : UInt32}
    (h : ∀ previous, o.previous = some previous → id - previous = 1) :
    noteId o id = ([], ⟨some id⟩) := by
  rw [noteId, Sequence.Observer.observe]
  cases hprevious : o.previous with
  | none => rfl
  | some previous =>
    dsimp only
    rw [if_pos (h previous hprevious)]

theorem gapless_respond (limit : Nat) (socket : Socket) (label : String) (received : Nat)
    (id : UInt32) (reply : Reply) (last : Bool) :
    Gapless (respond limit socket label received id reply last).1 := by
  rw [respond]
  split
  · exact gapless_singleton fun _ _ => Event.noConfusion
  · exact gapless_nil

theorem gapless_conclude (now : Nat) (h : Handler) (response : Response) (last : Bool) :
    Gapless (h.conclude now response last).1 := by
  intro previous current hmem
  cases last with
  | true =>
    rcases List.mem_cons.1 hmem with hanswered | hclosed
    · cases hanswered
    · cases List.mem_singleton.1 hclosed
  | false => cases List.mem_singleton.1 hmem

variable {coming : Bytes} {h : Handler}

/-- What a handler has read, with what it still gets to read, is the rest of a series of requests
that is in step with what it has seen. -/
inductive InStep (coming : Bytes) (h : Handler) : Prop where
  | header {rest : List Request} :
      h.phase = .reading .header → h.soFar.length ≤ Header.size →
      h.soFar ++ (h.socket.unread ++ coming) = rest.flatMap Request.frame →
      Series h.observer rest → InStep coming h
  | body {wanted : Wanted} {body : Bytes} {rest : List Request} :
      h.phase = .reading wanted → wanted.isHeader = false → h.soFar.length ≤ wanted.need →
      wanted.need = body.length →
      h.soFar ++ (h.socket.unread ++ coming) = body ++ rest.flatMap Request.frame →
      Series h.observer rest → InStep coming h
  | writing {response : Response} {left : Bytes} {rest : List Request} :
      h.phase = .writing response left false → h.soFar = [] →
      h.socket.unread ++ coming = rest.flatMap Request.frame → Series h.observer rest →
      InStep coming h
  | last {response : Response} {left : Bytes} :
      h.phase = .writing response left true → InStep coming h
  | ended : h.phase = .ended → InStep coming h

/-- Bytes that were to come are as good as bytes that have come. -/
theorem InStep.of_eq {later : Bytes} {h' : Handler} (hstep : h.InStep coming)
    (hphase : h'.phase = h.phase) (hsoFar : h'.soFar = h.soFar)
    (hobserver : h'.observer = h.observer)
    (hbytes : h'.socket.unread ++ later = h.socket.unread ++ coming) : h'.InStep later := by
  cases hstep with
  | header hheader hwithin hread hseries =>
    rw [← hbytes, ← hsoFar] at hread
    exact .header (hphase.trans hheader) (hsoFar ▸ hwithin) hread (hobserver ▸ hseries)
  | body hbody hpayload hwithin hneed hread hseries =>
    rw [← hbytes, ← hsoFar] at hread
    exact .body (hphase.trans hbody) hpayload (hsoFar ▸ hwithin) hneed hread (hobserver ▸ hseries)
  | writing hwriting hnone hread hseries =>
    exact .writing (hphase.trans hwriting) (hsoFar.trans hnone) (hbytes.trans hread)
      (hobserver ▸ hseries)
  | last hwriting => exact .last (hphase.trans hwriting)
  | ended hended => exact .ended (hphase.trans hended)

/-! ## One turn -/

/-- The part that a handler reads, out of all that it gets to read. -/
theorem part_eq {need : Nat} {part later : Bytes} (hwithin : h.soFar.length ≤ need)
    (henough : need ≤ h.soFar.length + h.socket.unread.length) (hneed : need = part.length)
    (hbytes : h.soFar ++ (h.socket.unread ++ coming) = part ++ later) :
    h.part need = part ∧ (h.remaining need).unread ++ coming = later := by
  have hall : h.part need ++ ((h.remaining need).unread ++ coming) = part ++ later := by
    rw [← hbytes, ← List.append_assoc, part_append_remaining, List.append_assoc]
  have hlength : (h.part need).length = part.length := (length_part hwithin henough).trans hneed
  exact List.append_inj hall hlength

/-- After a part was read, an answer is written or the connection ends. -/
theorem inStep_respond {need now : Nat} {observer : Sequence.Observer} {rest : List Request}
    (hbytes : (h.remaining need).unread ++ coming = rest.flatMap Request.frame)
    (hseries : Series observer rest) (limit : Nat) (label : String) (received : Nat) (id : UInt32)
    (reply : Reply) (last : Bool) :
    (h.goOn need now (respond limit (h.remaining need) label received id reply last).2
      observer).InStep coming := by
  rw [respond]
  split
  · exact .ended rfl
  · cases last with
    | false => exact .writing rfl rfl hbytes hseries
    | true => exact .last rfl

/-- A header that was read is one of the series, and its payload comes next. -/
theorem inStep_judge (now limit : Nat) {q : Request} {rest : List Request}
    {observer : Sequence.Observer} (hdeclared : q.payload.length < UInt32.size)
    (hbytes : (h.remaining Header.size).unread ++ coming
      = q.payload ++ rest.flatMap Request.frame)
    (hseries : Series observer rest) :
    Gapless (judge limit (h.remaining Header.size) q.header).1
      ∧ (h.goOn Header.size now (judge limit (h.remaining Header.size) q.header).2
          observer).InStep coming := by
  have hsize : q.header.dataSize.toNat = q.payload.length := UInt32.toNat_ofNat_of_lt' hdeclared
  rw [judge]
  split
  · exact ⟨gapless_nil, .body rfl rfl (Nat.zero_le _) hsize hbytes hseries⟩
  · refine ⟨gapless_respond _ _ _ _ _ _ _, ?_⟩
    rw [respond_status]
    exact .last rfl
  · exact ⟨gapless_nil, .body rfl rfl (Nat.zero_le _) hsize hbytes hseries⟩

/-- What comes of a part that was read. -/
theorem InStep.act {σ : Type} (hstep : h.InStep coming) {wanted : Wanted}
    (hphase : h.phase = .reading wanted)
    (henough : wanted.need ≤ h.soFar.length + h.socket.unread.length) (service : Service σ)
    (now : Nat) (w : σ) :
    let turn := act service now h.identity h.observer (h.remaining wanted.need) wanted
      (h.part wanted.need) w
    Gapless turn.events ∧ (h.goOn wanted.need now turn.phase turn.observer).InStep coming := by
  cases hstep with
  | @header rest hheader hwithin hbytes hseries =>
    obtain rfl : Wanted.header = wanted := Phase.reading.inj (hheader.symm.trans hphase)
    cases hseries with
    | nil =>
      -- nothing is left that could be a header
      have hlength := congrArg List.length hbytes
      rw [List.length_append, List.length_append, List.flatMap_nil, List.length_nil] at hlength
      rw [Wanted.need, Header.size] at henough
      omega
    | @cons _ q rest hnext hdeclared hrest =>
      rw [List.flatMap_cons, Request.frame, List.append_assoc] at hbytes
      have hsize : Header.size = q.header.encode.length :=
        (CommandHeader.length_encode q.header).symm
      obtain ⟨hpart, hremaining⟩ := part_eq hwithin henough hsize hbytes
      have hnote : noteId h.observer q.header.id = ([], ⟨some q.id⟩) := noteId_of_next hnext
      obtain ⟨hquiet, hjudged⟩ := inStep_judge now service.limit hdeclared hremaining hrest
      simp only [Handler.act, Wanted.need, hpart, CommandHeader.decode?_encode, hnote,
        List.nil_append]
      exact ⟨hquiet, hjudged⟩
  | @body wanted' body rest hbody hpayload hwithin hneed hbytes hseries =>
    obtain rfl : wanted' = wanted := Phase.reading.inj (hbody.symm.trans hphase)
    obtain ⟨hpart, hremaining⟩ := part_eq hwithin henough hneed hbytes
    cases wanted' with
    | header => cases hpayload
    | payload header command =>
      refine ⟨fun previous current hmem => ?_, inStep_respond hremaining hseries _ _ _ _ _ _⟩
      rcases List.mem_cons.1 hmem with hdispatched | hresponse
      · cases hdispatched
      · exact gapless_respond _ _ _ _ _ _ _ previous current hresponse
    | refused header reason =>
      exact ⟨gapless_respond _ _ _ _ _ _ _, inStep_respond hremaining hseries _ _ _ _ _ _⟩
  | writing hwriting => cases hwriting.symm.trans hphase
  | last hwriting => cases hwriting.symm.trans hphase
  | ended hended => cases hended.symm.trans hphase

/-- Writing reads nothing. -/
theorem InStep.writeOn (hstep : h.InStep coming) {response : Response} {left : Bytes} {last : Bool}
    (hphase : h.phase = .writing response left last) (now : Nat) :
    Gapless (h.writeOn now response left last).1
      ∧ (h.writeOn now response left last).2.InStep coming := by
  have hkept : ∀ (left' : Bytes) (outlet : Outlet),
      ({ h with outlet := outlet, phase := .writing response left' last } : Handler).InStep coming
        ∧ (({ h with outlet := outlet } : Handler).conclude now response last).2.InStep coming := by
    intro left' outlet
    cases hstep with
    | header hreading => cases hreading.symm.trans hphase
    | body hreading => cases hreading.symm.trans hphase
    | @writing _ _ rest hwriting hread hbytes hseries =>
      obtain ⟨-, -, rfl⟩ := Phase.writing.inj (hwriting.symm.trans hphase)
      refine ⟨.writing rfl hread hbytes hseries, .header rfl ?_ ?_ hseries⟩
      · show h.soFar.length ≤ Header.size
        rw [hread]
        exact Nat.zero_le _
      · show h.soFar ++ _ = _
        rw [hread]
        exact hbytes
    | last hwriting =>
      obtain ⟨-, -, rfl⟩ := Phase.writing.inj (hwriting.symm.trans hphase)
      exact ⟨.last rfl, .ended rfl⟩
    | ended hended => cases hended.symm.trans hphase
  rw [Handler.writeOn]
  split
  · exact ⟨gapless_finish h, .ended rfl⟩
  · split
    · exact ⟨gapless_nil, hstep⟩
    · dsimp only
      have hsent : Gapless (if (h.outlet.offer left.length).1 = 0 then []
          else [.sent (left.take (h.outlet.offer left.length).1)]) := by
        split
        · exact gapless_nil
        · exact gapless_singleton fun _ _ => Event.noConfusion
      split
      · exact ⟨hsent, (hkept _ _).1⟩
      · exact ⟨gapless_append hsent (gapless_conclude now _ response last), (hkept left _).2⟩

/-- A part that is not complete is taken in. -/
theorem InStep.takeIn (hstep : h.InStep coming) {wanted : Wanted}
    (hphase : h.phase = .reading wanted)
    (hshort : h.soFar.length + h.socket.unread.length < wanted.need) :
    ({ h with
      socket := { h.socket with unread := [], noted := false }
      soFar := h.soFar ++ h.socket.unread } : Handler).InStep coming := by
  have hwithin : (h.soFar ++ h.socket.unread).length ≤ wanted.need := by
    rw [List.length_append]
    exact Nat.le_of_lt hshort
  cases hstep with
  | header hheader _ hbytes hseries =>
    obtain rfl : Wanted.header = wanted := Phase.reading.inj (hheader.symm.trans hphase)
    exact .header hheader hwithin (by rw [← hbytes, List.append_assoc]; rfl) hseries
  | body hbody hpayload _ hneed hbytes hseries =>
    obtain rfl := Phase.reading.inj (hbody.symm.trans hphase)
    exact .body hbody hpayload hwithin hneed (by rw [← hbytes, List.append_assoc]; rfl) hseries
  | writing hwriting => cases hwriting.symm.trans hphase
  | last hwriting => cases hwriting.symm.trans hphase
  | ended hended => cases hended.symm.trans hphase

/-! ## A whole run -/

/-- **A handler that is in step notes no gap, and stays in step.** -/
theorem InStep.run {σ : Type} (hstep : h.InStep coming) (service : Service σ) (now : Nat)
    (stopping : Bool) (w : σ) :
    Gapless (Handler.run service now stopping h w).1
      ∧ (Handler.run service now stopping h w).2.1.InStep coming := by
  -- the measure of the run itself: each part that is read, or written to its end, lowers it
  induction hmeasure : h.measure using Nat.strongRecOn generalizing h w with
  | _ n ih =>
  subst hmeasure
  cases hphase : h.phase with
  | ended =>
    rw [run_ended hphase]
    exact ⟨gapless_nil, hstep⟩
  | writing response left last =>
    obtain ⟨hquiet, hwritten⟩ := hstep.writeOn hphase now
    rw [run_writing hphase]
    dsimp only
    split
    · next hdone =>
      have hless : (h.writeOn now response left last).2.measure < h.measure := by
        rw [measure_writeOn, hdone, measure, hphase, Phase.weight]
        omega
      obtain ⟨hmore, hafter⟩ := ih _ hless hwritten w rfl
      exact ⟨gapless_append hquiet hmore, hafter⟩
    · exact ⟨hquiet, hwritten⟩
  | reading wanted =>
    by_cases hstop : (stopping && wanted.isHeader) = true
    · rw [run_stopping hphase hstop]
      exact ⟨gapless_finish h, .ended rfl⟩
    · rw [Bool.not_eq_true] at hstop
      rcases Nat.lt_or_ge (h.soFar.length + h.socket.unread.length) wanted.need with
        hshort | henough
      · by_cases halive : h.socket.ended = false ∧ h.socket.reset = false
        · rw [run_reading hphase hstop, Socket.fill_of_lt halive.1 halive.2 hshort]
          exact ⟨gapless_nil, hstep.takeIn hphase hshort⟩
        · obtain ⟨error, socket, hfill⟩ := Socket.fill_of_over halive hshort
          rw [run_reading hphase hstop, hfill]
          exact ⟨gapless_finish _, .ended rfl⟩
      · obtain ⟨hquiet, hacted⟩ := hstep.act hphase henough service now w
        have hless := measure_goOn_act_lt service now hphase henough w
        obtain ⟨hmore, hafter⟩ := ih _ hless hacted _ rfl
        rw [run_reading hphase hstop, Socket.fill_of_le henough]
        exact ⟨gapless_append hquiet hmore, hafter⟩

/-- As long as a client sends requests, or as much of them as it comes to, no gap is noted, and its
handler is in step with the rest of them. -/
def Along (requests : List Request) (past : Heard) (events : List Event) (h : Handler) : Prop :=
  past.bytes <+: requests.flatMap Request.frame →
    Gapless events ∧ h.InStep ((requests.flatMap Request.frame).drop past.bytes.length)

section

variable {requests : List Request} {past : Heard} {events : List Event}

theorem along_of_start {scope : IdentityScope} {c : Waiting} {now : Nat}
    (hseries : Series {} requests) (hunread : c.socket.unread = past.bytes)
    (hstart : Handler.start scope c.uid c.socket c.outlet now = (events, some h)) :
    h.Along requests past events := by
  intro hsent
  obtain ⟨rfl, hsocket, -, hphase, hsoFar, hobserver⟩ := of_start_some hstart
  refine ⟨gapless_singleton fun _ _ => Event.noConfusion,
    .header hphase (hsoFar ▸ Nat.zero_le _) ?_ (hobserver ▸ hseries)⟩
  rw [hsoFar, hsocket, hunread, List.nil_append]
  exact List.prefix_iff_eq_append.1 hsent

/-- What arrives was to come. -/
theorem Along.hear (halong : h.Along requests past events) (arrival : Arrival) :
    ({ h with socket := h.socket.receive arrival } : Handler).Along requests
      (past.append arrival.content) events := by
  intro hsent
  obtain ⟨later, hlater⟩ := hsent
  rw [Heard.append] at hlater ⊢
  rw [Along, ← hlater, List.append_assoc] at halong
  obtain ⟨hquiet, hstep⟩ := halong (List.prefix_append _ _)
  rw [List.drop_left] at hstep
  rw [← hlater, List.drop_left]
  refine ⟨hquiet, hstep.of_eq rfl rfl rfl ?_⟩
  dsimp only
  rw [Socket.unread_receive, List.append_assoc]

theorem Along.makeRoom (halong : h.Along requests past events) (count : Nat) :
    ({ h with outlet := h.outlet.consume count } : Handler).Along requests past events :=
  fun hsent => ⟨(halong hsent).1, (halong hsent).2.of_eq rfl rfl rfl rfl⟩

theorem Along.run {σ : Type} (halong : h.Along requests past events) (service : Service σ)
    (now : Nat) (stopping : Bool) (w : σ) :
    (Handler.run service now stopping h w).2.1.Along requests past
      (events ++ (Handler.run service now stopping h w).1) := by
  intro hsent
  obtain ⟨hquiet, hstep⟩ := halong hsent
  obtain ⟨hmore, hafter⟩ := hstep.run service now stopping w
  exact ⟨gapless_append hquiet hmore, hafter⟩

end

end Handler

/-! ## One connection among others -/

namespace Server

open Handler

variable {σ : Type} {service : Service σ} {s : Server} {w : σ} {client : Nat}

/-- The course of a connection on which a client sends requests in step, or as much of them as it
comes to. -/
def inStep (service : Service σ) {requests : List Request} (hseries : Series {} requests) :
    Course service (fun _ => True) (fun _ => True) where
  waiting := fun past c => c.socket.unread = past.bytes
  busy := Along requests
  resting := Along requests
  closed := fun past events => past.bytes <+: requests.flatMap Request.frame → Gapless events
  queue := fun hwaiting _ => (Socket.unread_receive _ _).trans (congrArg (· ++ _) hwaiting)
  refuse := fun _ hstart _ => events_of_start_none hstart ▸ gapless_rejected _
  begin := fun hwaiting _ hstart => along_of_start hseries hwaiting hstart
  turnAway := fun _ _ => gapless_rejected true
  wake := fun hresting => hresting
  hear := fun hresting _ => hresting.hear _
  makeRoom := fun count hresting => hresting.makeRoom count
  run := fun {past events h w} now hbusy _ => by
    have hrun := hbusy.run service now past.told.isSome w
    dsimp only
    split
    · exact fun hsent => (hrun hsent).1
    · exact hrun
  expire := fun _ hresting _ hsent => gapless_append (hresting hsent).1 (gapless_finish _)
  tell := fun hresting => hresting
  conclude := fun hclosed => hclosed

theorem gapless_of_at {requests : List Request} {hseries : Series {} requests} {past : Heard}
    {events : List Event}
    (hat : (inStep service hseries).At (inStep service hseries).resting client past events s)
    (hsent : past.bytes <+: requests.flatMap Request.frame) : Gapless events := by
  cases hat.stands with
  | waits _ _ _ hnone _ => exact hnone ▸ gapless_nil
  | serves _ _ hresting => exact (hresting hsent).1
  | closed _ _ hclosed => exact hclosed hsent

/-- No gap is noted of a client that sends these bytes on a connection, or a beginning of them, in
whatever pieces, on whatever server and among whatever others. -/
def Unbroken (sent : Bytes) : Prop :=
  ∀ {σ : Type} (service : Service σ) (s : Server) (w : σ) (client now : Nat)
    (uid : Option UInt32) (outlet : Outlet) (inputs : List (Nat × Input)),
    let all := (now, Input.connect client uid outlet) :: inputs
    s.Unknown client → (∀ input ∈ inputs, input.2.connects client = false) →
    (heardFrom service client s w all).bytes <+: sent →
    Gapless (eventsOf client (s.run service w all).1)

/-- **A client that sends requests in step, or as much of them as it comes to, is never reported to
have left one out.** -/
theorem unbroken_of_series {sent : Bytes} {requests : List Request} (hseries : Series {} requests)
    (hsent : sent <+: requests.flatMap Request.frame) : Unbroken sent := by
  intro σ service s w client now uid outlet inputs all hnew honce hheard
  have hat : (inStep service hseries).At (inStep service hseries).resting client
      (heardFrom service client s w all) (eventsOf client (s.run service w all).1)
      (s.run service w all).2.1 :=
    (inStep service hseries).at_of_run hnew rfl (fun _ => gapless_nil)
      (fun input hinput => allows_of_connects (honce input hinput)) (fun _ _ _ _ _ _ => trivial)
      trivial now
  exact gapless_of_at hat (hheard.trans hsent)

end Server
end TokenBroker
