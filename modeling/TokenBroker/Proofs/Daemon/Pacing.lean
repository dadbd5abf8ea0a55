import TokenBroker.Proofs.Daemon.Cuts
/-!
# A client that reads when it likes

What is written to a client waits until the client has read what was written before.  Meanwhile the
daemon reads nothing of that client, and in the middle of a response it may be told to stop, or time
may pass.  What is done is still what is done for complete commands, each at the time at which the
daemon comes to it.

* `Handler.owed` is what is still to be written of a response.
* `Reference.Performs` says of the commands that were dealt with what came of them, and what bytes
  are left; `Performs.served`, `Performs.refused` and `Performs.oversized` are the next command.
* `Handler.Keeps` is a handler with what it has done so far, in each of its phases; `Upholds.run`
  says that it goes on so when it is run.
* `Server.Paces` is a server with such a connection, and `Paces.next` what an input makes of it.
* `Server.cut_between_paced_commands` is the run of a server, from the connecting on.
-/

set_option autoImplicit false

namespace TokenBroker

/-! ## Commands that were dealt with -/

namespace Reference

open Handler (answer)

variable {σ : Type} {service : Service σ} {key : IdentityKey} {w₀ w w' : σ} {times : List Nat}
  {now : Nat} {heard more rest payload written : Bytes} {header : CommandHeader}
  {calls : List (Command × Bytes × Reply)}

theorem bytesOf_stamp (now : Nat) (bytes : Bytes) : bytesOf (stamp now bytes) = bytes := by
  rw [bytesOf, stamp, List.map_map]
  exact List.map_id bytes

theorem bytesOf_append (s s' : List Stamped) : bytesOf (s ++ s') = bytesOf s ++ bytesOf s' :=
  List.map_append

/-- Of the bytes that were heard of a client, some at the front were dealt with, at some of these
times, and this came of them. -/
def Performed (service : Service σ) (key : IdentityKey) (w₀ : σ) (times : List Nat) (heard : Bytes)
    (calls : List (Command × Bytes × Reply)) (written : Bytes) (w : σ) : Prop :=
  ∃ read, bytesOf read <+: heard ∧ (∀ item ∈ read, item.1 ∈ times)
    ∧ serve service.limit key service.dispatch read w₀ = ⟨calls, written, w⟩

/-- All bytes but the rest were dealt with, and whatever follows, this comes of them first. -/
def Performs (service : Service σ) (key : IdentityKey) (w₀ : σ) (times : List Nat)
    (heard rest : Bytes) (calls : List (Command × Bytes × Reply)) (written : Bytes) (w : σ) :
    Prop :=
  ∃ read, heard = bytesOf read ++ rest ∧ (∀ item ∈ read, item.1 ∈ times)
    ∧ ∀ later, serve service.limit key service.dispatch (read ++ later) w₀
      = (serve service.limit key service.dispatch later w).after calls written

theorem performs_nothing (service : Service σ) (key : IdentityKey) (w₀ : σ) (times : List Nat)
    (heard : Bytes) : Performs service key w₀ times heard heard [] [] w₀ :=
  ⟨[], rfl, fun _ hitem => (by cases hitem), fun _ => rfl⟩

theorem Performs.performed (h : Performs service key w₀ times heard rest calls written w) :
    Performed service key w₀ times heard calls written w := by
  obtain ⟨read, hheard, htimes, hserve⟩ := h
  refine ⟨read, hheard ▸ List.prefix_append _ _, htimes, ?_⟩
  have hnothing : serve service.limit key service.dispatch [] w = ⟨[], [], w⟩ :=
    serve_of_lt (Nat.zero_lt_succ _)
  have hall := hserve []
  rw [List.append_nil, hnothing] at hall
  rw [hall, Transcript.after, List.append_nil, List.append_nil]

/-- More is heard. -/
theorem Performs.hear (h : Performs service key w₀ times heard rest calls written w)
    (more : Bytes) :
    Performs service key w₀ times (heard ++ more) (rest ++ more) calls written w := by
  obtain ⟨read, hheard, htimes, hserve⟩ := h
  exact ⟨read, by rw [hheard, List.append_assoc], htimes, hserve⟩

theorem Performed.hear (h : Performed service key w₀ times heard calls written w) (more : Bytes) :
    Performed service key w₀ times (heard ++ more) calls written w := by
  obtain ⟨read, hfront, htimes, hserve⟩ := h
  exact ⟨read, hfront.trans (List.prefix_append _ _), htimes, hserve⟩

/-- A command of which all bytes have the same time. -/
theorem frame_of_stamp (hlen : header.dataSize.toNat = payload.length) (now : Nat) :
    let frame := stamp now (header.encode ++ payload)
    CommandHeader.decode? (bytesOf (frame.take Header.size)) = some header
      ∧ frame.length = Header.size + header.dataSize.toNat
      ∧ bytesOf (frame.drop Header.size) = payload ∧ arrivedAt frame = now := by
  intro frame
  have hencode : header.encode.length = Header.size := CommandHeader.length_encode header
  have hlength : frame.length = Header.size + header.dataSize.toNat := by
    rw [← Handler.length_bytesOf, bytesOf_stamp, List.length_append, hencode, hlen]
  refine ⟨?_, hlength, ?_, ?_⟩
  · rw [bytesOf, List.map_take, ← bytesOf, bytesOf_stamp, List.take_left' hencode,
      CommandHeader.decode?_encode]
  · rw [bytesOf, List.map_drop, ← bytesOf, bytesOf_stamp, List.drop_left' hencode]
  · have hwhole : frame.take frame.length = frame := List.take_length
    rw [← hwhole]
    refine Handler.arrivedAt_of_fresh ?_ (Nat.le_refl _) fun item hitem => ?_
    · rw [hlength, Header.size]
      omega
    · obtain ⟨byte, -, rfl⟩ := List.mem_map.1 (List.mem_of_mem_drop hitem)
      rfl

theorem mem_times_append {read : List Stamped} {bytes : Bytes}
    (htimes : ∀ item ∈ read, item.1 ∈ times) (hnow : now ∈ times) :
    ∀ item ∈ read ++ stamp now bytes, item.1 ∈ times := by
  intro item hitem
  rcases List.mem_append.1 hitem with hread | hstamped
  · exact htimes item hread
  · obtain ⟨byte, -, rfl⟩ := List.mem_map.1 hstamped
    exact hnow

/-- More bytes are dealt with, all at one time. -/
theorem Performs.pass {bytes : Bytes} {calls' : List (Command × Bytes × Reply)} {written' : Bytes}
    (h : Performs service key w₀ times heard (bytes ++ rest) calls written w) (hnow : now ∈ times)
    (hbytes : ∀ later, serve service.limit key service.dispatch (stamp now bytes ++ later) w
      = (serve service.limit key service.dispatch later w').after calls' written') :
    Performs service key w₀ times heard rest (calls ++ calls') (written ++ written') w' := by
  obtain ⟨read, hheard, htimes, hserve⟩ := h
  refine ⟨read ++ stamp now bytes, ?_, mem_times_append htimes hnow, fun later => ?_⟩
  · rw [hheard, bytesOf_append, bytesOf_stamp, List.append_assoc]
  · rw [List.append_assoc, hserve, hbytes, Handler.after_after]

/-- A command is dispatched. -/
theorem Performs.served {command : Command} {reply : Reply}
    (h : Performs service key w₀ times heard (header.encode ++ payload ++ rest) calls written w)
    (hlen : header.dataSize.toNat = payload.length) (hfit : payload.length ≤ service.limit)
    (hvalid : validateCommand header service.limit = .ok command) (hnow : now ∈ times)
    (hreply : service.dispatch now key command payload w = (reply, w')) :
    Performs service key w₀ times heard rest (calls ++ [(command, payload, reply)])
      (written ++ answer header.id reply) w' := by
  refine h.pass hnow fun later => ?_
  obtain ⟨hdecode, hlength, hpayload, harrived⟩ := frame_of_stamp hlen now
  rw [serve_frame_append hdecode (hlen ▸ hfit) hlength, hvalid]
  simp only [hpayload, harrived, hreply]

/-- A command is refused. -/
theorem Performs.refused {reason : ValidationError}
    (h : Performs service key w₀ times heard (header.encode ++ payload ++ rest) calls written w)
    (hlen : header.dataSize.toNat = payload.length) (hfit : payload.length ≤ service.limit)
    (hvalid : validateCommand header service.limit = .error reason) (hnow : now ∈ times) :
    Performs service key w₀ times heard rest calls
      (written ++ answer header.id (.status reason.resultCode)) w := by
  rw [← List.append_nil calls]
  refine h.pass hnow fun later => ?_
  obtain ⟨hdecode, hlength, -, -⟩ := frame_of_stamp hlen now
  rw [serve_frame_append hdecode (hlen ▸ hfit) hlength, hvalid]

/-- A command declares too much, and is the last one. -/
theorem Performs.oversized
    (h : Performs service key w₀ times heard (header.encode ++ rest) calls written w)
    (hlarge : service.limit < header.dataSize.toNat) (hnow : now ∈ times) :
    Performed service key w₀ times heard calls
      (written ++ answer header.id (.status .payloadTooLarge)) w := by
  obtain ⟨read, hheard, htimes, hserve⟩ := h
  have hencode : header.encode.length = Header.size := CommandHeader.length_encode header
  have hlength : (stamp now header.encode).length = Header.size := by
    rw [← Handler.length_bytesOf, bytesOf_stamp, hencode]
  have hdecode : CommandHeader.decode? (bytesOf ((stamp now header.encode).take Header.size))
      = some header := by
    rw [List.take_of_length_le (Nat.le_of_eq hlength), bytesOf_stamp, CommandHeader.decode?_encode]
  refine ⟨read ++ stamp now header.encode, ?_, mem_times_append htimes hnow, ?_⟩
  · rw [hheard, bytesOf_append, bytesOf_stamp, ← List.append_assoc]
    exact List.prefix_append _ _
  · rw [hserve, serve_of_oversized (Nat.le_of_eq hlength.symm) hdecode hlarge, Transcript.after,
      List.append_nil]

end Reference

/-! ## A handler and what it owes -/

namespace Handler

open Reference

/-- What is still to be written of a response. -/
def owed (h : Handler) : Bytes :=
  match h.phase with
  | .writing _ rest _ => rest
  | _ => []

theorem owed_of_writing {h : Handler} {response : Response} {rest : Bytes} {last : Bool}
    (hphase : h.phase = .writing response rest last) : h.owed = rest := by
  simp only [owed, hphase]

theorem owed_of_reading {h : Handler} {wanted : Wanted} (hphase : h.phase = .reading wanted) :
    h.owed = [] := by
  simp only [owed, hphase]

theorem owed_of_ended {h : Handler} (hphase : h.phase = .ended) : h.owed = [] := by
  simp only [owed, hphase]

/-- What writing on does for a client that is there: as much is written as is not owed any more, and
the response is concluded when nothing is. -/
structure Wrote (h : Handler) (response : Response) (rest : Bytes) (last : Bool)
    (events : List Event) (h' : Handler) : Prop where
  identity : h'.identity = h.identity
  socket : h'.socket = h.socket
  soFar : h'.soFar = h.soFar
  calls : calls events = []
  written : written events ++ h'.owed = rest
  phase : h'.phase = .writing response h'.owed last
    ∨ h'.phase = if last then .ended else .reading .header

variable {h : Handler} {now : Nat}

theorem wrote_writeOn {response : Response} {rest : Bytes} {last : Bool}
    (hphase : h.phase = .writing response rest last) (hhere : h.socket.gone = false) (now : Nat) :
    Wrote h response rest last (h.writeOn now response rest last).1
      (h.writeOn now response rest last).2 := by
  rw [writeOn, if_neg (Bool.eq_false_iff.1 hhere)]
  split
  · have howed := owed_of_writing hphase
    exact ⟨rfl, rfl, rfl, rfl, howed, .inl (by rw [hphase, howed])⟩
  obtain ⟨n, outlet⟩ := h.outlet.offer rest.length
  dsimp only
  have hcalls : Handler.calls (if n = 0 then [] else [.sent (rest.take n)]) = [] := by
    split <;> rfl
  have hwritten : Handler.written (if n = 0 then [] else [.sent (rest.take n)]) = rest.take n := by
    split
    · next hzero => rw [hzero]; rfl
    · exact List.append_nil _
  split
  · exact ⟨rfl, rfl, rfl, hcalls, by rw [hwritten]; exact List.take_append_drop n rest, .inl rfl⟩
  · next hdone =>
    rw [List.take_of_length_le (Nat.not_lt.1 hdone)] at hwritten hcalls ⊢
    cases last <;> exact {
      identity := rfl
      socket := rfl
      soFar := rfl
      calls := by
        rw [calls_append, hcalls]
        rfl
      written := by
        rw [written_append, hwritten]
        exact (List.append_nil _).trans (List.append_nil _)
      phase := .inr rfl }

variable {σ : Type} {service : Service σ} {sound : σ → Prop} {key : IdentityKey} {w₀ w : σ}
  {times : List Nat} {heard : Bytes} {events : List Event}

/-- A handler with what it has done so far, for a client that is there. -/
inductive Keeps (service : Service σ) (key : IdentityKey) (w₀ : σ) (times : List Nat)
    (heard : Bytes) (events : List Event) (h : Handler) (w : σ) : Prop
  | reading {wanted : Wanted} (hphase : h.phase = .reading wanted)
      (hjudged : wanted.Judged service.limit) (hwithin : h.soFar.length ≤ wanted.need)
      (hdone : Performs service key w₀ times heard
        (wanted.head ++ (h.soFar ++ h.socket.unread)) (calls events) (written events) w)
  | writing {response : Response} {rest : Bytes} (hphase : h.phase = .writing response rest false)
      (hsoFar : h.soFar = [])
      (hdone : Performs service key w₀ times heard h.socket.unread (calls events)
        (written events ++ rest) w)
  | concluding {response : Response} {rest : Bytes}
      (hphase : h.phase = .writing response rest true)
      (hdone : Performed service key w₀ times heard (calls events) (written events ++ rest) w)
  | ended (hphase : h.phase = .ended)
      (hdone : Performed service key w₀ times heard (calls events) (written events) w)

/-- What was done, with the response that is being written. -/
theorem Keeps.performed (hkeeps : Keeps service key w₀ times heard events h w) :
    Performed service key w₀ times heard (calls events) (written events ++ h.owed) w := by
  cases hkeeps with
  | reading hphase hjudged hwithin hdone =>
    rw [owed_of_reading hphase, List.append_nil]
    exact hdone.performed
  | writing hphase hsoFar hdone =>
    rw [owed_of_writing hphase]
    exact hdone.performed
  | concluding hphase hdone =>
    rw [owed_of_writing hphase]
    exact hdone
  | ended hphase hdone =>
    rw [owed_of_ended hphase, List.append_nil]
    exact hdone

theorem Keeps.wrote {response : Response} {rest : Bytes} {last : Bool}
    (hkeeps : Keeps service key w₀ times heard events h w)
    (hphase : h.phase = .writing response rest last) {more : List Event} {h' : Handler}
    (hwrote : Wrote h response rest last more h') :
    Keeps service key w₀ times heard (events ++ more) h' w := by
  have hcalls : calls (events ++ more) = calls events := by
    rw [calls_append, hwrote.calls, List.append_nil]
  have hall : written events ++ rest = written (events ++ more) ++ h'.owed := by
    rw [written_append, List.append_assoc, hwrote.written]
  cases hkeeps with
  | reading hreading => cases hphase.symm.trans hreading
  | ended hended => cases hphase.symm.trans hended
  | writing hwriting hsoFar hdone =>
    obtain ⟨rfl, rfl, rfl⟩ := Phase.writing.inj (hwriting.symm.trans hphase)
    rw [← hcalls, hall, ← hwrote.socket] at hdone
    -- either some of the response is still owed, or a header is read next
    rcases hwrote.phase with hphase' | hphase'
    · exact .writing hphase' (hwrote.soFar.trans hsoFar) hdone
    · rw [owed_of_reading hphase', List.append_nil] at hdone
      refine .reading hphase' trivial ?_ ?_
      · rw [hwrote.soFar, hsoFar]
        exact Nat.zero_le _
      · rw [hwrote.soFar, hsoFar]
        exact hdone
  | concluding hwriting hdone =>
    obtain ⟨rfl, rfl, rfl⟩ := Phase.writing.inj (hwriting.symm.trans hphase)
    rw [← hcalls, hall] at hdone
    rcases hwrote.phase with hphase' | hphase'
    · exact .concluding hphase' hdone
    · rw [owed_of_ended hphase', List.append_nil] at hdone
      exact .ended hphase' hdone

/-- A header is acted on. -/
theorem keeps_header (hlen : (h.part Header.size).length = Header.size) (hnow : now ∈ times)
    (hdone : Performs service key w₀ times heard
      (h.part Header.size ++ (h.remaining Header.size).unread) (calls events) (written events) w) :
    let turn := act service now key h.observer (h.remaining Header.size) .header
      (h.part Header.size) w
    Keeps service key w₀ times heard (events ++ turn.events)
      (h.goOn Header.size now turn.phase turn.observer) turn.state := by
  obtain ⟨header, hdecode⟩ : ∃ header, CommandHeader.decode? (h.part Header.size) = some header :=
    exists_decode? hlen
  have hencode : h.part Header.size = header.encode :=
    (CommandHeader.encode_of_decode? hdecode).symm
  have hnoted : calls (events ++ (noteId h.observer header.id).1) = calls events
      ∧ written (events ++ (noteId h.observer header.id).1) = written events := by
    rw [calls_append, written_append, calls_noteId, written_noteId, List.append_nil,
      List.append_nil]
    exact ⟨rfl, rfl⟩
  rw [hencode] at hdone
  simp only [act, hdecode]
  rcases Nat.lt_or_ge service.limit header.dataSize.toNat with hlarge | hsize
  · rw [judge_of_gt hlarge, List.append_nil]
    refine .concluding rfl ?_
    rw [hnoted.1, hnoted.2]
    exact hdone.oversized hlarge hnow
  · rw [judge_of_le hsize, List.append_nil]
    refine .reading rfl (Wanted.judged_after hsize) (Nat.zero_le _) ?_
    rw [hnoted.1, hnoted.2, Wanted.head_after]
    exact hdone

/-- The payload of a command to dispatch is acted on. -/
theorem keeps_payload {header : CommandHeader} {command : Command} (hfit : service.Fits sound)
    (hsound : sound w) (hlen : (h.part header.dataSize.toNat).length = header.dataSize.toNat)
    (hjudged : (Wanted.payload header command).Judged service.limit) (hnow : now ∈ times)
    (hdone : Performs service key w₀ times heard
      (header.encode ++ h.part header.dataSize.toNat ++ (h.remaining header.dataSize.toNat).unread)
      (calls events) (written events) w) :
    let turn := act service now key h.observer (h.remaining header.dataSize.toNat)
      (.payload header command) (h.part header.dataSize.toNat) w
    Keeps service key w₀ times heard (events ++ turn.events)
        (h.goOn header.dataSize.toNat now turn.phase turn.observer) turn.state
      ∧ sound turn.state := by
  obtain ⟨hsize, hvalid⟩ := hjudged
  have hpart : (h.part header.dataSize.toNat).length ≤ service.limit := by rwa [hlen]
  obtain ⟨hreplyfit, hsound'⟩ := hfit now key command (h.part header.dataSize.toNat) w hsound hpart
  cases hreply : service.dispatch now key command (h.part header.dataSize.toNat) w with
  | mk reply w' =>
    rw [hreply] at hreplyfit hsound'
    simp only [act, hreply, respond_of_le hreplyfit]
    refine ⟨.writing rfl rfl ?_, hsound'⟩
    have hwritten : written (events ++ [.dispatched command (h.part header.dataSize.toNat) reply])
        = written events := by
      rw [written_append]
      exact List.append_nil _
    rw [calls_append, hwritten]
    exact hdone.served hlen.symm hpart hvalid hnow hreply

/-- The payload of a refused command is acted on. -/
theorem keeps_refused {header : CommandHeader} {reason : ValidationError}
    (hlen : (h.part header.dataSize.toNat).length = header.dataSize.toNat)
    (hjudged : (Wanted.refused header reason).Judged service.limit) (hnow : now ∈ times)
    (hdone : Performs service key w₀ times heard
      (header.encode ++ h.part header.dataSize.toNat ++ (h.remaining header.dataSize.toNat).unread)
      (calls events) (written events) w) :
    let turn := act service now key h.observer (h.remaining header.dataSize.toNat)
      (.refused header reason) (h.part header.dataSize.toNat) w
    Keeps service key w₀ times heard (events ++ turn.events)
      (h.goOn header.dataSize.toNat now turn.phase turn.observer) turn.state := by
  obtain ⟨hsize, hvalid⟩ := hjudged
  simp only [act, respond_status, List.append_nil]
  exact .writing rfl rfl (hdone.refused hlen.symm (by rwa [hlen]) hvalid hnow)

/-- A complete part is acted on. -/
theorem Keeps.acted {wanted : Wanted} (hfit : service.Fits sound) (hsound : sound w)
    (hkey : h.identity = key) (hnow : now ∈ times)
    (hkeeps : Keeps service key w₀ times heard events h w) (hphase : h.phase = .reading wanted)
    (henough : wanted.need ≤ h.soFar.length + h.socket.unread.length) :
    let turn := act service now h.identity h.observer (h.remaining wanted.need) wanted
      (h.part wanted.need) w
    Keeps service key w₀ times heard (events ++ turn.events)
        (h.goOn wanted.need now turn.phase turn.observer) turn.state
      ∧ sound turn.state := by
  subst hkey
  cases hkeeps with
  | writing hwriting | concluding hwriting | ended hwriting => cases hphase.symm.trans hwriting
  | reading hreading hjudged hwithin hdone =>
    obtain rfl := Phase.reading.inj (hphase.symm.trans hreading)
    -- the bytes that were not dealt with begin with the part that is acted on now
    have hlen := length_part hwithin henough
    rw [← part_append_remaining h wanted.need, ← List.append_assoc] at hdone
    cases wanted with
    | header =>
      refine ⟨keeps_header hlen hnow hdone, ?_⟩
      rw [act]
      split <;> exact hsound
    | payload header command => exact keeps_payload hfit hsound hlen hjudged hnow hdone
    | refused header reason => exact ⟨keeps_refused hlen hjudged hnow hdone, hsound⟩

/-- A handler that reads is ended. -/
theorem Keeps.finish {wanted : Wanted} (hkeeps : Keeps service key w₀ times heard events h w)
    (hphase : h.phase = .reading wanted) (h' : Handler) :
    Keeps service key w₀ times heard (events ++ h'.finish.1) h'.finish.2 w := by
  have hdone := hkeeps.performed
  rw [owed_of_reading hphase, List.append_nil] at hdone
  refine .ended rfl ?_
  rw [calls_append, written_append]
  exact (List.append_nil (calls events)).symm ▸ (List.append_nil (written events)).symm ▸ hdone

/-- A part that is not complete is taken in. -/
theorem Keeps.takeIn {wanted : Wanted} {socket : Socket}
    (hkeeps : Keeps service key w₀ times heard events h w) (hphase : h.phase = .reading wanted)
    (hshort : h.soFar.length + h.socket.unread.length < wanted.need)
    (hunread : socket.unread = []) : Keeps service key w₀ times heard events
      { h with socket := socket, soFar := h.soFar ++ h.socket.unread } w := by
  cases hkeeps with
  | writing hwriting | concluding hwriting | ended hwriting => cases hphase.symm.trans hwriting
  | reading hreading hjudged hwithin hdone =>
    obtain rfl := Phase.reading.inj (hphase.symm.trans hreading)
    refine .reading hphase hjudged ?_ ?_
    · rw [List.length_append]
      exact Nat.le_of_lt hshort
    · dsimp only
      rw [hunread, List.append_nil]
      exact hdone

/-- More has come. -/
theorem Keeps.hear (hkeeps : Keeps service key w₀ times heard events h w) (arrival : Arrival) :
    Keeps service key w₀ times (heard ++ arrival.content) events
      { h with socket := h.socket.receive arrival } w := by
  have hunread := h.socket.unread_receive arrival
  cases hkeeps with
  | reading hphase hjudged hwithin hdone =>
    refine .reading hphase hjudged hwithin ?_
    dsimp only
    rw [hunread, ← List.append_assoc h.soFar, ← List.append_assoc (Wanted.head _)]
    exact hdone.hear _
  | writing hphase hsoFar hdone =>
    refine .writing hphase hsoFar ?_
    dsimp only
    rw [hunread]
    exact hdone.hear _
  | concluding hphase hdone => exact .concluding hphase (hdone.hear _)
  | ended hphase hdone => exact .ended hphase (hdone.hear _)

/-- There is other room. -/
theorem Keeps.room (hkeeps : Keeps service key w₀ times heard events h w) (outlet : Outlet) :
    Keeps service key w₀ times heard events { h with outlet := outlet } w := by
  cases hkeeps with
  | reading hphase hjudged hwithin hdone => exact .reading hphase hjudged hwithin hdone
  | writing hphase hsoFar hdone => exact .writing hphase hsoFar hdone
  | concluding hphase hdone => exact .concluding hphase hdone
  | ended hphase hdone => exact .ended hphase hdone

/-- A handler with what it has done, and what is known of it all the time. -/
structure Upholds (service : Service σ) (sound : σ → Prop) (key : IdentityKey) (w₀ : σ)
    (times : List Nat) (heard : Bytes) (events : List Event) (h : Handler) (w : σ) : Prop where
  identity : h.identity = key
  here : h.socket.gone = false
  sound : sound w
  keeps : Keeps service key w₀ times heard events h w

theorem gone_of_fill {socket socket' : Socket} {need : Nat} {soFar : Bytes}
    {progress : Progress Bytes Bytes} (hread : socket.fill need soFar = (progress, socket')) :
    socket'.gone = socket.gone := by
  obtain rfl : (socket.fill need soFar).2 = socket' := congrArg Prod.snd hread
  simp only [Socket.fill, Socket.drained]
  split
  · rfl
  · split
    · rfl
    · split <;> rfl

theorem Upholds.wrote {response : Response} {rest : Bytes} {last : Bool}
    (hupholds : Upholds service sound key w₀ times heard events h w)
    (hphase : h.phase = .writing response rest last) (now : Nat) :
    Upholds service sound key w₀ times heard (events ++ (h.writeOn now response rest last).1)
      (h.writeOn now response rest last).2 w := by
  have hwrote := wrote_writeOn hphase hupholds.here now
  exact ⟨hwrote.identity.trans hupholds.identity, hwrote.socket ▸ hupholds.here, hupholds.sound,
    hupholds.keeps.wrote hphase hwrote⟩

/-- **A handler that is run goes on so**, however far it comes. -/
theorem Upholds.run (hfit : service.Fits sound) (hnow : now ∈ times) (stopping : Bool)
    (hupholds : Upholds service sound key w₀ times heard events h w) :
    Upholds service sound key w₀ times heard (events ++ (Handler.run service now stopping h w).1)
      (Handler.run service now stopping h w).2.1 (Handler.run service now stopping h w).2.2 := by
  fun_induction Handler.run service now stopping h w generalizing events
  case case1 h w hphase =>
    rw [List.append_nil]
    exact hupholds
  case case2 h w response rest last hphase wrote hdone more ih =>
    have hmore := ih (hupholds.wrote hphase now)
    rwa [List.append_assoc] at hmore
  case case3 h w response rest last hphase wrote hwrites => exact hupholds.wrote hphase now
  case case4 h w wanted hphase hstop =>
    exact ⟨hupholds.identity, hupholds.here, hupholds.sound, hupholds.keeps.finish hphase h⟩
  case case5 h w wanted hphase hgo got socket hread =>
    have hhere := (gone_of_fill hread).trans hupholds.here
    have hshort := Socket.lt_of_fill hread (by simp)
    obtain ⟨rfl, hnone⟩ := Socket.of_fill_waiting hread
    rw [List.append_nil]
    exact ⟨hupholds.identity, hhere, hupholds.sound,
      hupholds.keeps.takeIn hphase hshort hnone⟩
  case case6 h w wanted hphase hgo error socket hread closed =>
    have hhere := (gone_of_fill hread).trans hupholds.here
    exact ⟨hupholds.identity, hhere, hupholds.sound,
      hupholds.keeps.finish hphase { h with socket := socket }⟩
  case case7 h w wanted hphase hgo read socket hread turn next rest ih =>
    obtain ⟨henough, rfl, rfl⟩ := of_fill_finished hread
    obtain ⟨hkeeps, hsound⟩ :=
      hupholds.keeps.acted hfit hupholds.sound hupholds.identity hnow hphase henough
    have hmore := ih ⟨hupholds.identity, hupholds.here, hsound, hkeeps⟩
    rwa [List.append_assoc] at hmore

/-- When the daemon stops, a handler that was run does not wait for a header. -/
theorem goesOn_run (service : Service σ) (now : Nat) (stopping : Bool) (h : Handler) (w : σ) :
    (run service now stopping h w).2.1.GoesOn stopping := by
  fun_induction Handler.run service now stopping h w
  case case1 h w hphase =>
    intro hstop hheader
    cases hphase.symm.trans hheader
  case case2 h w response rest last hphase wrote hdone more ih => exact ih
  case case3 h w response rest last hphase wrote hwrites =>
    intro hstop hheader
    rw [hheader] at hwrites
    exact hwrites rfl
  case case4 h w wanted hphase hstop =>
    intro hstop hheader
    cases hheader
  case case5 h w wanted hphase hgo got socket hread =>
    rintro rfl hheader
    obtain rfl := Phase.reading.inj (hphase.symm.trans hheader)
    exact hgo rfl
  case case6 h w wanted hphase hgo error socket hread closed =>
    intro hstop hheader
    cases hheader
  case case7 h w wanted hphase hgo read socket hread turn next rest ih => exact ih

theorem owed_of_isEnded (hended : h.isEnded = true) : h.owed = [] := by
  unfold isEnded at hended
  split at hended
  · next hphase => exact owed_of_ended hphase
  · cases hended

theorem upholds_newcomer (hsound : sound w) (scope : IdentityScope) (uid : UInt32) (outlet : Outlet)
    (now : Nat) : Upholds service sound (.resolve scope uid) w times [] [.started]
      (newcomer scope uid outlet now) w :=
  ⟨rfl, rfl, hsound, .reading rfl trivial (Nat.zero_le _) (performs_nothing service _ w times [])⟩

end Handler

/-! ## One connection of a server -/

namespace Server

open Handler Reference

variable {σ : Type} {service : Service σ} {sound : σ → Prop} {permits client now : Nat}
  {stopping stopping' : Bool} {key : IdentityKey} {h h₁ : Handler} {s : Server} {w w₀ : σ}
  {times : List Nat} {heard : Bytes} {happened : List Happening} {input : Input}

/-- What is still to be written of the responses that were begun. -/
def owed (s : Server) : Bytes := s.active.flatMap fun item => item.2.owed

/-- A server with one connection that may be over. -/
inductive Paces (service : Service σ) (sound : σ → Prop) (key : IdentityKey) (client : Nat)
    (w₀ : σ) (times : List Nat) (heard : Bytes) (happened : List Happening) : Server → σ → Prop
  | going {permits : Nat} {stopping : Bool} {h : Handler} {w : σ} (hgo : h.GoesOn stopping)
      (hupholds : Upholds service sound key w₀ times heard (happened.map (·.2)) h w) :
      Paces service sound key client w₀ times heard happened ⟨permits, [], [(client, h)], stopping⟩
        w
  | ended {permits : Nat} {stopping : Bool} {w : σ}
      (hdone : Performed service key w₀ times heard (calls (happened.map (·.2)))
        (written (happened.map (·.2))) w) :
      Paces service sound key client w₀ times heard happened ⟨permits, [], [], stopping⟩ w

theorem hear_nothing (hnothing : heardOf client (now, input) = []) (heard : Bytes) :
    heard ++ bytesOf (heardOf client (now, input)) = heard := by
  rw [hnothing]
  exact List.append_nil heard

/-- An input changes nothing about what was done before the handler is run. -/
theorem upholds_of_rouses {events : List Event}
    (hupholds : Upholds service sound key w₀ times heard events h w)
    (hinput : input.Undisturbed client)
    (hrouses : Rouses client now stopping h input h₁ stopping') :
    Upholds service sound key w₀ times (heard ++ bytesOf (heardOf client (now, input))) events h₁
      w := by
  cases hrouses with
  | arrival arrival =>
    rw [heardOf, if_pos rfl, bytesOf_stamp]
    exact ⟨hupholds.identity, (gone_receive (hinput rfl)).trans hupholds.here, hupholds.sound,
      hupholds.keeps.hear arrival⟩
  | room count =>
    rw [hear_nothing rfl]
    exact ⟨hupholds.identity, hupholds.here, hupholds.sound, hupholds.keeps.room _⟩
  | stop =>
    rw [hear_nothing rfl]
    exact hupholds
  | nothing hnothing =>
    rw [hear_nothing hnothing]
    exact hupholds

/-- The handler is run. -/
theorem paces_resume (hfit : service.Fits sound) (hnow : now ∈ times)
    (hupholds : Upholds service sound key w₀ times heard (happened.map (·.2)) h w) (permits : Nat)
    (stopping : Bool) :
    let result := resume service now ⟨permits, [], [(client, h)], stopping⟩ w
    Paces service sound key client w₀ times heard (happened ++ result.1) result.2.1 result.2.2 := by
  dsimp only
  have hafter := hupholds.run hfit hnow stopping
  rw [← map_tagged client (h.run service now stopping w).1, ← List.map_append] at hafter
  rw [resume_one]
  dsimp only
  split
  · next hended =>
    have hdone := hafter.keeps.performed
    rw [owed_of_isEnded hended, List.append_nil] at hdone
    exact .ended hdone
  · exact .going (goesOn_run service now stopping h w) hafter

/-- Only a handler that reads is waited for. -/
theorem reading_of_isOverdue {idle : Option Nat} (hoverdue : isOverdue idle now h = true) :
    ∃ wanted, h.phase = .reading wanted := by
  unfold isOverdue expiry? at hoverdue
  cases hphase : h.phase with
  | reading wanted => exact ⟨wanted, rfl⟩
  | writing response rest last | ended =>
    simp only [hphase] at hoverdue
    cases hoverdue

/-- A connection that goes on. -/
theorem paces_next_one (hfit : service.Fits sound) (hnow : now ∈ times) (hgo : h.GoesOn stopping)
    (hupholds : Upholds service sound key w₀ times heard (happened.map (·.2)) h w)
    (hinput : input.Undisturbed client) (permits : Nat) :
    let result := (⟨permits, [], [(client, h)], stopping⟩ : Server).next service now input w
    Paces service sound key client w₀ times (heard ++ bytesOf (heardOf client (now, input)))
      (happened ++ result.1) result.2.1 result.2.2 := by
  dsimp only
  rcases next_one hinput service now permits stopping h w with ⟨h₁, stopping', hrouses, hnext⟩
    | ⟨hnothing, hnext⟩ | ⟨hnothing, hoverdue, hnext⟩
  · rw [hnext]
    exact paces_resume hfit hnow (upholds_of_rouses hupholds hinput hrouses) permits stopping'
  · rw [hnext, hear_nothing hnothing, List.append_nil]
    exact .going hgo hupholds
  · -- whoever is dropped was read from, so that nothing is owed to it
    obtain ⟨wanted, hphase⟩ := reading_of_isOverdue hoverdue
    have hdone := (hupholds.keeps.finish hphase h).performed
    rw [owed_of_ended rfl, List.append_nil, ← map_tagged client h.finish.1,
      ← List.map_append] at hdone
    rw [hnext, hear_nothing hnothing]
    exact .ended hdone

theorem Paces.next (hfit : service.Fits sound) (hnow : now ∈ times)
    (hpaces : Paces service sound key client w₀ times heard happened s w)
    (hinput : input.Undisturbed client) :
    let result := s.next service now input w
    Paces service sound key client w₀ times (heard ++ bytesOf (heardOf client (now, input)))
      (happened ++ result.1) result.2.1 result.2.2 := by
  cases hpaces with
  | going hgo hupholds => exact paces_next_one hfit hnow hgo hupholds hinput _
  | @ended permits stopping w hdone =>
    obtain ⟨stopping', hnext⟩ := next_none hinput service now permits stopping w
    dsimp only
    rw [hnext, List.append_nil]
    exact .ended (hdone.hear _)

theorem Paces.run (hfit : service.Fits sound) {inputs : List (Nat × Input)}
    (hpaces : Paces service sound key client w₀ times heard happened s w)
    (hinputs : ∀ input ∈ inputs, input.2.Undisturbed client ∧ input.1 ∈ times) :
    let result := s.run service w inputs
    Paces service sound key client w₀ times
      (heard ++ bytesOf (inputs.flatMap (heardOf client))) (happened ++ result.1) result.2.1
      result.2.2 := by
  induction inputs generalizing heard happened s w with
  | nil =>
    rw [← List.append_nil heard, ← List.append_nil happened] at hpaces
    exact hpaces
  | cons input rest ih =>
    obtain ⟨now, input⟩ := input
    obtain ⟨⟨hinput, hnow⟩, hrest⟩ := List.forall_mem_cons.1 hinputs
    have hthen := ih (hpaces.next hfit hnow hinput) hrest
    simp only [List.append_assoc, ← bytesOf_append] at hthen
    exact hthen

/-- What is known of a connection at any time. -/
theorem Paces.performed (hpaces : Paces service sound key client w₀ times heard happened s w) :
    Performed service key w₀ times heard (calls (happened.map (·.2)))
      (written (happened.map (·.2)) ++ s.owed) w := by
  cases hpaces with
  | going hgo hupholds =>
    rw [owed, List.flatMap_singleton]
    exact hupholds.keeps.performed
  | ended hdone =>
    rw [owed, List.flatMap_nil, List.append_nil]
    exact hdone

theorem Paces.goesOn (hpaces : Paces service sound key client w₀ times heard happened s w) :
    ∀ item ∈ s.active, item.2.GoesOn s.stopping := by
  intro item hitem
  cases hpaces with
  | going hgo hupholds =>
    obtain rfl := List.mem_singleton.1 hitem
    exact hgo
  | ended hdone => cases hitem

theorem paces_of_connected (hfit : service.Fits sound) (hsound : sound w)
    (maxConnections client : Nat) (uid : UInt32) (first : Nat) (outlet : Outlet)
    {inputs : List (Nat × Input)} (hinputs : ∀ input ∈ inputs, input.2.Undisturbed client) :
    let result := Server.run service (.ofLimit maxConnections) w
      ((first, .connect client (some uid) outlet) :: inputs)
    Paces service sound (.resolve service.scope uid) client w (inputs.map (·.1))
      (bytesOf (inputs.flatMap (heardOf client))) result.1 result.2.1 result.2.2 := by
  dsimp only
  have hstart : Paces service sound (.resolve service.scope uid) client w (inputs.map (·.1)) []
      [(client, .started)]
      (alone (max 1 maxConnections) client (newcomer service.scope uid outlet first)) w :=
    .going (goesOn_running _) (upholds_newcomer hsound service.scope uid outlet first)
  rw [run_connect_first]
  exact hstart.run hfit fun input hinput =>
    ⟨hinputs input hinput, List.mem_map_of_mem hinput⟩

/-- **A client that reads when it likes is cut between two commands too.**  Whatever comes from a
client that does not leave, whenever it reads how much of what was written, and whenever the daemon
is told to stop: what was dispatched, and what was written with what is still owed of a response, is
what is dispatched and written for a client that sends, of all those bytes, some complete commands
at the front, keeps reading, and then finishes.  After the stop no handler waits for a header. -/
theorem cut_between_paced_commands (hfit : service.Fits sound) (hsound : sound w)
    (maxConnections client : Nat) (uid : UInt32) (first : Nat) (outlet : Outlet)
    {inputs : List (Nat × Input)} (hinputs : ∀ input ∈ inputs, input.2.Undisturbed client) :
    let result := Server.run service (.ofLimit maxConnections) w
      ((first, .connect client (some uid) outlet) :: inputs)
    let done : Transcript σ := ⟨calls (result.1.map (·.2)),
      written (result.1.map (·.2)) ++ result.2.1.owed, result.2.2⟩
    (∃ whole, bytesOf whole <+: bytesOf (inputs.flatMap (heardOf client))
      ∧ Whole service.limit (bytesOf whole)
      ∧ (∀ item ∈ whole, item.1 ∈ inputs.map (·.1))
      ∧ done = serve service.limit (.resolve service.scope uid) service.dispatch whole w
      ∧ ∀ chunks last, stream chunks = whole →
        let uncut := Server.run service (.ofLimit maxConnections) w
          ((first, .connect client (some uid) .flowing) :: pieces client chunks last)
        done = transcript uncut.1 uncut.2.2)
    ∧ ∀ item ∈ result.2.1.active, item.2.GoesOn result.2.1.stopping := by
  intro result done
  have hpaces := paces_of_connected hfit hsound maxConnections client uid first outlet hinputs
  obtain ⟨read, hread, htimes, hdone⟩ := hpaces.performed
  obtain ⟨whole, hfront, hwhole, hsame⟩ :=
    exists_whole service.limit (.resolve service.scope uid) service.dispatch read w
  have hall : done = serve service.limit (.resolve service.scope uid) service.dispatch whole w := by
    rw [hsame, hdone]
  refine ⟨⟨whole, (hfront.map _).trans hread, hwhole,
    fun item hitem => htimes item (hfront.subset hitem), hall, ?_⟩, ?_⟩
  · rintro chunks last rfl
    exact hall.trans
      (transcript_pieces hfit hsound maxConnections client uid first last chunks).symm
  · exact hpaces.goesOn

/-- The daemon is told to stop while it answers a client that has no room for more: all of the
answer is owed, and it is written when there is room.  The byte after the command is left. -/
example :
    let command : Bytes := [1, 0, 0, 0, 1, 0, 0, 0, 1, 0, 0, 0, 42]
    let inputs : List (Nat × Input) := [(3, .connect 7 (some 1000) (.bounded ⟨[], true⟩)),
      (5, .deliver 7 (.bytes (command ++ [2]))), (6, .stop)]
    let stopped := Server.run mirror (.ofLimit 1) () inputs
    let read := Server.run mirror (.ofLimit 1) () (inputs ++ [(8, .consume 7 0)])
    (written (stopped.1.map (·.2)), stopped.2.1.owed) = ([], answer 1 ⟨.ok, [42]⟩)
      ∧ (written (read.1.map (·.2)), read.2.1.owed) = (answer 1 ⟨.ok, [42]⟩, [])
      ∧ read.2.1.isIdle = true := by decide +kernel

end Server
end TokenBroker
