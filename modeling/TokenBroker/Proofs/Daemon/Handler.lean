import TokenBroker.Daemon.Handler
import TokenBroker.Proofs.Stream.Line
/-!
# What a handler does next

A handler whose client keeps reading is never kept from writing, so it is at rest only when it waits
for a header or payload.  Here is what it does from there, one completed part after the other.

* `run_short` is a part that is not complete: the handler takes in what there is.
* `run_header`, `run_payload` and `run_refused` are the parts that are.
* `rests_of_run` says of any handler that, once run, it can do nothing until something comes.
-/

set_option autoImplicit false

namespace TokenBroker

namespace Handler

variable {σ : Type} {service : Service σ} {now : Nat} {stopping : Bool} {h : Handler} {w : σ}

/-! ## What a handler has done -/

/-- The calls of the dispatcher among some events. -/
def calls (events : List Event) : List (Command × Bytes × Reply) :=
  events.filterMap fun
    | .dispatched command payload reply => some (command, payload, reply)
    | _ => none

/-- The bytes written in some events. -/
def written (events : List Event) : Bytes :=
  events.flatMap fun
    | .sent bytes => bytes
    | _ => []

@[simp] theorem calls_append (a b : List Event) : calls (a ++ b) = calls a ++ calls b :=
  List.filterMap_append

@[simp] theorem written_append (a b : List Event) : written (a ++ b) = written a ++ written b :=
  List.flatMap_append

theorem calls_noteId (observer : Sequence.Observer) (id : UInt32) :
    calls (noteId observer id).1 = [] := by
  rw [noteId]
  split <;> rfl

theorem written_noteId (observer : Sequence.Observer) (id : UInt32) :
    written (noteId observer id).1 = [] := by
  rw [noteId]
  split <;> rfl

/-! ## One turn -/

theorem run_ended (hphase : h.phase = .ended) : run service now stopping h w = ([], h, w) := by
  rw [run]
  split
  · rfl
  · next heq => rw [hphase] at heq; cases heq
  · next heq => rw [hphase] at heq; cases heq

theorem phase_of_isEnded (hended : h.isEnded = true) : h.phase = .ended := by
  rw [isEnded] at hended
  split at hended
  · assumption
  · cases hended

theorem run_reading {wanted : Wanted} (hphase : h.phase = .reading wanted)
    (hgo : (stopping && wanted.isHeader) = false) :
    run service now stopping h w = match h.socket.fill wanted.need h.soFar with
      | (.waiting soFar, socket) => ([], { h with socket := socket, soFar := soFar }, w)
      | (.failed _, socket) =>
        ((finish { h with socket := socket }).1, (finish { h with socket := socket }).2, w)
      | (.finished part, socket) =>
        let turn := act service now h.identity h.observer socket wanted part w
        let rest := run service now stopping
          { h with
            socket := socket
            phase := turn.phase
            soFar := []
            observer := turn.observer
            since := now } turn.state
        (turn.events ++ rest.1, rest.2) := by
  rw [run]
  split
  · next heq => rw [hphase] at heq; cases heq
  · next heq => rw [hphase] at heq; cases heq
  · next wanted' heq =>
    obtain rfl : wanted = wanted' := by rw [hphase] at heq; exact Phase.reading.inj heq
    rw [if_neg (by rw [hgo]; exact Bool.false_ne_true)]
    split <;> simp_all

/-- A handler that waits for a header when the daemon stops ends. -/
theorem run_stopping {wanted : Wanted} (hphase : h.phase = .reading wanted)
    (hstop : (stopping && wanted.isHeader) = true) :
    run service now stopping h w = (h.finish.1, h.finish.2, w) := by
  rw [run]
  split
  · next heq => rw [hphase] at heq; cases heq
  · next heq => rw [hphase] at heq; cases heq
  · next wanted' heq =>
    obtain rfl : wanted = wanted' := by rw [hphase] at heq; exact Phase.reading.inj heq
    rw [if_pos hstop]

/-- Whether the daemon stops or not, the handler does not end for that. -/
def GoesOn (stopping : Bool) (h : Handler) : Prop := stopping = true → h.phase ≠ .reading .header

theorem goesOn_running (h : Handler) : h.GoesOn false :=
  fun hstop => absurd hstop Bool.false_ne_true

theorem GoesOn.wanted {wanted : Wanted} (hgo : h.GoesOn stopping)
    (hphase : h.phase = .reading wanted) : (stopping && wanted.isHeader) = false := by
  cases stopping with
  | false => rfl
  | true =>
    cases wanted with
    | header => exact absurd hphase (hgo rfl)
    | payload header command | refused header reason => rfl

theorem run_writing {response : Response} {rest : Bytes} {last : Bool}
    (hphase : h.phase = .writing response rest last) :
    run service now stopping h w =
      let wrote := h.writeOn now response rest last
      if wrote.2.phase.weight = 0 then
        let more := run service now stopping wrote.2 w
        (wrote.1 ++ more.1, more.2)
      else (wrote.1, wrote.2, w) := by
  rw [run]
  split
  · next heq => rw [hphase] at heq; cases heq
  · next response' rest' last' heq =>
    rw [hphase] at heq
    obtain ⟨rfl, rfl, rfl⟩ := Phase.writing.inj heq
    simp
  · next heq => rw [hphase] at heq; cases heq

/-! ## A client that keeps reading -/

/-- The client of a handler keeps reading. -/
structure Listens (h : Handler) : Prop where
  outlet : h.outlet = .flowing
  gone : h.socket.gone = false

/-- The client of a handler keeps reading and has not finished sending. -/
structure Flows (h : Handler) : Prop where
  outlet : h.outlet = .flowing
  ended : h.socket.ended = false
  gone : h.socket.gone = false
  reset : h.socket.reset = false

theorem Flows.listens (hflows : h.Flows) : h.Listens := ⟨hflows.outlet, hflows.gone⟩

/-- The bytes of the response to the command of an id. -/
def answer (id : UInt32) (reply : Reply) : Bytes :=
  (⟨id, reply.result.code, UInt32.ofNat reply.payload.length⟩ : ResponseHeader).encode
    ++ reply.payload

theorem length_answer (id : UInt32) (reply : Reply) :
    (answer id reply).length = Header.size + reply.payload.length := by
  rw [answer, List.length_append, ResponseHeader.length_encode]

/-- A reply that is not too large is written as a response. -/
theorem respond_of_le {limit : Nat} {socket : Socket} {label : String} {received : Nat}
    {id : UInt32} {reply : Reply} {last : Bool} (hfit : reply.payload.length ≤ limit) :
    respond limit socket label received id reply last
      = ([], .writing ⟨label, received, reply.result, answer id reply⟩ (answer id reply) last) := by
  simp only [respond, Frame.ofResponse, Frame.checkOutgoing_of_le hfit, List.flatten_cons,
    List.flatten_nil, List.append_nil, answer]

theorem respond_status {limit : Nat} {socket : Socket} {label : String} {received : Nat}
    {id : UInt32} {result : ResultCode} {last : Bool} :
    respond limit socket label received id (.status result) last
      = ([], .writing ⟨label, received, result, answer id (.status result)⟩
          (answer id (.status result)) last) :=
  respond_of_le (Nat.zero_le limit)

theorem run_short {wanted : Wanted} (hflows : h.Flows) (hphase : h.phase = .reading wanted)
    (hgo : (stopping && wanted.isHeader) = false)
    (hshort : h.soFar.length + h.socket.unread.length < wanted.need) :
    run service now stopping h w
      = ([], { h with
          socket := { h.socket with unread := [], noted := false }
          soFar := h.soFar ++ h.socket.unread }, w) := by
  rw [run_reading hphase hgo, Socket.fill_of_lt hflows.ended hflows.reset hshort]

/-- A response is written at once, and the handler goes on with the next command. -/
theorem run_writing_flowing {response : Response} {rest : Bytes} (hlistens : h.Listens)
    (hphase : h.phase = .writing response rest false) (hrest : rest ≠ []) :
    run service now stopping h w =
      let more := run service now stopping { h with phase := .reading .header, since := now } w
      (.sent rest :: .answered response :: more.1, more.2) := by
  have hlen : rest.length ≠ 0 := fun hzero => hrest (List.length_eq_zero_iff.1 hzero)
  have hwrote : h.writeOn now response rest false = ([.sent rest, .answered response],
      { h with phase := .reading .header, since := now }) := by
    cases h with
    | mk identity socket outlet phase soFar observer since =>
      obtain ⟨houtlet, hgone⟩ := hlistens
      dsimp only at houtlet hgone
      subst houtlet
      simp [writeOn, hgone, Outlet.refuses, hlen, conclude]
  rw [run_writing hphase, hwrote]
  rfl

/-- With the last response the connection ends. -/
theorem run_writing_last {response : Response} {rest : Bytes} (hlistens : h.Listens)
    (hphase : h.phase = .writing response rest true) (hrest : rest ≠ []) :
    run service now stopping h w = ([.sent rest, .answered response, closing h.socket],
      { h with phase := .ended }, w) := by
  have hlen : rest.length ≠ 0 := fun hzero => hrest (List.length_eq_zero_iff.1 hzero)
  have hwrote : h.writeOn now response rest true
      = ([.sent rest, .answered response, closing h.socket], { h with phase := .ended }) := by
    cases h with
    | mk identity socket outlet phase soFar observer since =>
      obtain ⟨houtlet, hgone⟩ := hlistens
      dsimp only at houtlet hgone
      subst houtlet
      simp [writeOn, hgone, Outlet.refuses, hlen, conclude, finish]
  rw [run_writing hphase, hwrote]
  simp only [Phase.weight, if_true, run_ended, List.append_nil]

theorem answer_ne_nil (id : UInt32) (reply : Reply) : answer id reply ≠ [] := by
  intro h
  have := congrArg List.length h
  rw [length_answer, Header.size, List.length_nil] at this
  omega

/-! ## Complete parts -/

/-- The part that a handler reads, where enough has arrived. -/
def part (h : Handler) (need : Nat) : Bytes :=
  h.soFar ++ h.socket.unread.take (need - h.soFar.length)

/-- The socket of a handler after a part was read. -/
def remaining (h : Handler) (need : Nat) : Socket :=
  { h.socket with unread := h.socket.unread.drop (need - h.soFar.length) }

/-- A part that is read, and what is left after it, are all that there was. -/
theorem part_append_remaining (h : Handler) (need : Nat) :
    h.part need ++ (h.remaining need).unread = h.soFar ++ h.socket.unread := by
  rw [part, List.append_assoc]
  exact congrArg (h.soFar ++ ·) (List.take_append_drop _ _)

theorem length_part {h : Handler} {need : Nat} (hwithin : h.soFar.length ≤ need)
    (henough : need ≤ h.soFar.length + h.socket.unread.length) : (h.part need).length = need := by
  rw [part, List.length_append, List.length_take]
  omega

/-- A read that is finished read the part, and left the rest. -/
theorem of_fill_finished {n : Nat} {read : Bytes} {socket : Socket}
    (hfill : h.socket.fill n h.soFar = (.finished read, socket)) :
    n ≤ h.soFar.length + h.socket.unread.length ∧ read = h.part n ∧ socket = h.remaining n := by
  have henough : n ≤ h.soFar.length + h.socket.unread.length := by
    have hlength := Socket.length_of_fill hfill
    omega
  rw [Socket.fill_of_le henough] at hfill
  obtain ⟨hread, rfl⟩ := Prod.mk.inj hfill
  exact ⟨henough, (Progress.finished.inj hread).symm, rfl⟩

/-- A handler that goes on with another phase after a part was read. -/
def goOn (h : Handler) (need now : Nat) (phase : Phase) (observer : Sequence.Observer) : Handler :=
  { h with
    socket := h.remaining need
    phase := phase
    soFar := []
    observer := observer
    since := now }

theorem Flows.goOn (hflows : h.Flows) (need now : Nat) (phase : Phase)
    (observer : Sequence.Observer) : (h.goOn need now phase observer).Flows :=
  ⟨hflows.outlet, hflows.ended, hflows.gone, hflows.reset⟩

theorem Listens.goOn (hlistens : h.Listens) (need now : Nat) (phase : Phase)
    (observer : Sequence.Observer) : (h.goOn need now phase observer).Listens :=
  ⟨hlistens.outlet, hlistens.gone⟩

theorem measure_goOn (need now : Nat) (phase : Phase) (observer : Sequence.Observer) :
    (h.goOn need now phase observer).measure
      = 2 * (h.remaining need).unread.length + phase.weight := by
  rw [measure, goOn, List.length_nil, Nat.zero_add]

theorem run_complete {wanted : Wanted} (hphase : h.phase = .reading wanted)
    (hgo : (stopping && wanted.isHeader) = false)
    (henough : wanted.need ≤ h.soFar.length + h.socket.unread.length) :
    run service now stopping h w =
      let turn := act service now h.identity h.observer (h.remaining wanted.need) wanted
        (h.part wanted.need) w
      let more :=
        run service now stopping (h.goOn wanted.need now turn.phase turn.observer) turn.state
      (turn.events ++ more.1, more.2) := by
  rw [run_reading hphase hgo, Socket.fill_of_le henough]
  rfl

/-- What comes of a command that is dispatched. -/
def served (header : CommandHeader) (command : Command) (payload : Bytes) (reply : Reply) :
    List Event :=
  [.dispatched command payload reply, .sent (answer header.id reply),
    .answered ⟨command.name, payload.length, reply.result, answer header.id reply⟩]

/-- What comes of a command that is refused. -/
def turnedAway (header : CommandHeader) (result : ResultCode) : List Event :=
  [.sent (answer header.id (.status result)),
    .answered ⟨refusedLabel, 0, result, answer header.id (.status result)⟩]

/-- The payload of a command has come: it is dispatched and answered. -/
theorem run_payload {header : CommandHeader} {command : Command} {reply : Reply} {w' : σ}
    {result : List Event × Handler × σ} (hlistens : h.Listens)
    (hphase : h.phase = .reading (.payload header command))
    (henough : header.dataSize.toNat ≤ h.soFar.length + h.socket.unread.length)
    (hreply : service.dispatch now h.identity command (h.part header.dataSize.toNat) w
      = (reply, w')) (hfit : reply.payload.length ≤ service.limit)
    (hmore : run service now stopping
      (h.goOn header.dataSize.toNat now (.reading .header) h.observer) w' = result) :
    run service now stopping h w
      = (served header command (h.part header.dataSize.toNat) reply ++ result.1, result.2) := by
  rw [run_complete hphase (Bool.and_false _) henough]
  simp only [act, Wanted.need, hreply, respond_of_le hfit]
  rw [run_writing_flowing (hlistens.goOn _ _ _ _) rfl (answer_ne_nil _ _), ← hmore]
  rfl

/-- The payload of a refused command has come: it is thrown away. -/
theorem run_refused {header : CommandHeader} {reason : ValidationError}
    {result : List Event × Handler × σ} (hlistens : h.Listens)
    (hphase : h.phase = .reading (.refused header reason))
    (henough : header.dataSize.toNat ≤ h.soFar.length + h.socket.unread.length)
    (hmore : run service now stopping
      (h.goOn header.dataSize.toNat now (.reading .header) h.observer) w = result) :
    run service now stopping h w
      = (turnedAway header reason.resultCode ++ result.1, result.2) := by
  rw [run_complete hphase (Bool.and_false _) henough]
  simp only [act, Wanted.need, respond_status]
  rw [run_writing_flowing (hlistens.goOn _ _ _ _) rfl (answer_ne_nil _ _), ← hmore]
  rfl

/-! ## Headers -/

/-- What is read after a header that does not declare too much. -/
def Wanted.after (limit : Nat) (header : CommandHeader) : Wanted :=
  match validateCommand header limit with
  | .ok command => .payload header command
  | .error reason => .refused header reason

theorem validateCommand_of_gt {header : CommandHeader} {limit : Nat}
    (h : limit < header.dataSize.toNat) :
    validateCommand header limit = .error (.payloadTooLarge header.dataSize.toNat limit) := by
  rw [validateCommand, checkPayloadSize, if_pos h]

theorem validateCommand_of_le {header : CommandHeader} {limit : Nat}
    (h : header.dataSize.toNat ≤ limit) :
    validateCommand header limit = match Command.ofCode? header.cmd with
      | none => .error (.unknownCommand header.cmd)
      | some command =>
        if !command.acceptsPayload && header.dataSize.toNat > 0 then
          .error (.unexpectedPayload command header.dataSize.toNat)
        else .ok command := by
  have hsize : checkPayloadSize header.dataSize limit = .ok header.dataSize.toNat :=
    if_neg (Nat.not_lt.2 h)
  cases hcode : Command.ofCode? header.cmd with
  | none => simp only [validateCommand, hsize, hcode]
  | some command => simp only [validateCommand, hsize, hcode]

theorem judge_of_le {limit : Nat} {socket : Socket} {header : CommandHeader}
    (h : header.dataSize.toNat ≤ limit) :
    judge limit socket header = ([], .reading (.after limit header)) := by
  rw [judge, Wanted.after, validateCommand_of_le h]
  cases Command.ofCode? header.cmd with
  | none => rfl
  | some command =>
    dsimp only
    by_cases hsize : (!command.acceptsPayload && decide (header.dataSize.toNat > 0)) = true
    · rw [if_pos hsize]
    · rw [if_neg hsize]

/-- A header that declares too much is answered at once, and that is the last answer. -/
theorem judge_of_gt {limit : Nat} {socket : Socket} {header : CommandHeader}
    (h : limit < header.dataSize.toNat) :
    judge limit socket header = ([],
      .writing ⟨refusedLabel, 0, .payloadTooLarge, answer header.id (.status .payloadTooLarge)⟩
        (answer header.id (.status .payloadTooLarge)) true) := by
  simp only [judge, validateCommand_of_gt h, ValidationError.resultCode, respond_status]

/-- A header has come: its command is judged, and its payload comes next. -/
theorem run_header {header : CommandHeader} {result : List Event × Handler × σ}
    (hphase : h.phase = .reading .header)
    (henough : Header.size ≤ h.soFar.length + h.socket.unread.length)
    (hdecode : CommandHeader.decode? (h.part Header.size) = some header)
    (hfit : header.dataSize.toNat ≤ service.limit)
    (hmore : run service now false
      (h.goOn Header.size now (.reading (.after service.limit header))
        (noteId h.observer header.id).2) w = result) :
    run service now false h w = ((noteId h.observer header.id).1 ++ result.1, result.2) := by
  rw [run_complete hphase rfl henough]
  simp only [act, Wanted.need, hdecode, judge_of_le hfit, List.append_nil, hmore]

/-- A header that declares too much is answered, and the connection ends. -/
theorem run_header_oversized {header : CommandHeader} (hlistens : h.Listens)
    (hphase : h.phase = .reading .header)
    (henough : Header.size ≤ h.soFar.length + h.socket.unread.length)
    (hdecode : CommandHeader.decode? (h.part Header.size) = some header)
    (hlarge : service.limit < header.dataSize.toNat) :
    run service now false h w
      = ((noteId h.observer header.id).1 ++ (turnedAway header .payloadTooLarge
          ++ [closing (h.remaining Header.size)]),
        h.goOn Header.size now .ended (noteId h.observer header.id).2, w) := by
  rw [run_complete hphase rfl henough]
  simp only [act, Wanted.need, hdecode, judge, validateCommand_of_gt hlarge,
    ValidationError.resultCode, respond_status, List.append_nil]
  rw [run_writing_last (hlistens.goOn _ _ _ _) rfl (answer_ne_nil _ _)]
  rfl

end Handler

/-! ## At rest -/

/-- A buffer that did not let in everything refuses from then on. -/
theorem Buffer.refusing_of_fill_lt (b : Buffer) {n : Nat} (h : (b.fill n).1 < n) :
    (b.fill n).2.refusing = true := by
  induction n using Nat.strongRecOn generalizing b with
  | _ n ih =>
  rw [Buffer.fill] at h ⊢
  split
  · next hzero => omega
  · next hzero =>
    rw [dif_neg hzero] at h
    split
    · rfl
    · next hroom =>
      rw [if_neg hroom] at h
      have hpos : 0 < Chunk.maxSize := by decide
      exact ih _ (by omega) _ (by dsimp only at h ⊢; omega)

theorem Outlet.refuses_of_offer_lt (o : Outlet) {n : Nat} (h : (o.offer n).1 < n) :
    (o.offer n).2.refuses = true := by
  cases o with
  | flowing => exact absurd h (Nat.lt_irrefl n)
  | bounded b =>
    simp only [Outlet.offer, Outlet.refuses, Buffer.offer] at h ⊢
    split
    · next hrefusing => exact hrefusing
    · next hrefusing =>
      rw [if_neg hrefusing] at h
      exact b.refusing_of_fill_lt h

namespace Handler

variable {σ : Type}

/-- A handler that can do nothing for now. -/
def Rests (h : Handler) : Prop :=
  ∀ (σ : Type) (service : Service σ) (now : Nat) (w : σ), run service now false h w = ([], h, w)

theorem rests_of_isEnded {h : Handler} (hended : h.isEnded = true) : h.Rests :=
  fun _ _ _ _ => run_ended (phase_of_isEnded hended)

/-- A handler that waits for bytes rests. -/
theorem rests_of_waiting {h : Handler} {wanted : Wanted} (hphase : h.phase = .reading wanted)
    (hunread : h.socket.unread = []) (hended : h.socket.ended = false)
    (hreset : h.socket.reset = false) (hnoted : h.socket.noted = false)
    (hshort : h.soFar.length < wanted.need) : h.Rests := by
  intro σ service now w
  have hfill : h.socket.fill wanted.need h.soFar = (.waiting h.soFar, h.socket) := by
    rw [Socket.fill_of_lt hended hreset (by rw [hunread]; exact hshort), hunread, List.append_nil,
      ← hunread, ← hnoted]
  rw [run_reading hphase rfl, hfill]

/-- A handler that is kept from writing rests. -/
theorem rests_of_refused {h : Handler} {response : Response} {rest : Bytes} {last : Bool}
    (hphase : h.phase = .writing response rest last) (hgone : h.socket.gone = false)
    (hrefuses : h.outlet.refuses = true) : h.Rests := by
  intro σ service now w
  have hwrote : h.writeOn now response rest last = ([], h) := by
    rw [writeOn, if_neg (by rw [hgone]; exact Bool.false_ne_true), if_pos hrefuses]
  rw [run_writing hphase, hwrote]
  simp [hphase, Phase.weight]

/-- A write either comes to an end or is refused. -/
theorem rests_of_writeOn {h : Handler} {now : Nat} {response : Response} {rest : Bytes}
    {last : Bool} (hphase : h.phase = .writing response rest last)
    (hweight : (h.writeOn now response rest last).2.phase.weight ≠ 0) :
    (h.writeOn now response rest last).2.Rests := by
  rw [writeOn] at hweight ⊢
  by_cases hgone : h.socket.gone = true
  · rw [if_pos hgone] at hweight
    exact absurd rfl hweight
  rw [if_neg hgone] at hweight ⊢
  rw [Bool.not_eq_true] at hgone
  by_cases hrefuses : h.outlet.refuses = true
  · rw [if_pos hrefuses]
    exact rests_of_refused hphase hgone hrefuses
  rw [if_neg hrefuses] at hweight ⊢
  dsimp only at hweight ⊢
  by_cases hless : (h.outlet.offer rest.length).1 < rest.length
  · rw [if_pos hless]
    exact rests_of_refused
      (h := { h with
        outlet := (h.outlet.offer rest.length).2
        phase := .writing response (rest.drop (h.outlet.offer rest.length).1) last })
      rfl hgone (h.outlet.refuses_of_offer_lt hless)
  · rw [if_neg hless] at hweight
    cases last <;> exact absurd rfl hweight

/-- Going on after a complete part, a handler can do less than before. -/
theorem measure_goOn_act_lt (service : Service σ) (now : Nat) {h : Handler} {wanted : Wanted}
    (hphase : h.phase = .reading wanted)
    (henough : wanted.need ≤ h.soFar.length + h.socket.unread.length) (w : σ) :
    let turn := act service now h.identity h.observer (h.remaining wanted.need) wanted
      (h.part wanted.need) w
    (h.goOn wanted.need now turn.phase turn.observer).measure < h.measure := by
  have hact := weight_act_lt service now h.identity h.observer (h.remaining wanted.need) wanted
    (h.part wanted.need) w
  have hremaining : (h.remaining wanted.need).unread.length
      = h.socket.unread.length - (wanted.need - h.soFar.length) := List.length_drop
  dsimp only
  rw [measure_goOn, measure, hphase]
  omega

/-- **After it was run, a handler rests.** -/
theorem rests_of_run (service : Service σ) (now : Nat) (h : Handler) (w : σ) :
    (run service now false h w).2.1.Rests := by
  induction hmeasure : h.measure using Nat.strongRecOn generalizing h w with
  | _ n ih =>
  subst hmeasure
  cases hphase : h.phase with
  | ended =>
    rw [run_ended hphase]
    exact rests_of_isEnded (by rw [isEnded, hphase])
  | writing response rest last =>
    rw [run_writing hphase]
    dsimp only
    split
    · next hdone =>
      refine ih _ ?_ _ _ rfl
      rw [measure_writeOn, hdone, measure, hphase, Phase.weight]
      omega
    · next hweight => exact rests_of_writeOn hphase hweight
  | reading wanted =>
    by_cases henough : wanted.need ≤ h.soFar.length + h.socket.unread.length
    · rw [run_complete hphase rfl henough]
      exact ih _ (measure_goOn_act_lt service now hphase henough w) _ _ rfl
    · have hshort : h.soFar.length + h.socket.unread.length < wanted.need := Nat.not_le.1 henough
      by_cases halive : h.socket.ended = false ∧ h.socket.reset = false
      · obtain ⟨hended, hreset⟩ := halive
        rw [run_reading hphase rfl, Socket.fill_of_lt hended hreset hshort]
        rw [← List.length_append] at hshort
        exact rests_of_waiting
          (h := { h with
            socket := { h.socket with unread := [], noted := false }
            soFar := h.soFar ++ h.socket.unread })
          hphase rfl hended hreset rfl hshort
      · obtain ⟨error, socket, hfill⟩ := Socket.fill_of_over halive hshort
        rw [run_reading hphase rfl, hfill]
        exact rests_of_isEnded rfl

/-- A handler that was started and has read nothing. -/
def newcomer (scope : IdentityScope) (uid : UInt32) (outlet : Outlet) (now : Nat) : Handler :=
  { identity := .resolve scope uid
    socket := {}
    outlet := outlet
    phase := .reading .header
    soFar := []
    observer := {}
    since := now }

theorem start_some (scope : IdentityScope) (uid : UInt32) (outlet : Outlet) (now : Nat) :
    start scope (some uid) {} outlet now = ([.started], some (newcomer scope uid outlet now)) := rfl

theorem rests_newcomer (scope : IdentityScope) (uid : UInt32) (outlet : Outlet) (now : Nat) :
    (newcomer scope uid outlet now).Rests := by
  have hshort : 0 < Wanted.header.need := by decide
  exact rests_of_waiting rfl rfl rfl rfl rfl hshort

end Handler
end TokenBroker
