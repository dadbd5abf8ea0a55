import TokenBroker.Proofs.Daemon.Course
import TokenBroker.Proofs.Daemon.Stream
/-!
# What becomes of the commands of a client

A client that keeps reading gets a response to each command that has come in full, with the id of
that command, unless its connection ends at that command.

* `Exchanged` are complete commands that were read and the responses to them.
* `Account` says of all that a client has sent what has become of it; `Attends.run` says that a run
  of its handler leaves such an account.
* `Server.accounted_run` says the same of its connection among any others, in any run.

The replies are whatever the dispatcher gives.  A reply that is larger than the limit is never sent:
the connection ends instead, and the command has no response.
-/

set_option autoImplicit false

namespace TokenBroker
namespace Handler

/-! ## Commands and responses -/

/-- Commands that were read, one after the other and each in full, with the calls of the dispatcher
that they led to and the responses that were written. -/
inductive Exchanged (limit : Nat) : Bytes → List (Command × Bytes × Reply) → Bytes → Prop where
  | none : Exchanged limit [] [] []
  | served {read written payload : Bytes} {calls : List (Command × Bytes × Reply)}
      {header : CommandHeader} {command : Command} {reply : Reply} :
      Exchanged limit read calls written → header.dataSize.toNat = payload.length →
      validateCommand header limit = .ok command → reply.payload.length ≤ limit →
      Exchanged limit (read ++ (header.encode ++ payload)) (calls ++ [(command, payload, reply)])
        (written ++ answer header.id reply)
  | refused {read written payload : Bytes} {calls : List (Command × Bytes × Reply)}
      {header : CommandHeader} {reason : ValidationError} :
      Exchanged limit read calls written → header.dataSize.toNat = payload.length →
      payload.length ≤ limit → validateCommand header limit = .error reason →
      Exchanged limit (read ++ (header.encode ++ payload)) calls
        (written ++ answer header.id (.status reason.resultCode))

/-- Some bytes begin with a command that declares no more than the limit and is there in full. -/
def Complete (limit : Nat) (bytes : Bytes) : Prop :=
  ∃ (header : CommandHeader) (payload later : Bytes),
    bytes = header.encode ++ (payload ++ later) ∧ header.dataSize.toNat = payload.length
      ∧ payload.length ≤ limit

/-- What has become of all that was heard of a client, with what happened on its connection.  `fair`
is what is known of replies, and `full` of the daemon while it accepts nobody. -/
inductive Account (limit : Nat) (fair : Command → Reply → Prop) (full : Prop) (past : Heard)
    (events : List Event) : Prop where
  /-- The connection waits to be accepted. -/
  | unread : full → events = [] → Account limit fair full past events
  /-- The daemon stopped before the connection was accepted. -/
  | turnedAway : past.told.isSome = true → events = [] ∨ events = [.rejected true] →
      Account limit fair full past events
  /-- Every command that is there in full has its response. -/
  | answered {read rest : Bytes} : past.bytes = read ++ rest →
      Exchanged limit read (calls events) (written events) → ¬ Complete limit rest →
      Account limit fair full past events
  /-- The daemon stops, and reads no command of which the header was not there in full when it was
  told to. -/
  | stopped {count : Nat} {read rest : Bytes} : past.told = some count →
      count < read.length + Header.size → past.bytes = read ++ rest →
      Exchanged limit read (calls events) (written events) → Account limit fair full past events
  /-- A command that declares too much has its response, and nothing is read after its header. -/
  | oversized {read before rest : Bytes} {header : CommandHeader} :
      past.bytes = read ++ (header.encode ++ rest) → limit < header.dataSize.toNat →
      Exchanged limit read (calls events) before →
      written events = before ++ answer header.id (.status .payloadTooLarge) →
      Account limit fair full past events
  /-- The reply to a command is too large to be sent, and the connection ends at that command. -/
  | dropped {read payload rest : Bytes} {before : List (Command × Bytes × Reply)}
      {header : CommandHeader} {command : Command} {reply : Reply} :
      past.bytes = read ++ (header.encode ++ (payload ++ rest)) →
      header.dataSize.toNat = payload.length → validateCommand header limit = .ok command →
      Exchanged limit read before (written events) →
      calls events = before ++ [(command, payload, reply)] → limit < reply.payload.length →
      fair command reply → Account limit fair full past events

theorem Account.mono {limit : Nat} {fair fair' : Command → Reply → Prop} {full full' : Prop}
    {past : Heard} {events : List Event} (haccount : Account limit fair full past events)
    (hfull : full → full') (hfair : ∀ command reply, limit < reply.payload.length →
      fair command reply → fair' command reply) : Account limit fair' full' past events := by
  cases haccount with
  | unread hwaits hnone => exact .unread (hfull hwaits) hnone
  | turnedAway htold hrejected => exact .turnedAway htold hrejected
  | answered hpast hexchanged hrest => exact .answered hpast hexchanged hrest
  | stopped htold hcount hpast hexchanged => exact .stopped htold hcount hpast hexchanged
  | oversized hpast hlarge hexchanged hwritten => exact .oversized hpast hlarge hexchanged hwritten
  | dropped hpast hsize hvalid hexchanged hcalls hlarge hreply =>
    exact .dropped hpast hsize hvalid hexchanged hcalls hlarge (hfair _ _ hlarge hreply)

theorem Heard.told_stop {past : Heard} {count : Nat} (htold : past.told = some count) :
    past.stop.told = some count := by
  rw [Heard.stop, htold]
  rfl

/-- That the daemon is told to stop changes nothing for a connection that is over. -/
theorem Account.stop {limit : Nat} {fair : Command → Reply → Prop} {full : Prop} {past : Heard}
    {events : List Event} (haccount : Account limit fair full past events) :
    Account limit fair full past.stop events := by
  cases haccount with
  | unread hwaits hnone => exact .unread hwaits hnone
  | turnedAway htold hrejected => exact .turnedAway rfl hrejected
  | answered hpast hexchanged hrest => exact .answered hpast hexchanged hrest
  | stopped htold hcount hpast hexchanged =>
    exact .stopped (Heard.told_stop htold) hcount hpast hexchanged
  | oversized hpast hlarge hexchanged hwritten => exact .oversized hpast hlarge hexchanged hwritten
  | dropped hpast hsize hvalid hexchanged hcalls hlarge hreply =>
    exact .dropped hpast hsize hvalid hexchanged hcalls hlarge hreply

/-! ## A handler at work -/

/-- A handler that reads a part, with what was read before the command of that part. -/
structure Attends (limit : Nat) (past : Heard) (events : List Event) (h : Handler)
    (wanted : Wanted) (read : Bytes) : Prop where
  listens : h.Listens
  phase : h.phase = .reading wanted
  judged : wanted.Judged limit
  within : h.soFar.length ≤ wanted.need
  bytes : past.bytes = read ++ (wanted.head ++ (h.soFar ++ h.socket.unread))
  /-- When the daemon was told to stop, this part was not there in full. -/
  told : ∀ count, past.told = some count →
    count < read.length + (wanted.head.length + wanted.need)
  exchanged : Exchanged limit read (calls events) (written events)

/-- A handler that reads. -/
def Busy (limit : Nat) (past : Heard) (events : List Event) (h : Handler) : Prop :=
  ∃ wanted read, h.Attends limit past events wanted read

/-- A handler that waits for the rest of a part. -/
def Awaits (limit : Nat) (past : Heard) (events : List Event) (h : Handler) : Prop :=
  ∃ wanted read, h.Attends limit past events wanted read
    ∧ h.soFar.length + h.socket.unread.length < wanted.need

variable {limit : Nat} {past : Heard} {read : Bytes} {events : List Event} {h : Handler}
  {wanted : Wanted}

/-- A part that is not complete is part of a command that is not. -/
theorem not_complete_of_lt {part : Bytes} (hshort : part.length < wanted.need) :
    ¬ Complete limit (wanted.head ++ part) := by
  rintro ⟨header, payload, later, hbytes, hsize, -⟩
  have hbody : ∀ {header' : CommandHeader}, wanted.head = header'.encode →
      wanted.need = header'.dataSize.toNat → False := by
    intro header' hhead hneed
    rw [hhead] at hbytes
    obtain ⟨hencode, hpart⟩ := List.append_inj hbytes
      ((CommandHeader.length_encode header').trans (CommandHeader.length_encode header).symm)
    have hsame : header' = header := Option.some.inj <| by
      rw [← CommandHeader.decode?_encode header', hencode, CommandHeader.decode?_encode]
    rw [hpart, hneed, hsame, hsize, List.length_append] at hshort
    omega
  cases wanted with
  | header =>
    have hlength := congrArg List.length hbytes
    rw [Wanted.head, List.nil_append, List.length_append, CommandHeader.length_encode] at hlength
    rw [Wanted.need] at hshort
    omega
  | payload header' command => exact hbody rfl rfl
  | refused header' reason => exact hbody rfl rfl

/-- Having read a part, a handler has less to do. -/
theorem measure_goOn_header_lt {need now : Nat} (hphase : h.phase = .reading wanted)
    (hweight : 0 < (Phase.reading wanted).weight) (observer : Sequence.Observer) :
    (h.goOn need now (.reading .header) observer).measure < h.measure := by
  have hremaining : (h.remaining need).unread.length
      = h.socket.unread.length - (need - h.soFar.length) := List.length_drop
  rw [measure_goOn, hremaining, measure, hphase, Phase.weight]
  omega

/-- After the payload that a header announces was read, the next command is read. -/
theorem Attends.next {header : CommandHeader} {more : List Event} (now : Nat)
    (hattends : h.Attends limit past events wanted read) (hhead : wanted.head = header.encode)
    (henough : wanted.need ≤ h.soFar.length + h.socket.unread.length)
    (hexchanged : Exchanged limit (read ++ (header.encode ++ h.part wanted.need))
      (calls (events ++ more)) (written (events ++ more))) :
    (h.goOn wanted.need now (.reading .header) h.observer).Attends limit past (events ++ more)
      .header (read ++ (header.encode ++ h.part wanted.need)) where
  listens := hattends.listens.goOn _ _ _ _
  phase := rfl
  judged := trivial
  within := Nat.zero_le _
  bytes := by
    rw [hattends.bytes, hhead, ← part_append_remaining h wanted.need]
    simp only [List.append_assoc]
    rfl
  told := fun count htold => by
    have hcount := hattends.told count htold
    rw [List.length_append, List.length_append, length_part hattends.within henough, ← hhead]
    exact Nat.lt_add_right _ hcount
  exchanged := hexchanged

theorem calls_served (header : CommandHeader) (command : Command) (payload : Bytes)
    (reply : Reply) : calls (served header command payload reply) = [(command, payload, reply)] :=
  rfl

theorem written_served (header : CommandHeader) (command : Command) (payload : Bytes)
    (reply : Reply) : written (served header command payload reply) = answer header.id reply :=
  List.append_nil _

theorem calls_turnedAway (header : CommandHeader) (result : ResultCode) :
    calls (turnedAway header result) = [] := rfl

theorem written_turnedAway (header : CommandHeader) (result : ResultCode) :
    written (turnedAway header result) = answer header.id (.status result) := List.append_nil _

theorem calls_closing (socket : Socket) : calls [closing socket] = [] := rfl

theorem written_closing (socket : Socket) : written [closing socket] = [] := rfl

/-- A handler that ends leaves what it has not read. -/
theorem Attends.account (hattends : h.Attends limit past events wanted read)
    (fair : Command → Reply → Prop) (socket : Socket)
    (hleft : (past.told.isSome && wanted.isHeader) = true
      ∨ h.soFar.length + h.socket.unread.length < wanted.need) :
    Account limit fair False past (events ++ [closing socket]) := by
  have hexchanged : Exchanged limit read (calls (events ++ [closing socket]))
      (written (events ++ [closing socket])) := by
    rw [calls_append, written_append, calls_closing, written_closing, List.append_nil,
      List.append_nil]
    exact hattends.exchanged
  rcases hleft with hstop | hshort
  · obtain ⟨htold, hheader⟩ := Bool.and_eq_true_iff.1 hstop
    obtain ⟨count, hcount⟩ := Option.isSome_iff_exists.1 htold
    have hless := hattends.told count hcount
    cases wanted with
    | header =>
      rw [Wanted.head, List.length_nil, Nat.zero_add] at hless
      exact .stopped hcount hless hattends.bytes hexchanged
    | payload header command => cases hheader
    | refused header reason => cases hheader
  · rw [← List.length_append] at hshort
    exact .answered hattends.bytes hexchanged (not_complete_of_lt hshort)

/-- A part that is not complete is taken in. -/
theorem Attends.takeIn (hattends : h.Attends limit past events wanted read)
    (hshort : h.soFar.length + h.socket.unread.length < wanted.need) :
    ({ h with
      socket := { h.socket with unread := [], noted := false }
      soFar := h.soFar ++ h.socket.unread } : Handler).Awaits limit past events := by
  rw [← List.length_append] at hshort
  refine ⟨wanted, read, ?_, hshort⟩
  exact {
    listens := ⟨hattends.listens.outlet, hattends.listens.gone⟩
    phase := hattends.phase
    judged := hattends.judged
    within := Nat.le_of_lt hshort
    bytes := by rw [hattends.bytes, List.append_nil]
    told := hattends.told
    exchanged := hattends.exchanged }

/-- A header was read, and what is left comes after it. -/
theorem Attends.bytes_of_header {header : CommandHeader}
    (hattends : h.Attends limit past events .header read)
    (hdecode : CommandHeader.decode? (h.part Header.size) = some header) :
    past.bytes = read ++ (header.encode ++ (h.remaining Header.size).unread) := by
  rw [CommandHeader.encode_of_decode? hdecode, part_append_remaining]
  exact hattends.bytes

/-- Noting an id answers nothing. -/
theorem Attends.noted (hattends : h.Attends limit past events wanted read) (id : UInt32) :
    Exchanged limit read (calls (events ++ (noteId h.observer id).1))
      (written (events ++ (noteId h.observer id).1)) := by
  rw [calls_append, written_append, calls_noteId, written_noteId, List.append_nil, List.append_nil]
  exact hattends.exchanged

/-- After a header that declares no more than the limit, its payload is read. -/
theorem Attends.opened {header : CommandHeader} (now : Nat)
    (hattends : h.Attends limit past events .header read)
    (hdecode : CommandHeader.decode? (h.part Header.size) = some header)
    (hsize : header.dataSize.toNat ≤ limit) (htold : past.told = none) :
    (h.goOn Header.size now (.reading (.after limit header))
      (noteId h.observer header.id).2).Attends limit past
        (events ++ (noteId h.observer header.id).1) (.after limit header) read where
  listens := hattends.listens.goOn _ _ _ _
  phase := rfl
  judged := Wanted.judged_after hsize
  within := Nat.zero_le _
  bytes := by
    rw [Wanted.head_after]
    exact hattends.bytes_of_header hdecode
  told := fun count hcount => by
    rw [htold] at hcount
    cases hcount
  exchanged := hattends.noted header.id

/-- A header that declares too much is answered, and nothing is read after it. -/
theorem Attends.oversized {header : CommandHeader}
    (hattends : h.Attends limit past events .header read)
    (hdecode : CommandHeader.decode? (h.part Header.size) = some header)
    (hlarge : limit < header.dataSize.toNat) (fair : Command → Reply → Prop) :
    Account limit fair False past (events ++ ((noteId h.observer header.id).1
      ++ (turnedAway header .payloadTooLarge ++ [closing (h.remaining Header.size)]))) := by
  have hexchanged : Exchanged limit read (calls (events ++ (noteId h.observer header.id).1
      ++ (turnedAway header .payloadTooLarge ++ [closing (h.remaining Header.size)])))
      (written (events ++ (noteId h.observer header.id).1)) := by
    have hnone : calls (turnedAway header .payloadTooLarge
        ++ [closing (h.remaining Header.size)]) = [] := rfl
    rw [calls_append, hnone, List.append_nil]
    exact hattends.noted header.id
  have hanswer : written (turnedAway header .payloadTooLarge
      ++ [closing (h.remaining Header.size)]) = answer header.id (.status .payloadTooLarge) := by
    rw [written_append, written_turnedAway, written_closing, List.append_nil]
  rw [← List.append_assoc]
  refine .oversized (hattends.bytes_of_header hdecode) hlarge hexchanged ?_
  rw [written_append, hanswer]

section

variable {header : CommandHeader} {command : Command} {reply : Reply} {reason : ValidationError}

/-- A command whose reply fits is answered. -/
theorem Attends.served (now : Nat)
    (hattends : h.Attends limit past events (.payload header command) read)
    (henough : header.dataSize.toNat ≤ h.soFar.length + h.socket.unread.length)
    (hfit : reply.payload.length ≤ limit) :
    (h.goOn header.dataSize.toNat now (.reading .header) h.observer).Attends limit past
      (events ++ Handler.served header command (h.part header.dataSize.toNat) reply) .header
      (read ++ (header.encode ++ h.part header.dataSize.toNat)) := by
  refine hattends.next now rfl henough ?_
  rw [calls_append, written_append, calls_served, written_served]
  exact .served hattends.exchanged (length_part hattends.within henough).symm hattends.judged.2 hfit

/-- A command that is refused is answered too. -/
theorem Attends.refused (now : Nat)
    (hattends : h.Attends limit past events (.refused header reason) read)
    (henough : header.dataSize.toNat ≤ h.soFar.length + h.socket.unread.length) :
    (h.goOn header.dataSize.toNat now (.reading .header) h.observer).Attends limit past
      (events ++ turnedAway header reason.resultCode) .header
      (read ++ (header.encode ++ h.part header.dataSize.toNat)) := by
  obtain ⟨hsize, hvalid⟩ := hattends.judged
  have hpart : header.dataSize.toNat = (h.part header.dataSize.toNat).length :=
    (length_part hattends.within henough).symm
  refine hattends.next now rfl henough ?_
  rw [calls_append, written_append, calls_turnedAway, written_turnedAway, List.append_nil]
  exact .refused hattends.exchanged hpart (hpart ▸ hsize) hvalid

/-- A command whose reply is too large is dispatched and not answered. -/
theorem Attends.dropped {fair : Command → Reply → Prop}
    (hattends : h.Attends limit past events (.payload header command) read)
    (henough : header.dataSize.toNat ≤ h.soFar.length + h.socket.unread.length)
    (hlarge : limit < reply.payload.length) (hfair : fair command reply) :
    Account limit fair False past (events
      ++ [.dispatched command (h.part header.dataSize.toNat) reply,
        closing (h.remaining header.dataSize.toNat)]) := by
  have hbytes := hattends.bytes
  rw [Wanted.head, ← part_append_remaining h header.dataSize.toNat] at hbytes
  have hexchanged : Exchanged limit read (calls events) (written (events
      ++ [.dispatched command (h.part header.dataSize.toNat) reply,
        closing (h.remaining header.dataSize.toNat)])) := by
    rw [written_append]
    exact (List.append_nil (written events)).symm ▸ hattends.exchanged
  exact .dropped hbytes (length_part hattends.within henough).symm hattends.judged.2 hexchanged
    (calls_append _ _) hlarge hfair

end

end Handler

/-- What is known of the replies of a service, as long as the states of its dispatcher are sound. -/
def Service.Replies {σ : Type} (service : Service σ) (sound : σ → Prop)
    (fair : Command → Reply → Prop) : Prop :=
  ∀ (now : Nat) (key : IdentityKey) (command : Command) (payload : Bytes) (w : σ),
    sound w → payload.length ≤ service.limit →
      fair command (service.dispatch now key command payload w).1

namespace Handler

variable {σ : Type} {service : Service σ} {sound : σ → Prop} {fair : Command → Reply → Prop}
  {past : Heard} {read : Bytes} {events : List Event} {h : Handler} {wanted : Wanted} {w : σ}

/-- How a run of a handler leaves its connection. -/
def Leaves (limit : Nat) (fair : Command → Reply → Prop) (past : Heard) (events : List Event)
    (result : List Event × Handler × σ) : Prop :=
  if result.2.1.isEnded then Account limit fair False past (events ++ result.1)
  else result.2.1.Awaits limit past (events ++ result.1)

theorem Leaves.prepend {limit : Nat} {more : List Event} {result : List Event × Handler × σ}
    (hleaves : Leaves limit fair past (events ++ more) result) :
    Leaves limit fair past events (more ++ result.1, result.2) := by
  rw [Leaves, List.append_assoc] at hleaves
  exact hleaves

/-- A reply that is too large ends the connection. -/
theorem run_payload_oversized {stopping : Bool} {header : CommandHeader} {command : Command}
    {reply : Reply} {w' : σ} (hphase : h.phase = .reading (.payload header command))
    (henough : header.dataSize.toNat ≤ h.soFar.length + h.socket.unread.length) (now : Nat)
    (hreply : service.dispatch now h.identity command (h.part header.dataSize.toNat) w
      = (reply, w')) (hlarge : service.limit < reply.payload.length) :
    Handler.run service now stopping h w
      = ([.dispatched command (h.part header.dataSize.toNat) reply,
          closing (h.remaining header.dataSize.toNat)],
        h.goOn header.dataSize.toNat now .ended h.observer, w') := by
  rw [run_complete hphase (Bool.and_false _) henough]
  simp only [act, Wanted.need, hreply, respond, Frame.ofResponse,
    Frame.checkOutgoing_of_lt hlarge]
  rw [run_ended rfl]
  rfl

/-- **A run of a handler gives an account of every command that its client has sent.** -/
theorem Attends.run (hattends : h.Attends service.limit past events wanted read)
    (hkeeps : service.Keeps sound) (hreplies : service.Replies sound fair) (hsound : sound w)
    (now : Nat) :
    Leaves service.limit fair past events (Handler.run service now past.told.isSome h w) := by
  -- a part that is complete leaves less to do; the command of a payload joins those answered
  induction hmeasure : h.measure using Nat.strongRecOn generalizing h wanted read events w with
  | _ n ih =>
  subst hmeasure
  have hphase := hattends.phase
  by_cases hstop : (past.told.isSome && wanted.isHeader) = true
  · rw [run_stopping hphase hstop]
    exact hattends.account fair h.socket (.inl hstop)
  rw [Bool.not_eq_true] at hstop
  rcases Nat.lt_or_ge (h.soFar.length + h.socket.unread.length) wanted.need with hshort | henough
  · by_cases halive : h.socket.ended = false ∧ h.socket.reset = false
    · have hreading : ({ h with
          socket := { h.socket with unread := [], noted := false }
          soFar := h.soFar ++ h.socket.unread } : Handler).isEnded = false := by
        rw [isEnded, hphase]
      rw [run_reading hphase hstop, Socket.fill_of_lt halive.1 halive.2 hshort, Leaves,
        List.append_nil, hreading]
      exact hattends.takeIn hshort
    · obtain ⟨error, socket, hfill⟩ := Socket.fill_of_over halive hshort
      rw [run_reading hphase hstop, hfill]
      exact hattends.account fair socket (.inr hshort)
  cases wanted with
  | header =>
    have hrunning : past.told.isSome = false := by rwa [Wanted.isHeader, Bool.and_true] at hstop
    obtain ⟨header, hdecode⟩ : ∃ header, CommandHeader.decode? (h.part Header.size) = some header :=
      Reference.exists_decode? (length_part hattends.within henough)
    rcases Nat.lt_or_ge service.limit header.dataSize.toNat with hlarge | hsize
    · rw [hrunning, run_header_oversized hattends.listens hphase henough hdecode hlarge]
      exact hattends.oversized hdecode hlarge fair
    · have hless := measure_goOn_act_lt service now hphase henough w
      simp only [act, Wanted.need, hdecode, judge_of_le hsize] at hless
      have hopened := hattends.opened now hdecode hsize (Option.not_isSome_iff_eq_none.1
        (Bool.not_eq_true _ ▸ hrunning))
      have hleaves := ih _ hless hopened hsound rfl
      rw [hrunning] at hleaves ⊢
      rw [run_header hphase henough hdecode hsize rfl]
      exact hleaves.prepend
  | payload header command =>
    have hsize : (h.part header.dataSize.toNat).length ≤ service.limit :=
      (length_part hattends.within henough).symm ▸ hattends.judged.1
    have hfair := hreplies now h.identity command (h.part header.dataSize.toNat) w hsound hsize
    have hsound' := hkeeps now h.identity command (h.part header.dataSize.toNat) w hsound
    cases hreply : service.dispatch now h.identity command (h.part header.dataSize.toNat) w with
    | mk reply w' =>
    rw [hreply] at hfair hsound'
    rcases Nat.lt_or_ge service.limit reply.payload.length with hlarge | hfit
    · rw [run_payload_oversized hphase henough now hreply hlarge]
      exact hattends.dropped henough hlarge hfair
    · rw [run_payload hattends.listens hphase henough hreply hfit rfl]
      exact Leaves.prepend (ih _ (measure_goOn_header_lt hphase Nat.two_pos h.observer)
        (hattends.served now henough hfit) hsound' rfl)
  | refused header reason =>
    rw [run_refused hattends.listens hphase henough rfl]
    exact Leaves.prepend (ih _ (measure_goOn_header_lt hphase Nat.two_pos h.observer)
      (hattends.refused now henough) hsound rfl)

/-! ## A connection as it waits -/

/-- What a client may do that keeps reading: anything but leave. -/
def Stays (arrival : Arrival) : Prop := ∀ reset, arrival ≠ .hangUp reset

theorem gone_receive {socket : Socket} {arrival : Arrival} (hstays : Stays arrival) :
    (socket.receive arrival).gone = socket.gone := by
  cases arrival with
  | bytes chunk =>
    rw [Socket.receive]
    split <;> rfl
  | finish => rfl
  | hangUp reset => exact absurd rfl (hstays reset)

/-- A known caller that reads and is not accepted yet; what has come from it waits with it. -/
structure Newcomer (past : Heard) (c : Waiting) : Prop where
  uid : c.uid ≠ none
  unread : c.socket.unread = past.bytes
  outlet : c.outlet = .flowing
  gone : c.socket.gone = false

section

variable {limit : Nat} {past : Heard} {events : List Event} {h : Handler} {c : Waiting}
  {scope : IdentityScope} {now : Nat} {arrival : Arrival}

theorem Newcomer.receive (hnew : Newcomer past c) (hstays : Stays arrival) :
    Newcomer (past.append arrival.content) { c with socket := c.socket.receive arrival } where
  uid := hnew.uid
  unread := by
    rw [Socket.unread_receive, hnew.unread]
    rfl
  outlet := hnew.outlet
  gone := (gone_receive hstays).trans hnew.gone

theorem Newcomer.not_refused (hnew : Newcomer past c)
    (hstart : Handler.start scope c.uid c.socket c.outlet now = (events, none)) : False := by
  cases huid : c.uid with
  | none => exact hnew.uid huid
  | some uid =>
    rw [huid] at hstart
    cases (Prod.mk.inj hstart).2

theorem Newcomer.begin (hnew : Newcomer past c) (htold : past.told = none)
    (hstart : Handler.start scope c.uid c.socket c.outlet now = (events, some h)) :
    h.Busy limit past events := by
  obtain ⟨rfl, hsocket, houtlet, hphase, hsoFar, -⟩ := of_start_some hstart
  exact ⟨.header, [], {
    listens := ⟨houtlet.trans hnew.outlet, by rw [hsocket, hnew.gone]⟩
    phase := hphase
    judged := trivial
    within := by
      rw [hsoFar]
      exact Nat.zero_le _
    bytes := by
      rw [hsoFar, hsocket, hnew.unread]
      rfl
    told := fun count hsome => by
      rw [htold] at hsome
      cases hsome
    exchanged := .none }⟩

theorem Awaits.busy (hawaits : h.Awaits limit past events) : h.Busy limit past events := by
  obtain ⟨wanted, read, hattends, -⟩ := hawaits
  exact ⟨wanted, read, hattends⟩

theorem Awaits.hear (hawaits : h.Awaits limit past events) (hstays : Stays arrival) :
    ({ h with socket := h.socket.receive arrival } : Handler).Busy limit
      (past.append arrival.content) events := by
  obtain ⟨wanted, read, hattends, -⟩ := hawaits
  exact ⟨wanted, read, {
    listens := ⟨hattends.listens.outlet, (gone_receive hstays).trans hattends.listens.gone⟩
    phase := hattends.phase
    judged := hattends.judged
    within := hattends.within
    bytes := by
      rw [Heard.append, hattends.bytes]
      dsimp only
      rw [Socket.unread_receive]
      simp only [List.append_assoc]
    told := hattends.told
    exchanged := hattends.exchanged }⟩

theorem Awaits.makeRoom (hawaits : h.Awaits limit past events) (count : Nat) :
    ({ h with outlet := h.outlet.consume count } : Handler).Busy limit past events := by
  obtain ⟨wanted, read, hattends, -⟩ := hawaits
  have houtlet : h.outlet.consume count = .flowing := by
    rw [hattends.listens.outlet]
    rfl
  exact ⟨wanted, read, { hattends with listens := ⟨houtlet, hattends.listens.gone⟩ }⟩

/-- A client that keeps the daemon waiting is not owed anything. -/
theorem Awaits.expire (hawaits : h.Awaits limit past events) (fair : Command → Reply → Prop) :
    Account limit fair False past (events ++ h.finish.1) := by
  obtain ⟨wanted, read, hattends, hshort⟩ := hawaits
  exact hattends.account fair h.socket (.inr hshort)

/-- A handler that waits has read all that had come when the daemon is told to stop. -/
theorem Awaits.tell (hawaits : h.Awaits limit past events) : h.Busy limit past.stop events := by
  obtain ⟨wanted, read, hattends, hshort⟩ := hawaits
  refine ⟨wanted, read, { hattends with told := fun count htold => ?_ }⟩
  cases hbefore : past.told with
  | some earlier =>
    rw [Heard.told_stop hbefore] at htold
    exact hattends.told count (hbefore.trans htold)
  | none =>
    rw [Heard.stop, hbefore] at htold
    rw [← Option.some.inj htold, Option.getD_none, hattends.bytes]
    simp only [List.length_append]
    omega

end

end Handler

/-! ## One connection among others -/

namespace Server

open Handler

variable {σ : Type} {service : Service σ} {sound : σ → Prop} {fair : Command → Reply → Prop}
  {s : Server} {w : σ} {client : Nat} {past : Heard} {events : List Event}

/-- The course of a connection of a known caller that keeps reading. -/
def accounted (hkeeps : service.Keeps sound) (hreplies : service.Replies sound fair) :
    Course service sound Stays where
  waiting := Newcomer
  busy := Busy service.limit
  resting := Awaits service.limit
  closed := Account service.limit fair False
  queue := Newcomer.receive
  refuse := fun hnew hstart => (hnew.not_refused hstart).elim
  begin := Newcomer.begin
  turnAway := fun _ => .turnedAway rfl (.inr rfl)
  wake := Awaits.busy
  hear := Awaits.hear
  makeRoom := fun count hresting => hresting.makeRoom count
  run := fun now ⟨_, _, hattends⟩ hsound => hattends.run hkeeps hreplies hsound now
  expire := fun _ hresting _ => hresting.expire fair
  tell := Awaits.tell
  conclude := Account.stop

theorem account_of_at {hkeeps : service.Keeps sound} {hreplies : service.Replies sound fair}
    (hat : (accounted hkeeps hreplies).At (Awaits service.limit) client past events s)
    (hprompt : s.Prompt) :
    Account service.limit fair (s.permits ≤ s.active.length) past events := by
  cases hat.stands with
  | waits hrunning _ hqueued hnone _ =>
    refine .unread (hprompt hrunning fun hnobody => ?_) hnone
    rw [hnobody] at hqueued
    cases hqueued
  | serves _ _ hresting =>
    obtain ⟨wanted, read, hattends, hshort⟩ := hresting
    rw [← List.length_append] at hshort
    exact .answered hattends.bytes hattends.exchanged (not_complete_of_lt hshort)
  | closed _ _ hclosed => exact hclosed.mono False.elim fun _ _ _ hfair => hfair

/-- **Of all that a client has sent since it connected, an account can be given, as long as it keeps
reading.**  It waits only while all permits are in use. -/
theorem accounted_run (hkeeps : service.Keeps sound) (hreplies : service.Replies sound fair)
    (hunknown : s.Unknown client) (hsound : sound w) {inputs : List (Nat × Input)}
    (hinputs : ∀ input ∈ inputs, input.2.Allows Stays client) (now : Nat) (uid : UInt32) :
    let all := (now, Input.connect client (some uid) .flowing) :: inputs
    let result := s.run service w all
    Account service.limit fair (s.permits ≤ result.2.1.active.length)
      (heardFrom service client s w all) (eventsOf client result.1) := by
  intro all result
  have hwaiting : Newcomer (.nothing false) ⟨client, some uid, {}, .flowing⟩ :=
    ⟨Option.some_ne_none uid, rfl, rfl, rfl⟩
  have hclosed : (accounted hkeeps hreplies).closed (.nothing true) [] :=
    .turnedAway rfl (.inl rfl)
  have hconnected : (s.next service now (.connect client (some uid) .flowing) w).2.1.Prompt :=
    prompt_next (.inr fun hfailed => by cases hfailed) service now w
  have hprompt : result.2.1.Prompt := hconnected.run service inputs _
  have haccount := account_of_at ((accounted hkeeps hreplies).at_of_run hunknown hwaiting hclosed
    hinputs hkeeps hsound now) hprompt
  rwa [permits_run] at haccount

end Server
end TokenBroker
