import TokenBroker.Proofs.Daemon.Commands
import TokenBroker.Proofs.Daemon.Roll
import TokenBroker.Proofs.Daemon.Stream
/-!
# The chronicle of a connection

* `Handler.Tracks` is a handler with the commands it has read, and `Handler.Phase.Stands` how what
  it is at follows from them.
* `Handler.Tracks.goesAlong` says that running it goes on with them, one step after the other: a
  header or a payload is read, or a response is written on.  `Handler.lacks_run` says that nothing
  is left then that it could read.
* `Server.chronicle_of_run` tells every connection of a server by the commands that were read.
-/

set_option autoImplicit false

namespace TokenBroker
namespace Handler

variable {limit : Nat} {events more : List Event} {commands former : List Received} {e : Received}
  {part : Bytes} {header : CommandHeader}

/-! ## A handler at work -/

/-- The number of bytes that a handler is to read. -/
def Phase.need : Phase → Nat
  | .reading wanted => wanted.need
  | _ => 0

/-- How what a handler is at follows from the commands it has read; `part` was written of a response
under way. -/
inductive Phase.Stands (limit : Nat) (phase : Phase) : List Received → Bytes → Prop
  | header {commands : List Received} (hphase : phase = .reading .header)
      (hall : ∀ e ∈ commands, e.GoesOn limit) : Stands limit phase commands []
  | payload {former : List Received} {header : CommandHeader}
      (hphase : phase = .reading (.after limit header)) (hall : ∀ e ∈ former, e.GoesOn limit)
      (hsize : header.dataSize.toNat ≤ limit) :
      Stands limit phase (former ++ [.opened header]) []
  | writing {former : List Received} {e : Received} {response : Response} {part rest : Bytes}
      (hphase : phase = .writing response rest (limit < e.header.dataSize.toNat))
      (hall : ∀ e ∈ former, e.GoesOn limit) (hresponse : e.response? = some response)
      (hunanswered : e.isAnswered = false) (hlawful : e.answered.Lawful limit)
      (hframe : response.frame = part ++ rest) (hrest : rest ≠ []) :
      Stands limit phase (former ++ [e]) part

/-- A handler with the commands it has read. -/
structure Tracks (limit : Nat) (past : Heard) (events : List Event) (h : Handler)
    (commands : List Received) (part : Bytes) : Prop where
  log : Log limit events commands part
  stands : h.phase.Stands limit commands part
  within : h.soFar.length ≤ h.phase.need
  bytes : past.bytes = commands.flatMap Received.bytes ++ (h.soFar ++ h.socket.unread)
  observer : h.observer.previous = (ids commands).getLast?
  begun : .started ∈ events

variable {past : Heard} {h : Handler}

theorem Phase.Stands.unfinished (hstands : h.phase.Stands limit commands part) :
    Unfinished commands part := by
  cases hstands with
  | header => exact .inl rfl
  | payload => exact .inl rfl
  | @writing former e response part rest _ _ hresponse hunanswered _ hframe hrest =>
    exact .inr ⟨e, response, rest, List.getLast?_concat, hunanswered, hresponse, hframe, hrest⟩

/-- What a handler is to read has not come to its end. -/
def Lacks (h : Handler) : Prop :=
  ∀ wanted, h.phase = .reading wanted → h.soFar.length + h.socket.unread.length < wanted.need

/-- A handler that ends, or waits, leaves no command that it could have read. -/
theorem Tracks.chronicle (htracks : h.Tracks limit past events commands part)
    (hmore : Silent more)
    (hlacks : past.told = none → h.Lacks) :
    Chronicle limit past (events ++ more) commands where
  log := ⟨part, htracks.log.silent hmore, htracks.stands.unfinished⟩
  begun := fun _ => List.mem_append_left _ htracks.begun
  read := by
    refine ⟨_, htracks.bytes, fun _ htold => ?_⟩
    rw [List.length_append]
    cases htracks.stands with
    | header hphase hall =>
      rw [need_of_goesOn htracks.log.lawful hall]
      exact .inr (hlacks htold _ hphase)
    | @payload former header hphase =>
      have hneed : need (former ++ [.opened header]) = (Wanted.after limit header).need := by
        rw [Wanted.need_after, need, List.getLast?_concat]
        rfl
      rw [hneed]
      exact .inr (hlacks htold _ hphase)
    | @writing former e response part rest hphase _ hresponse hunanswered =>
      refine .inl ⟨e, List.getLast?_concat, .inl ⟨hunanswered, ?_⟩⟩
      rw [hresponse]
      rfl

/-- A connection begins with nothing read. -/
theorem tracks_of_start {scope : IdentityScope} {uid : Option UInt32} {socket : Socket}
    {outlet : Outlet} {now : Nat} (hstart : start scope uid socket outlet now = (events, some h))
    (hunread : socket.unread = past.bytes) (limit : Nat) : h.Tracks limit past events [] [] := by
  obtain ⟨rfl, hsocket, -, hphase, hsoFar, hobserver⟩ := of_start_some hstart
  exact {
    log := (log_nil limit).silent silent_started
    stands := .header hphase nofun
    within := by
      rw [hsoFar]
      exact Nat.zero_le _
    bytes := by rw [hsoFar, hsocket, hunread]; rfl
    observer := by rw [hobserver]; rfl
    begun := List.mem_singleton.2 rfl }

/-- Something arrives. -/
theorem Tracks.hear (htracks : h.Tracks limit past events commands part) (arrival : Arrival) :
    Tracks limit (past.append arrival.content) events
      { h with socket := h.socket.receive arrival } commands part where
  log := htracks.log
  stands := htracks.stands
  within := htracks.within
  bytes := by
    rw [Heard.append, htracks.bytes, Socket.unread_receive]
    simp only [List.append_assoc]
  observer := htracks.observer
  begun := htracks.begun

/-! ## Running it -/

/-- A handler has ended and left its chronicle, or it goes on with the commands it has read. -/
def GoesAlong (limit : Nat) (past : Heard) (events : List Event) (h : Handler) : Prop :=
  (h.isEnded = true ∧ ∃ commands, Chronicle limit past events commands)
    ∨ ∃ commands part, h.Tracks limit past events commands part

theorem Tracks.going (htracks : h.Tracks limit past events commands part) : h.isEnded = false := by
  cases htracks.stands with
  | header hphase | payload hphase | writing hphase => rw [isEnded, hphase]

variable {σ : Type} {service : Service σ} {w : σ}

/-- A handler goes on after a part was read. -/
theorem tracks_goOn {n : Nat} {phase : Phase} {observer : Sequence.Observer}
    (hlog : Log limit events commands []) (hstands : phase.Stands limit commands [])
    (hbytes : past.bytes = commands.flatMap Received.bytes ++ (h.remaining n).unread)
    (hobserver : observer.previous = (ids commands).getLast?) (hbegun : .started ∈ events)
    (now : Nat) : (h.goOn n now phase observer).Tracks limit past events commands [] where
  log := hlog
  stands := hstands
  within := Nat.zero_le _
  bytes := hbytes
  observer := hobserver
  begun := hbegun

/-- A header was read: whatever becomes of the command, nothing of its payload was read yet. -/
theorem Tracks.begins (htracks : h.Tracks limit past events commands [])
    (hall : ∀ e ∈ commands, e.GoesOn limit) (hheader : header.encode = h.part Header.size)
    {phase : Phase} {fate : Fate} (hlawful : (Received.unanswered header [] fate).Lawful limit)
    (hcall : (Received.unanswered header [] fate).call? = none)
    (hstands : phase.Stands limit (commands ++ [.unanswered header [] fate]) []) (now : Nat) :
    let noted := noteId h.observer header.id
    (h.goOn Header.size now phase noted.2).Tracks limit past (events ++ noted.1)
      (commands ++ [.unanswered header [] fate]) [] := by
  have hbytes : past.bytes
      = (commands ++ [Received.unanswered header [] fate]).flatMap Received.bytes
        ++ (h.remaining Header.size).unread := by
    rw [htracks.bytes, ← part_append_remaining h Header.size, ← hheader]
    simp [Received.bytes, Received.unanswered]
  refine tracks_goOn (htracks.log.opened hall htracks.observer hlawful hcall rfl) hstands hbytes ?_
    (List.mem_append_left _ htracks.begun) now
  rw [ids_concat, List.getLast?_concat]
  exact (countP_noteId htracks.observer header.id).2

/-- A header is read: its payload comes next, unless it declares too much. -/
theorem Tracks.opened (htracks : h.Tracks service.limit past events commands [])
    (hall : ∀ e ∈ commands, e.GoesOn service.limit) (hwithin : h.soFar.length ≤ Header.size)
    (henough : Header.size ≤ h.soFar.length + h.socket.unread.length) (now : Nat) (w : σ) :
    let turn := act service now h.identity h.observer (h.remaining Header.size) .header
      (h.part Header.size) w
    GoesAlong service.limit past (events ++ turn.events)
      (h.goOn Header.size now turn.phase turn.observer) := by
  obtain ⟨header, hdecode⟩ := Reference.exists_decode? (length_part hwithin henough)
  have hheader : header.encode = h.part Header.size := CommandHeader.encode_of_decode? hdecode
  simp only [act, hdecode]
  by_cases hsize : header.dataSize.toNat ≤ service.limit
  · rw [judge_of_le hsize, List.append_nil]
    have hlawful : (Received.opened header).Lawful service.limit := ⟨hsize, rfl, rfl⟩
    exact .inr ⟨_, _, htracks.begins hall hheader hlawful rfl (.payload rfl hall hsize) now⟩
  · have hlarge := Nat.not_le.1 hsize
    rw [judge_of_gt hlarge, List.append_nil]
    have hlawful : (Received.unanswered header []
        (.refused (.payloadTooLarge header.dataSize.toNat service.limit))).Lawful service.limit :=
      ⟨validateCommand_of_gt hlarge, (if_pos hlarge).symm⟩
    refine .inr ⟨_, _, htracks.begins hall hheader hlawful rfl ?_ now⟩
    exact .writing (congrArg (Phase.writing _ _) (decide_eq_true hlarge).symm) hall rfl rfl hlawful
      rfl (answer_ne_nil _ _)

/-- A payload was read, and belongs to the command whose header came before. -/
theorem Tracks.bytes_of_payload {n : Nat}
    (htracks : h.Tracks limit past events (former ++ [.opened header]) []) (fate : Fate) :
    past.bytes = (former ++ [Received.unanswered header (h.part n) fate]).flatMap Received.bytes
      ++ (h.remaining n).unread := by
  rw [htracks.bytes, ← part_append_remaining h n]
  simp [Received.bytes, Received.opened, Received.unanswered]

/-- A payload was read, and its command is going to be answered. -/
theorem Tracks.responds {n : Nat}
    (htracks : h.Tracks limit past events (former ++ [.opened header]) [])
    (hall : ∀ e ∈ former, e.GoesOn limit) (hsize : header.dataSize.toNat ≤ limit) {fate : Fate}
    {response : Response}
    (hlog : Log limit (events ++ more) (former ++ [.unanswered header (h.part n) fate]) [])
    (hresponse : (Received.unanswered header (h.part n) fate).response? = some response)
    (hlawful : (Received.unanswered header (h.part n) fate).answered.Lawful limit)
    (hframe : response.frame ≠ []) (now : Nat) :
    (h.goOn n now (.writing response response.frame false) h.observer).Tracks limit past
      (events ++ more) (former ++ [.unanswered header (h.part n) fate]) [] := by
  have hlast : false = decide (limit < header.dataSize.toNat) :=
    (decide_eq_false (Nat.not_lt.2 hsize)).symm
  refine tracks_goOn hlog ?_ (htracks.bytes_of_payload fate) ?_
    (List.mem_append_left _ htracks.begun) now
  · exact .writing (congrArg (Phase.writing _ _) hlast) hall hresponse rfl hlawful rfl hframe
  · rw [htracks.observer, ids_concat, ids_concat]
    rfl

/-- A payload is read: its command is refused or dispatched, and a reply that is too large is the
end. -/
theorem Tracks.judged
    (htracks : h.Tracks service.limit past events (former ++ [.opened header]) [])
    (hall : ∀ e ∈ former, e.GoesOn service.limit) (hsize : header.dataSize.toNat ≤ service.limit)
    (hwithin : h.soFar.length ≤ header.dataSize.toNat)
    (henough : header.dataSize.toNat ≤ h.soFar.length + h.socket.unread.length) (now : Nat)
    (w : σ) :
    let turn := act service now h.identity h.observer (h.remaining header.dataSize.toNat)
      (.after service.limit header) (h.part header.dataSize.toNat) w
    GoesAlong service.limit past (events ++ turn.events)
      (h.goOn header.dataSize.toNat now turn.phase turn.observer) := by
  have hlength : (h.part header.dataSize.toNat).length = header.dataSize.toNat :=
    length_part hwithin henough
  rw [Wanted.after]
  cases hvalid : validateCommand header service.limit with
  | error reason =>
    simp only [act, respond_status]
    let e := Received.unanswered header (h.part header.dataSize.toNat) (.refused reason)
    have hlawful : e.Lawful service.limit :=
      ⟨hvalid, hlength.trans (if_neg (Nat.not_lt.2 hsize)).symm⟩
    have hlog : Log service.limit (events ++ []) (former ++ [e]) [] :=
      htracks.log.revised hlawful rfl rfl rfl rfl rfl
    exact .inr ⟨_, _, htracks.responds hall hsize hlog rfl hlawful (answer_ne_nil _ _) now⟩
  | ok command =>
    simp only [act]
    generalize service.dispatch now h.identity command (h.part header.dataSize.toNat) w = dispatched
    obtain ⟨reply, w'⟩ := dispatched
    let e := Received.unanswered header (h.part header.dataSize.toNat) (.dispatched command reply)
    have hlawful : e.Lawful service.limit := ⟨hvalid, hlength, fun hanswered => by cases hanswered⟩
    by_cases hfit : reply.payload.length ≤ service.limit
    · rw [respond_of_le hfit]
      have hlog : Log service.limit (events ++ [.dispatched command _ reply]) (former ++ [e]) [] :=
        htracks.log.revised hlawful rfl rfl rfl rfl rfl
      exact .inr ⟨_, _, htracks.responds hall hsize hlog rfl ⟨hvalid, hlength, fun _ => hfit⟩
        (answer_ne_nil _ _) now⟩
    · simp only [respond, Frame.ofResponse, Frame.checkOutgoing_of_lt (Nat.not_le.1 hfit)]
      exact .inl ⟨rfl, former ++ [e], {
        log := ⟨[], htracks.log.revised hlawful rfl rfl rfl rfl rfl, .inl rfl⟩
        begun := fun _ => List.mem_append_left _ htracks.begun
        read := ⟨_, htracks.bytes_of_payload _, fun _ _ =>
          .inl ⟨e, List.getLast?_concat, .inl ⟨rfl, rfl⟩⟩⟩ }⟩

/-- The last bytes of a response are written: the next header comes, or the end. -/
theorem goesAlong_conclude {response : Response}
    (hlog : Log limit events (former ++ [e]) response.frame) (hall : ∀ e ∈ former, e.GoesOn limit)
    (hresponse : e.response? = some response) (hunanswered : e.isAnswered = false)
    (hlawful : e.answered.Lawful limit) (hnothing : h.soFar = [])
    (hbytes : past.bytes = (former ++ [e]).flatMap Received.bytes ++ (h.soFar ++ h.socket.unread))
    (hobserver : h.observer.previous = (ids (former ++ [e])).getLast?)
    (hbegun : .started ∈ events) (now : Nat) :
    let concluded := h.conclude now response (limit < e.header.dataSize.toNat)
    GoesAlong limit past (events ++ concluded.1) concluded.2 := by
  have hlog' := hlog.answered hresponse hunanswered rfl hlawful
  have hbytes' : past.bytes
      = (former ++ [e.answered]).flatMap Received.bytes ++ (h.soFar ++ h.socket.unread) := by
    rw [hbytes]
    simp [Received.bytes, Received.answered]
  rw [conclude]
  split
  · next hlarge =>
    dsimp only
    rw [List.append_cons]
    exact .inl ⟨rfl, _, {
      log := ⟨[], hlog'.silent (silent_finish h), .inl rfl⟩
      begun := fun _ => List.mem_append_left _ (List.mem_append_left _ hbegun)
      read := ⟨_, hbytes', fun _ _ =>
        .inl ⟨_, List.getLast?_concat, .inr (of_decide_eq_true hlarge)⟩⟩ }⟩
  · next hsmall =>
    rw [decide_eq_true_eq, Nat.not_lt] at hsmall
    exact .inr ⟨_, _, {
      log := hlog'
      stands := .header rfl
        (List.forall_mem_append.2 ⟨hall, List.forall_mem_singleton.2 ⟨rfl, hsmall⟩⟩)
      within := by
        rw [hnothing]
        exact Nat.zero_le _
      bytes := hbytes'
      observer := by
        rw [hobserver]
        simp [ids, Received.answered]
      begun := List.mem_append_left _ hbegun }⟩

/-- A response is written on, as far as there is room. -/
theorem Tracks.wrote (htracks : h.Tracks limit past events (former ++ [e]) part)
    {response : Response} {rest : Bytes}
    (hphase : h.phase = .writing response rest (limit < e.header.dataSize.toNat))
    (hall : ∀ e ∈ former, e.GoesOn limit) (hresponse : e.response? = some response)
    (hunanswered : e.isAnswered = false) (hlawful : e.answered.Lawful limit)
    (hframe : response.frame = part ++ rest) (now : Nat) :
    let wrote := h.writeOn now response rest (limit < e.header.dataSize.toNat)
    GoesAlong limit past (events ++ wrote.1) wrote.2 := by
  rw [writeOn]
  split
  · refine .inl ⟨rfl, _, htracks.chronicle (silent_finish h) fun _ wanted hreading => ?_⟩
    rw [hphase] at hreading
    cases hreading
  split
  · exact .inr ⟨_, _, (List.append_nil events).symm ▸ htracks⟩
  obtain ⟨n, outlet⟩ := h.outlet.offer rest.length
  dsimp only
  have hsent : Log limit (events ++ if n = 0 then [] else [.sent (rest.take n)]) (former ++ [e])
      (part ++ rest.take n) := by
    split
    · next hzero =>
      rw [hzero, List.take_zero, List.append_nil, List.append_nil]
      exact htracks.log
    · exact htracks.log.sent _
  split
  · next hless =>
    exact .inr ⟨_, _, {
      log := hsent
      stands := .writing rfl hall hresponse hunanswered hlawful
        (by rw [hframe, List.append_assoc, List.take_append_drop])
        (List.ne_nil_of_length_pos (by rw [List.length_drop]; omega))
      within := by
        have hwithin := htracks.within
        rwa [hphase] at hwithin
      bytes := htracks.bytes
      observer := htracks.observer
      begun := List.mem_append_left _ htracks.begun }⟩
  · next hdone =>
    rw [List.take_of_length_le (Nat.not_lt.1 hdone), ← hframe] at hsent
    have hnothing : h.soFar.length ≤ h.phase.need := htracks.within
    rw [hphase] at hnothing
    rw [List.take_of_length_le (Nat.not_lt.1 hdone), ← List.append_assoc]
    exact goesAlong_conclude (h := { h with outlet := outlet }) hsent hall hresponse hunanswered
      hlawful (List.length_eq_zero_iff.1 (Nat.le_zero.1 hnothing)) htracks.bytes htracks.observer
      (List.mem_append_left _ htracks.begun) now

/-- A part is read that is complete. -/
theorem Tracks.acted {wanted : Wanted}
    (htracks : h.Tracks service.limit past events commands part)
    (hphase : h.phase = .reading wanted)
    (henough : wanted.need ≤ h.soFar.length + h.socket.unread.length) (now : Nat) (w : σ) :
    let turn := act service now h.identity h.observer (h.remaining wanted.need) wanted
      (h.part wanted.need) w
    GoesAlong service.limit past (events ++ turn.events)
      (h.goOn wanted.need now turn.phase turn.observer) := by
  have hwithin := htracks.within
  rw [hphase] at hwithin
  cases htracks.stands with
  | header hheader hall =>
    obtain rfl : wanted = .header := Phase.reading.inj (hphase.symm.trans hheader)
    exact htracks.opened hall hwithin henough now w
  | @payload former header hpayload hall hsize =>
    obtain rfl := Phase.reading.inj (hphase.symm.trans hpayload)
    rw [Phase.need] at hwithin
    rw [Wanted.need_after] at henough hwithin ⊢
    exact htracks.judged hall hsize hwithin henough now w
  | writing hwriting => cases hphase.symm.trans hwriting

/-- A handler that writes writes on. -/
theorem Tracks.written {response : Response} {rest : Bytes} {last : Bool}
    (htracks : h.Tracks limit past events commands part)
    (hphase : h.phase = .writing response rest last) (now : Nat) :
    GoesAlong limit past (events ++ (h.writeOn now response rest last).1)
      (h.writeOn now response rest last).2 := by
  cases htracks.stands with
  | header hreading | payload hreading => cases hphase.symm.trans hreading
  | writing hwriting hall hresponse hunanswered hlawful hframe =>
    obtain ⟨rfl, rfl, rfl⟩ := Phase.writing.inj (hphase.symm.trans hwriting)
    exact htracks.wrote hphase hall hresponse hunanswered hlawful hframe now

/-- What comes first either ends the connection, or the rest goes on from there. -/
theorem GoesAlong.run {next : Handler} {first : List Event} {now : Nat} {stopping : Bool}
    (hfirst : GoesAlong limit past (events ++ first) next)
    (hrest : ∀ commands part, next.Tracks limit past (events ++ first) commands part →
      GoesAlong limit past ((events ++ first) ++ (run service now stopping next w).1)
        (run service now stopping next w).2.1) :
    GoesAlong limit past (events ++ (first ++ (run service now stopping next w).1))
      (run service now stopping next w).2.1 := by
  rw [← List.append_assoc]
  rcases hfirst with ⟨hended, hchronicle⟩ | ⟨commands, part, htracks⟩
  · rw [run_ended (phase_of_isEnded hended), List.append_nil]
    exact .inl ⟨hended, hchronicle⟩
  · exact hrest commands part htracks

/-- **A handler goes along with the commands it reads.** -/
theorem Tracks.goesAlong (service : Service σ) (now : Nat) (stopping : Bool) (h : Handler) (w : σ)
    (htracks : h.Tracks service.limit past events commands part)
    (hstopping : stopping = past.told.isSome) :
    GoesAlong service.limit past (events ++ (run service now stopping h w).1)
      (run service now stopping h w).2.1 := by
  fun_induction run service now stopping h w generalizing events commands part
  case case1 h w hphase =>
    have hgoing := htracks.going
    rw [isEnded, hphase] at hgoing
    cases hgoing
  case case2 h w response rest last hphase wrote hdone more ih =>
    exact (htracks.written hphase now).run fun _ _ => ih
  case case3 h w response rest last hphase wrote hwrites =>
    exact htracks.written hphase now
  case case4 h w wanted hphase hstop =>
    refine .inl ⟨rfl, _, htracks.chronicle (silent_finish h) fun htold => ?_⟩
    rw [hstopping, htold] at hstop
    cases hstop
  case case5 h w wanted hphase hgo got socket hread =>
    obtain ⟨rfl, hnone⟩ := Socket.of_fill_waiting hread
    have hshort := Socket.lt_of_fill hread (by simp)
    rw [List.append_nil]
    exact .inr ⟨commands, part, {
      log := htracks.log
      stands := htracks.stands
      within := by
        rw [hphase, List.length_append]
        exact Nat.le_of_lt hshort
      bytes := by rw [htracks.bytes, hnone, List.append_nil]
      observer := htracks.observer
      begun := htracks.begun }⟩
  case case6 h w wanted hphase hgo error socket hread closed =>
    refine .inl ⟨rfl, _, htracks.chronicle (silent_finish { h with socket := socket })
      fun _ wanted' hreading => ?_⟩
    obtain rfl : wanted = wanted' := Phase.reading.inj (hphase.symm.trans hreading)
    exact Socket.lt_of_fill hread (by simp)
  case case7 h w wanted hphase hgo read socket hread turn next rest ih =>
    obtain ⟨henough, rfl, rfl⟩ := of_fill_finished hread
    exact (htracks.acted hphase henough now w).run fun _ _ => ih

theorem lacks_writeOn {response : Response} {rest : Bytes} {last : Bool} {now : Nat}
    (hphase : h.phase = .writing response rest last)
    (hweight : (h.writeOn now response rest last).2.phase.weight ≠ 0) :
    (h.writeOn now response rest last).2.Lacks := by
  intro wanted hreading
  rw [writeOn] at hweight hreading
  split at hreading
  · cases hreading
  next hhere =>
  rw [if_neg hhere] at hweight
  split at hreading
  · rw [hphase] at hreading
    cases hreading
  next hroom =>
  rw [if_neg hroom] at hweight
  dsimp only at hweight hreading
  split at hreading
  · cases hreading
  next hdone =>
  rw [if_neg hdone] at hweight
  cases last <;> exact absurd rfl hweight

/-- After it was run, a handler lacks some of what it is to read. -/
theorem lacks_run (service : Service σ) (now : Nat) (stopping : Bool) (h : Handler) (w : σ) :
    (run service now stopping h w).2.1.Lacks := by
  fun_induction run service now stopping h w with
  | case1 h w hphase =>
    intro wanted hreading
    cases hphase.symm.trans hreading
  | case2 h w response rest last hphase wrote hdone more ih => exact ih
  | case3 h w response rest last hphase wrote hwrites => exact lacks_writeOn hphase hwrites
  | case4 => nofun
  | case5 h w wanted hphase hgo got socket hread =>
    obtain ⟨rfl, hnone⟩ := Socket.of_fill_waiting hread
    intro wanted' hreading
    obtain rfl : wanted = wanted' := Phase.reading.inj (hphase.symm.trans hreading)
    rw [hnone, List.length_append]
    exact Socket.lt_of_fill hread nofun
  | case6 => nofun
  | case7 h w wanted hphase hgo read socket hread turn next rest ih => exact ih

end Handler

/-! ## Every connection -/

namespace Server

open Handler

variable {σ : Type} {client : Nat} {inputs : List (Nat × Input)}

/-- Of every connection it can be said that what happens on it is what comes of the commands that
are read. -/
def Course.ofCommands (service : Service σ) : Course service (fun _ => True) (fun _ => True) where
  waiting := fun past c => c.socket.unread = past.bytes
  busy := fun past events h => ∃ commands part, h.Tracks service.limit past events commands part
  resting := fun past events h =>
    ∃ commands part, h.Tracks service.limit past events commands part ∧ h.Lacks
  closed := fun past events => ∃ commands, Chronicle service.limit past events commands
  queue := fun hwaiting _ => by rw [Socket.unread_receive, hwaiting, Heard.append]
  refuse := fun _ hstart => by
    obtain rfl := events_of_start_none hstart
    exact ⟨[], chronicle_of_silent (silent_rejected _) (by simp) _ _⟩
  begin := fun hwaiting _ hstart => ⟨[], [], tracks_of_start hstart hwaiting _⟩
  turnAway := fun _ => ⟨[], chronicle_of_silent (silent_rejected _) (by simp) _ _⟩
  wake := fun ⟨commands, part, htracks, _⟩ => ⟨commands, part, htracks⟩
  hear := fun ⟨commands, part, htracks, _⟩ _ => ⟨commands, part, htracks.hear _⟩
  makeRoom := fun _ ⟨commands, part, htracks, _⟩ =>
    ⟨commands, part, ⟨htracks.log, htracks.stands, htracks.within, htracks.bytes,
      htracks.observer, htracks.begun⟩⟩
  run := fun {past events h w} now ⟨commands, part, htracks⟩ _ => by
    rcases htracks.goesAlong service now past.told.isSome h w rfl with
      ⟨hended, hchronicle⟩ | ⟨commands', part', htracks'⟩
    · dsimp only
      rw [if_pos hended]
      exact hchronicle
    · dsimp only
      rw [if_neg (Bool.eq_false_iff.1 htracks'.going)]
      exact ⟨commands', part', htracks', lacks_run service now past.told.isSome h w⟩
  expire := fun {past events h} now ⟨commands, part, htracks, hlacks⟩ _ =>
    ⟨commands, htracks.chronicle (silent_finish h) fun _ => hlacks⟩
  tell := fun ⟨commands, part, htracks, _⟩ =>
    ⟨commands, part, ⟨htracks.log, htracks.stands, htracks.within, htracks.bytes,
      htracks.observer, htracks.begun⟩⟩
  conclude := fun ⟨commands, hchronicle⟩ => by
    obtain ⟨rest, hbytes, -⟩ := hchronicle.read
    exact ⟨commands, hchronicle.log, hchronicle.begun, rest, hbytes, nofun⟩

/-- **What happens on a connection is what comes of the commands that are read.**  The dispatcher
is called, responses are written and gaps are noticed for them and for nothing else. -/
theorem chronicle_of_run (hdistinct : (connecting inputs).Nodup) (hmem : client ∈ connecting inputs)
    (service : Service σ) (maxConnections : Nat) (w : σ) :
    ∃ commands, Chronicle service.limit (heard service maxConnections w inputs client)
      (eventsOf client ((ofLimit maxConnections).run service w inputs).1) commands := by
  have hat := (Course.ofCommands service).at_of_ofLimit (fun _ _ => rfl)
    ⟨[], chronicle_of_silent silent_nil (by simp) _ _⟩
    (fun _ _ _ _ _ _ => trivial) trivial (fun input _ => by cases input.2 <;> trivial)
    hdistinct hmem maxConnections (w := w)
  dsimp only at hat
  cases hat.stands with
  | waits _ _ _ hnone _ =>
    rw [hnone]
    exact ⟨[], chronicle_of_silent silent_nil (by simp) _ _⟩
  | serves _ _ hresting =>
    obtain ⟨commands, part, htracks, hlacks⟩ := hresting
    have hchronicle := htracks.chronicle silent_nil fun _ => hlacks
    rw [List.append_nil] at hchronicle
    exact ⟨commands, hchronicle⟩
  | closed _ _ hclosed => exact hclosed

end Server
end TokenBroker
