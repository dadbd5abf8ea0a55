import TokenBroker.Proofs.Daemon.Connections
/-!
# A command that comes in pieces

A client writes one command and waits for the response.  The command may reach the handler in
several pieces, each of which is read at once.

* `Request` is such a command, and `Hears` a handler that has the first bytes of it.
* `Hears.more` is a piece that is not the last: nothing is said.
* `Hears.last` is the last one: the command is dispatched once, its response is all that is said,
  and the handler is idle again.
* `Idle.refuse` is a request that declares more than the limit.
-/

set_option autoImplicit false

namespace TokenBroker

/-! ## Requests -/

/-- A command as a client sends it. -/
structure Request where
  id : UInt32
  command : Command
  payload : Bytes

namespace Request

/-- The header of a request. -/
def header (q : Request) : CommandHeader := ⟨q.id, q.command.code, UInt32.ofNat q.payload.length⟩

/-- All that is sent. -/
def frame (q : Request) : Bytes := q.header.encode ++ q.payload

/-- A daemon with a limit takes a request. -/
structure Accepted (q : Request) (limit : Nat) : Prop where
  fits : q.payload.length ≤ limit
  declared : q.payload.length < UInt32.size
  bare : q.command.acceptsPayload = false → q.payload = []

variable {q : Request} {limit : Nat}

theorem Accepted.dataSize (h : q.Accepted limit) : q.header.dataSize.toNat = q.payload.length :=
  UInt32.toNat_ofNat_of_lt' h.declared

/-- Its header is followed by its payload. -/
theorem Accepted.after (h : q.Accepted limit) :
    Handler.Wanted.after limit q.header = .payload q.header q.command := by
  have hle : q.header.dataSize.toNat ≤ limit := h.dataSize ▸ h.fits
  have hvalid : validateCommand q.header limit = .ok q.command := by
    rw [Handler.validateCommand_of_le hle, header, Command.ofCode?_code]
    dsimp only
    rw [if_neg]
    rw [Bool.and_eq_true, Bool.not_eq_true', decide_eq_true_eq, not_and]
    intro hbare
    rw [h.bare hbare]
    decide
  rw [Handler.Wanted.after, hvalid]

/-- What is sent of a request that is not too large. -/
theorem ofCommand_eq (q : Request) (hfits : q.payload.length ≤ limit) :
    ∃ segments, Frame.ofCommand limit q.id q.command.code q.payload = .ok (q.header, segments)
      ∧ segments.flatten = q.frame := by
  refine ⟨[q.header.encode, q.payload], ?_, ?_⟩
  · rw [Frame.ofCommand, Frame.checkOutgoing_of_le hfits]
    rfl
  · rw [List.flatten_cons, List.flatten_cons, List.flatten_nil, List.append_nil]
    rfl

theorem length_frame (q : Request) : q.frame.length = Header.size + q.payload.length := by
  rw [frame, List.length_append, CommandHeader.length_encode]

theorem frame_ne_nil (q : Request) : q.frame ≠ [] := by
  intro h
  have hlen := congrArg List.length h
  rw [length_frame, Header.size, List.length_nil] at hlen
  omega

theorem not_isEmpty_frame (q : Request) : ¬ q.frame.isEmpty = true := fun hempty =>
  q.frame_ne_nil (List.isEmpty_iff.1 hempty)

end Request

namespace Handler

variable {σ : Type} {service : Service σ} {now : Nat} {key : IdentityKey} {q : Request}
  {got chunk rest : Bytes} {h : Handler} {w w' : σ}

/-- What the client gets to see of some events. -/
def arrivals (events : List Event) : List Arrival := events.filterMap Event.arrival?

@[simp] theorem arrivals_append (a b : List Event) :
    arrivals (a ++ b) = arrivals a ++ arrivals b := List.filterMap_append

theorem arrivals_noteId (observer : Sequence.Observer) (id : UInt32) :
    arrivals (noteId observer id).1 = [] := by
  rw [noteId]
  split <;> rfl

/-! ## What was heard -/

/-- A handler at rest between two commands. -/
structure Idle (key : IdentityKey) (h : Handler) : Prop where
  identity : h.identity = key
  outlet : h.outlet = .flowing
  socket : h.socket = {}
  phase : h.phase = .reading .header
  soFar : h.soFar = []

/-- A handler at rest that has the first bytes of a request, but not all of them. -/
structure Hears (key : IdentityKey) (q : Request) (got : Bytes) (h : Handler) : Prop where
  identity : h.identity = key
  outlet : h.outlet = .flowing
  socket : h.socket = {}
  stage : (h.phase = .reading .header ∧ h.soFar = got ∧ got.length < Header.size)
    ∨ (h.phase = .reading (.payload q.header q.command) ∧ got = q.header.encode ++ h.soFar)

theorem Idle.hears (hidle : h.Idle key) (q : Request) : h.Hears key q [] :=
  ⟨hidle.identity, hidle.outlet, hidle.socket,
    .inl ⟨hidle.phase, hidle.soFar, Nat.zero_lt_succ _⟩⟩

theorem Idle.isEnded (hidle : h.Idle key) : h.isEnded = false := by
  rw [Handler.isEnded, hidle.phase]

theorem Hears.isEnded (hhears : h.Hears key q got) : h.isEnded = false := by
  rcases hhears.stage with ⟨hphase, -⟩ | ⟨hphase, -⟩ <;> rw [Handler.isEnded, hphase]

theorem idle_newcomer (scope : IdentityScope) (uid : UInt32) (now : Nat) :
    (newcomer scope uid .flowing now).Idle (.resolve scope uid) :=
  ⟨rfl, rfl, rfl, rfl, rfl⟩

/-- The handler of a client that has sent some more. -/
theorem flows_send (houtlet : h.outlet = .flowing) (hsocket : h.socket = {}) (chunk : Bytes) :
    ((Server.Move.send (.bytes chunk)).apply h).Flows
      ∧ ((Server.Move.send (.bytes chunk)).apply h).socket.unread = chunk := by
  have hreceive : (h.socket.receive (.bytes chunk)).unread = chunk
      ∧ (h.socket.receive (.bytes chunk)).ended = false
      ∧ (h.socket.receive (.bytes chunk)).gone = false
      ∧ (h.socket.receive (.bytes chunk)).reset = false := by
    rw [hsocket, Socket.receive]
    split
    · next hempty => exact ⟨(List.isEmpty_iff.1 hempty).symm, rfl, rfl, rfl⟩
    · exact ⟨rfl, rfl, rfl, rfl⟩
  exact ⟨⟨houtlet, hreceive.2.1, hreceive.2.2.1, hreceive.2.2.2⟩, hreceive.1⟩

/-- A socket from which all was read. -/
theorem Flows.emptied (hflows : h.Flows) :
    ({ h.socket with unread := [], noted := false } : Socket) = {} := by
  obtain ⟨-, hended, hgone, hreset⟩ := hflows
  show Socket.mk [] h.socket.ended h.socket.gone h.socket.reset false = {}
  rw [hended, hgone, hreset]

/-! ## One piece -/

/-- All that there is, is read, and it is not enough. -/
theorem run_wanting {wanted : Wanted} (hflows : h.Flows) (hphase : h.phase = .reading wanted)
    (hshort : h.soFar.length + h.socket.unread.length < wanted.need) :
    run service now false h w
      = ([], { h with socket := {}, soFar := h.soFar ++ h.socket.unread }, w) := by
  rw [run_short hflows hphase rfl hshort, hflows.emptied]

/-- The rest of the payload of a request has come. -/
theorem run_body {limit : Nat} {reply : Reply} (haccepted : q.Accepted limit)
    (hlimit : service.limit = limit) (hflows : h.Flows)
    (hphase : h.phase = .reading (.payload q.header q.command))
    (hall : h.soFar ++ h.socket.unread = q.payload)
    (hreply : service.dispatch now h.identity q.command q.payload w = (reply, w'))
    (hfit : reply.payload.length ≤ limit) :
    ∃ h', run service now false h w = (served q.header q.command q.payload reply, h', w')
      ∧ h'.Idle h.identity := by
  have hlen : h.soFar.length + h.socket.unread.length = q.header.dataSize.toNat := by
    rw [haccepted.dataSize, ← hall, List.length_append]
  have htake : h.socket.unread.take (q.header.dataSize.toNat - h.soFar.length) = h.socket.unread :=
    List.take_of_length_le (by omega)
  have hpart : h.part q.header.dataSize.toNat = q.payload := by rw [part, htake, hall]
  have hleft : (h.remaining q.header.dataSize.toNat).unread = [] :=
    List.drop_eq_nil_of_le (by omega)
  have hnext := hflows.goOn q.header.dataSize.toNat now (.reading .header) h.observer
  have hwanting : run service now false
      (h.goOn q.header.dataSize.toNat now (.reading .header) h.observer) w' = _ :=
    run_wanting hnext rfl (by
      show 0 + (h.remaining q.header.dataSize.toNat).unread.length < Header.size
      rw [hleft]
      decide)
  rw [← hpart] at hreply
  have hrun :=
    run_payload hflows.listens hphase (Nat.le_of_eq hlen.symm) hreply (hlimit ▸ hfit) hwanting
  rw [hpart, List.append_nil] at hrun
  refine ⟨_, hrun, rfl, hflows.outlet, rfl, rfl, ?_⟩
  show [] ++ (h.remaining q.header.dataSize.toNat).unread = []
  rw [hleft, List.append_nil]

/-- The header of a request has come, with what follows it. -/
theorem run_opening {limit : Nat} {result : List Event × Handler × σ} (haccepted : q.Accepted limit)
    (hlimit : service.limit = limit) (hphase : h.phase = .reading .header)
    (hshort : h.soFar.length < Header.size)
    (hbytes : h.soFar ++ h.socket.unread = q.header.encode ++ rest)
    (hmore : run service now false { h with
        socket := { h.socket with unread := rest }
        phase := .reading (.payload q.header q.command)
        soFar := []
        observer := (noteId h.observer q.id).2
        since := now } w = result) :
    run service now false h w = ((noteId h.observer q.id).1 ++ result.1, result.2) := by
  have hhead := CommandHeader.length_encode q.header
  have hlen := congrArg List.length hbytes
  rw [List.length_append, List.length_append, hhead] at hlen
  have hpart : h.part Header.size = q.header.encode := by
    have htake : h.part Header.size = (h.soFar ++ h.socket.unread).take Header.size := by
      rw [part, List.take_append, List.take_of_length_le (Nat.le_of_lt hshort)]
    rw [htake, hbytes, ← hhead, List.take_left]
  have hrest : h.socket.unread.drop (Header.size - h.soFar.length) = rest := by
    have hdrop : (h.soFar ++ h.socket.unread).drop Header.size
        = h.socket.unread.drop (Header.size - h.soFar.length) := by
      rw [List.drop_append, List.drop_eq_nil_of_le (Nat.le_of_lt hshort), List.nil_append]
    rw [← hdrop, hbytes, ← hhead, List.drop_left]
  show run service now false h w
    = ((noteId h.observer q.header.id).1 ++ result.1, result.2)
  refine run_header hphase (by omega) ?_ ?_ ?_
  · rw [hpart, CommandHeader.decode?_encode]
  · rw [haccepted.dataSize, hlimit]
    exact haccepted.fits
  · rw [hlimit, haccepted.after, goOn, remaining, hrest]
    exact hmore

/-! ## Piece by piece -/

/-- A handler that was sent a piece of a request. -/
theorem Hears.send (hhears : h.Hears key q got) (chunk : Bytes) :
    ((Server.Move.send (.bytes chunk)).apply h).Flows
      ∧ ((Server.Move.send (.bytes chunk)).apply h).socket.unread = chunk :=
  flows_send hhears.outlet hhears.socket chunk

/-- A request of which the header has come: the handler reads its payload. -/
theorem Hears.opened {limit : Nat} {body : Bytes} (haccepted : q.Accepted limit)
    (hlimit : service.limit = limit) (hhears : h.Hears key q got)
    (hbytes : got ++ chunk = q.header.encode ++ body) (now : Nat) (w : σ) :
    ∃ events h₁, arrivals events = [] ∧ h₁.Flows ∧ h₁.identity = key
      ∧ h₁.phase = .reading (.payload q.header q.command) ∧ h₁.soFar ++ h₁.socket.unread = body
      ∧ ∀ result, run service now false h₁ w = result →
        run service now false ((Server.Move.send (.bytes chunk)).apply h) w
          = (events ++ result.1, result.2) := by
  obtain ⟨hflows, hunread⟩ := hhears.send chunk
  rcases hhears.stage with ⟨hphase, hsoFar, hshort⟩ | ⟨hphase, hgot⟩
  · have hopening : ((Server.Move.send (.bytes chunk)).apply h).soFar
        ++ ((Server.Move.send (.bytes chunk)).apply h).socket.unread = q.header.encode ++ body := by
      rw [hunread, ← hbytes, ← hsoFar]
      rfl
    let h₁ : Handler :=
      { h with
        socket := { h.socket.receive (.bytes chunk) with unread := body }
        phase := .reading (.payload q.header q.command)
        soFar := []
        observer := (noteId h.observer q.id).2
        since := now }
    have hflows₁ : h₁.Flows := ⟨hflows.outlet, hflows.ended, hflows.gone, hflows.reset⟩
    exact ⟨(noteId h.observer q.id).1, h₁, arrivals_noteId _ _, hflows₁, hhears.identity, rfl,
      List.nil_append body,
      fun result hresult => run_opening haccepted hlimit hphase (hsoFar ▸ hshort) hopening hresult⟩
  · refine ⟨[], _, rfl, hflows, hhears.identity, hphase, ?_, fun result hresult => ?_⟩
    · rw [hgot, List.append_assoc] at hbytes
      rw [hunread]
      exact List.append_cancel_left hbytes
    · rw [List.nil_append, hresult]

/-- **A piece of a request that is not the last.**  It is read, and nothing is said. -/
theorem Hears.more {limit : Nat} (haccepted : q.Accepted limit) (hlimit : service.limit = limit)
    (hhears : h.Hears key q got) (hframe : got ++ chunk ++ rest = q.frame) (hrest : rest ≠ [])
    (now : Nat) (w : σ) :
    ∃ events h', run service now false ((Server.Move.send (.bytes chunk)).apply h) w
        = (events, h', w) ∧ arrivals events = [] ∧ h'.Hears key q (got ++ chunk) := by
  by_cases hheader : (got ++ chunk).length < Header.size
  · -- not even the header is complete
    obtain ⟨hflows, hunread⟩ := hhears.send chunk
    rw [List.length_append] at hheader
    have hhead := CommandHeader.length_encode q.header
    rcases hhears.stage with ⟨hphase, hsoFar, -⟩ | ⟨-, hgot⟩
    · have hshort : ((Server.Move.send (.bytes chunk)).apply h).soFar.length
          + ((Server.Move.send (.bytes chunk)).apply h).socket.unread.length
          < Wanted.header.need := by
        rw [hunread]
        show h.soFar.length + chunk.length < Header.size
        rw [hsoFar]
        exact hheader
      refine ⟨_, _, run_wanting hflows hphase hshort, rfl, hhears.identity, hhears.outlet, rfl,
        .inl ⟨hphase, ?_, by rwa [List.length_append]⟩⟩
      rw [hunread, ← hsoFar]
      rfl
    · rw [hgot, List.length_append, hhead] at hheader
      omega
  · obtain ⟨body, hbytes, hbody⟩ : ∃ body, got ++ chunk = q.header.encode ++ body
        ∧ q.payload = body ++ rest := by
      rcases List.append_eq_append_iff.1 hframe with ⟨missing, hencode, hpayload⟩ | hbody
      · have hlen := congrArg List.length hencode
        rw [CommandHeader.length_encode, List.length_append] at hlen
        obtain rfl : missing = [] := List.length_eq_zero_iff.1 (by omega)
        rw [List.append_nil] at hencode
        exact ⟨[], by rw [hencode, List.append_nil], hpayload.symm⟩
      · exact hbody
    have hpos := List.length_pos_iff.2 hrest
    obtain ⟨events, h₁, hquiet, hflows, hident, hphase, hread, hrun⟩ :=
      hhears.opened haccepted hlimit hbytes now w
    have hshort : h₁.soFar.length + h₁.socket.unread.length
        < (Wanted.payload q.header q.command).need := by
      rw [Wanted.need, haccepted.dataSize, ← List.length_append, hread, hbody, List.length_append]
      omega
    refine ⟨_, _, hrun _ (run_wanting hflows hphase hshort), ?_, hident, hflows.outlet, rfl,
      .inr ⟨hphase, ?_⟩⟩
    · rw [List.append_nil, hquiet]
    · rw [hbytes, ← hread]

/-- **The last piece of a request.**  The command is dispatched, its response is written, and the
handler is idle again. -/
theorem Hears.last {limit : Nat} {reply : Reply} (haccepted : q.Accepted limit)
    (hlimit : service.limit = limit) (hhears : h.Hears key q got) (hframe : got ++ chunk = q.frame)
    (hreply : service.dispatch now key q.command q.payload w = (reply, w'))
    (hfit : reply.payload.length ≤ limit) :
    ∃ events h', run service now false ((Server.Move.send (.bytes chunk)).apply h) w
        = (events, h', w') ∧ arrivals events = [.bytes (answer q.id reply)] ∧ h'.Idle key := by
  obtain ⟨events, h₁, hquiet, hflows, hident, hphase, hread, hrun⟩ :=
    hhears.opened haccepted hlimit hframe now w
  obtain ⟨h', hbody, hidle⟩ :=
    run_body haccepted hlimit hflows hphase hread (hident ▸ hreply) hfit
  refine ⟨_, h', hrun _ hbody, ?_, hident ▸ hidle⟩
  rw [arrivals_append, hquiet, List.nil_append]
  rfl

/-! ## Too large -/

/-- **A request that declares too much.**  It is refused as soon as its header has come, and the
connection ends. -/
theorem Idle.refuse (hidle : h.Idle key) (hlarge : service.limit < q.payload.length)
    (hdeclared : q.payload.length < UInt32.size) {n : Nat} (hheader : Header.size ≤ n) (now : Nat)
    (w : σ) :
    ∃ events h' reset,
      run service now false ((Server.Move.send (.bytes (q.frame.take n))).apply h) w
          = (events, h', w)
        ∧ arrivals events = [.bytes (answer q.id (.status .payloadTooLarge)), .hangUp reset]
        ∧ h'.isEnded = true := by
  obtain ⟨hflows, hunread⟩ := flows_send hidle.outlet hidle.socket (q.frame.take n)
  generalize hsent : (Server.Move.send (.bytes (q.frame.take n))).apply h = h₁ at hflows hunread
  have hphase : h₁.phase = .reading .header := by
    rw [← hsent]
    exact hidle.phase
  have hsoFar : h₁.soFar = [] := by
    rw [← hsent]
    exact hidle.soFar
  have hhead := CommandHeader.length_encode q.header
  have hsize : q.header.dataSize.toNat = q.payload.length := UInt32.toNat_ofNat_of_lt' hdeclared
  have henough : Header.size ≤ h₁.soFar.length + h₁.socket.unread.length := by
    rw [hsoFar, hunread, List.length_nil, List.length_take, q.length_frame]
    omega
  have hpart : h₁.part Header.size = q.header.encode := by
    rw [part, hsoFar, hunread, List.nil_append, List.length_nil, Nat.sub_zero, List.take_take,
      Nat.min_eq_left hheader, Request.frame, ← hhead, List.take_left]
  have hdecode : CommandHeader.decode? (h₁.part Header.size) = some q.header := by
    rw [hpart, CommandHeader.decode?_encode]
  refine ⟨_, _, !(h₁.remaining Header.size).unread.isEmpty,
    run_header_oversized hflows.listens hphase henough hdecode (by rwa [hsize]), ?_, rfl⟩
  rw [arrivals_append, arrivals_noteId, List.nil_append]
  rfl

/-! ## Leaving -/

/-- A handler at rest whose client has gone ends, and does nothing else. -/
theorem Idle.leave (hidle : h.Idle key) (reset : Bool) (service : Service σ) (now : Nat) (w : σ) :
    ∃ events h', run service now false ((Server.Move.send (.hangUp reset)).apply h) w
        = (events, h', w) ∧ h'.isEnded = true := by
  have hphase : ((Server.Move.send (.hangUp reset)).apply h).phase = .reading .header :=
    hidle.phase
  have hended : ((Server.Move.send (.hangUp reset)).apply h).socket.ended = true := rfl
  have hshort : ((Server.Move.send (.hangUp reset)).apply h).soFar.length
      + ((Server.Move.send (.hangUp reset)).apply h).socket.unread.length < Header.size := by
    show h.soFar.length + h.socket.unread.length < Header.size
    rw [hidle.soFar, hidle.socket]
    decide
  generalize (Server.Move.send (.hangUp reset)).apply h = h₁ at hphase hended hshort ⊢
  have hover : ¬ (h₁.socket.ended = false ∧ h₁.socket.reset = false) := fun hgoes => by
    rw [hended] at hgoes
    cases hgoes.1
  obtain ⟨e, socket, hfailed⟩ := Socket.fill_of_over hover hshort
  refine ⟨(finish { h₁ with socket := socket }).1, (finish { h₁ with socket := socket }).2, ?_, rfl⟩
  rw [run_reading hphase rfl, Wanted.need, hfailed]

end Handler
end TokenBroker
