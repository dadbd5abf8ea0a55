import TokenBroker.Proofs.Daemon.Answers
import TokenBroker.Proofs.Daemon.Stream
/-!
# A connection is cut between two commands

The daemon may stop, and lose patience with a client, at any point of what the client sends.  Its
connection ends then, and what was done on it is what is done for a client that sends complete
commands alone and finishes.

* `Reference.Whole` is a string of complete commands, and `exists_whole` says that the rest of a
  string does not matter.
* `Handler.Woken` is what comes of a handler that is run again, with what has arrived since;
  `woken_bytes`, `woken_finish` and `Waits.cut` are the ways to get there.
* `Server.next_one` is all that an input can do to a server with one connection, and `Rouses` what
  it does to the handler.
* `Server.Serves` is a connection that goes on or is over, and `Serves.next` what an input makes of
  it.
* `cut_between_commands` is the run, from the connecting on.
-/

set_option autoImplicit false

namespace TokenBroker

/-! ## Complete commands -/

namespace Reference

open Handler (answer)

/-- Commands that are there in full.  One that declares too much is nothing but its header, and the
last one. -/
inductive Whole (limit : Nat) : Bytes → Prop
  | nil : Whole limit []
  | command {header : CommandHeader} {payload rest : Bytes} (hfit : header.dataSize.toNat ≤ limit)
      (hpayload : payload.length = header.dataSize.toNat) (hrest : Whole limit rest) :
      Whole limit (header.encode ++ (payload ++ rest))
  | oversized {header : CommandHeader} (hlarge : limit < header.dataSize.toNat) :
      Whole limit header.encode

variable {σ : Type} {limit : Nat} {key : IdentityKey} {dispatch : Nat → Dispatcher σ}

/-- A complete command, with anything behind it. -/
theorem serve_frame_append {header : CommandHeader} {frame : List Stamped}
    (hdecode : CommandHeader.decode? (bytesOf (frame.take Header.size)) = some header)
    (hfit : header.dataSize.toNat ≤ limit)
    (hlen : frame.length = Header.size + header.dataSize.toNat) (rest : List Stamped) (w : σ) :
    serve limit key dispatch (frame ++ rest) w = match validateCommand header limit with
      | .error reason =>
        (serve limit key dispatch rest w).after [] (answer header.id (.status reason.resultCode))
      | .ok command =>
        let payload := bytesOf (frame.drop Header.size)
        let called := dispatch (arrivedAt frame) key command payload w
        (serve limit key dispatch rest called.2).after [(command, payload, called.1)]
          (answer header.id called.1) := by
  have htake : (frame ++ rest).take Header.size = frame.take Header.size :=
    List.take_append_of_le_length (by omega)
  have hserve : serve limit key dispatch (frame ++ rest) w = _ :=
    serve_of_frame header (by rw [htake]; exact hdecode) hfit
      (by rw [List.length_append]; omega)
  rw [List.take_left' hlen, List.drop_left' hlen] at hserve
  exact hserve

/-- What is behind the last complete command does not matter. -/
theorem exists_whole (limit : Nat) (key : IdentityKey) (dispatch : Nat → Dispatcher σ)
    (s : List Stamped) (w : σ) :
    ∃ whole, whole <+: s ∧ Whole limit (bytesOf whole)
      ∧ serve limit key dispatch whole w = serve limit key dispatch s w := by
  -- behind a complete command comes what is whole of the rest
  induction hlength : s.length using Nat.strongRecOn generalizing s w with
  | _ n ih =>
  subst hlength
  have hnothing : serve limit key dispatch [] w = ⟨[], [], w⟩ := serve_of_lt (Nat.zero_lt_succ _)
  rcases Nat.lt_or_ge s.length Header.size with hshort | hlong
  · exact ⟨[], List.nil_prefix, .nil, by rw [hnothing, serve_of_lt hshort]⟩
  have htake : (s.take Header.size).length = Header.size := by
    rw [List.length_take, Nat.min_eq_left hlong]
  obtain ⟨header, hdecode⟩ : ∃ header,
      CommandHeader.decode? (bytesOf (s.take Header.size)) = some header :=
    exists_decode? ((Handler.length_bytesOf _).trans htake)
  have hencode : header.encode = bytesOf (s.take Header.size) :=
    CommandHeader.encode_of_decode? hdecode
  rcases Nat.lt_or_ge limit header.dataSize.toNat with hlarge | hfit
  · refine ⟨s.take Header.size, List.take_prefix _ _, hencode ▸ .oversized hlarge, ?_⟩
    rw [serve_of_oversized hlong hdecode hlarge, serve_of_oversized (Nat.le_of_eq htake.symm)
      (by rw [List.take_of_length_le (Nat.le_of_eq htake)]; exact hdecode) hlarge]
  rcases Nat.lt_or_ge s.length (Header.size + header.dataSize.toNat) with hpart | hfull
  · exact ⟨[], List.nil_prefix, .nil, by rw [hnothing, serve_of_partial hlong hdecode hfit hpart]⟩
  generalize hframe : s.take (Header.size + header.dataSize.toNat) = frame
  generalize hrest : s.drop (Header.size + header.dataSize.toNat) = rest
  have hs : s = frame ++ rest := by rw [← hframe, ← hrest, List.take_append_drop]
  have hlen : frame.length = Header.size + header.dataSize.toNat := by
    rw [← hframe, List.length_take, Nat.min_eq_left hfull]
  have hhead : frame.take Header.size = s.take Header.size := by
    rw [← hframe, List.take_take, Nat.min_eq_left (Nat.le_add_right _ _)]
  have hless : rest.length < s.length := by
    rw [hs, List.length_append, hlen, Header.size]
    omega
  have hbytes : ∀ whole, bytesOf (frame ++ whole)
      = header.encode ++ (bytesOf (frame.drop Header.size) ++ bytesOf whole) := by
    intro whole
    rw [hencode, ← hhead, bytesOf, bytesOf, bytesOf, bytesOf, ← List.append_assoc,
      ← List.map_append, ← List.map_append, List.take_append_drop]
  have hpayload : (bytesOf (frame.drop Header.size)).length = header.dataSize.toNat := by
    rw [Handler.length_bytesOf, List.length_drop, hlen, Nat.add_sub_cancel_left]
  -- the state that the rest is served with depends on whether the command is dispatched
  have hgo : ∀ w', ∃ whole, frame ++ whole <+: s ∧ Whole limit (bytesOf (frame ++ whole))
      ∧ serve limit key dispatch whole w' = serve limit key dispatch rest w' := by
    intro w'
    obtain ⟨whole, hprefix, hwhole, hserve⟩ := ih rest.length hless rest w' rfl
    refine ⟨whole, ?_, ?_, hserve⟩
    · rw [hs]
      exact (List.prefix_append_right_inj frame).2 hprefix
    · rw [hbytes]
      exact .command hfit hpayload hwhole
  rw [← hhead] at hdecode
  cases hvalid : validateCommand header limit with
  | error reason =>
    obtain ⟨whole, hprefix, hwhole, hserve⟩ := hgo w
    refine ⟨frame ++ whole, hprefix, hwhole, ?_⟩
    rw [hs, serve_frame_append hdecode hfit hlen, serve_frame_append hdecode hfit hlen, hvalid]
    simp only [hserve]
  | ok command =>
    obtain ⟨whole, hprefix, hwhole, hserve⟩ :=
      hgo (dispatch (arrivedAt frame) key command (bytesOf (frame.drop Header.size)) w).2
    refine ⟨frame ++ whole, hprefix, hwhole, ?_⟩
    rw [hs, serve_frame_append hdecode hfit hlen, serve_frame_append hdecode hfit hlen, hvalid]
    simp only [hserve]

end Reference

/-! ## A handler that is run again -/

namespace Handler

open Reference

variable {σ : Type} {service : Service σ} {sound : σ → Prop} {now : Nat} {stopping : Bool}
  {key : IdentityKey} {h h' : Handler} {wanted : Wanted} {s rest new : List Stamped} {w w' : σ}
  {events : List Event}

/-- What comes of a handler that waited with some bytes in hand, and is run after some more have
come: it has ended, and done all that is to be done with the first of them, or it waits again. -/
def Woken (service : Service σ) (sound : σ → Prop) (key : IdentityKey) (stopping : Bool)
    (rest new : List Stamped) (w : σ) (events : List Event) (h : Handler) (w' : σ) : Prop :=
  (h.isEnded = true ∧ ∃ read, read <+: new
    ∧ serve service.limit key service.dispatch (rest ++ read) w
      = ⟨calls events, written events, w'⟩)
  ∨ (h.identity = key ∧ sound w' ∧ h.GoesOn stopping ∧ ∃ rest', h.Waits service.limit rest'
    ∧ ∀ later, serve service.limit key service.dispatch (rest ++ new ++ later) w
      = (serve service.limit key service.dispatch (rest' ++ later) w').after (calls events)
          (written events))

/-- A handler that is ended while it waits has done all with the bytes in hand. -/
theorem Waits.cut (hwaits : h.Waits service.limit rest) (hended : h'.isEnded = true)
    (hcalls : calls events = []) (hwritten : written events = []) :
    Woken service sound key stopping rest new w events h' w := by
  refine .inl ⟨hended, [], List.nil_prefix, ?_⟩
  rw [List.append_nil, hwaits.serve, hcalls, hwritten]

/-- A handler that reads a payload while the daemon stops comes to the end of its command, and no
further. -/
theorem run_serve_stopping (hfit : service.Fits sound) (hkey : h.identity = key)
    (hreads : h.Reads service.limit wanted s) (hfresh : Fresh now wanted s) (hsound : sound w)
    (hgo : wanted.isHeader = false)
    (henough : wanted.need ≤ h.soFar.length + h.socket.unread.length) :
    ∃ events h' w', run service now true h w = (events, h', w') ∧ h'.isEnded = true
      ∧ serve service.limit key service.dispatch (s.take (wanted.head.length + wanted.need)) w
        = ⟨calls events, written events, w'⟩ := by
  subst hkey
  -- the next header is not waited for
  have hends : ∀ w, run service now true
      (h.goOn wanted.need now (.reading .header) h.observer) w = (_, _, w) :=
    fun w => run_stopping rfl rfl
  have hlast : ∀ w, serve service.limit h.identity service.dispatch [] w = ⟨[], [], w⟩ :=
    fun w => serve_of_lt (Nat.zero_lt_succ _)
  have hframe : ∀ header : CommandHeader, wanted.head = header.encode →
      wanted.need = header.dataSize.toNat → ∃ frame,
        s.take (wanted.head.length + wanted.need) = frame ++ []
        ∧ CommandHeader.decode? (bytesOf (frame.take Header.size)) = some header
        ∧ frame.length = Header.size + header.dataSize.toNat
        ∧ h.part header.dataSize.toNat = bytesOf (frame.drop Header.size)
        ∧ arrivedAt frame = now := by
    intro header hhead hneed
    obtain ⟨hlen, hpart, -, harrived, -⟩ := hreads.frame hhead hneed henough hfresh
    refine ⟨s.take (Header.size + header.dataSize.toNat), ?_, ?_, ?_, hpart, harrived⟩
    · rw [List.append_nil, hhead, hneed, CommandHeader.length_encode]
    · have hdecode := hreads.decode? hhead []
      rwa [List.append_nil, ← Nat.min_eq_left (Nat.le_add_right Header.size header.dataSize.toNat),
        ← List.take_take] at hdecode
    · rw [List.length_take, Nat.min_eq_left hlen]
  cases wanted with
  | header => cases hgo
  | payload header command =>
    obtain ⟨frame, hs, hdecode, hlen, hpart, harrived⟩ := hframe header rfl rfl
    obtain ⟨hsize, hvalid⟩ := hreads.judged
    have hpartlen : (h.part header.dataSize.toNat).length ≤ service.limit := by
      rw [hpart, length_bytesOf, List.length_drop, hlen, Nat.add_sub_cancel_left]
      exact hsize
    obtain ⟨hreply, -⟩ :=
      hfit now h.identity command (h.part header.dataSize.toNat) w hsound hpartlen
    refine ⟨_, _, _, run_payload hreads.flows.listens hreads.phase henough rfl hreply (hends _),
      rfl, ?_⟩
    rw [hs, serve_frame_append hdecode hsize hlen, hvalid]
    simp only [hlast, harrived, ← hpart]
    simp [Transcript.after, calls, written, served, finish, closing]
  | refused header reason =>
    obtain ⟨frame, hs, hdecode, hlen, -, -⟩ := hframe header rfl rfl
    obtain ⟨hsize, hvalid⟩ := hreads.judged
    refine ⟨_, _, _, run_refused hreads.flows.listens hreads.phase henough (hends _), rfl, ?_⟩
    rw [hs, serve_frame_append hdecode hsize hlen, hvalid]
    simp only [hlast]
    simp [Transcript.after, calls, written, turnedAway, finish, closing]

theorem woken_bytes (hfit : service.Fits sound) (hkey : h.identity = key)
    (hwaits : h.Waits service.limit rest) (hgo : h.GoesOn stopping) (hsound : sound w) (now : Nat)
    (chunk : Bytes) : ∃ events h' w',
      run service now stopping { h with socket := h.socket.receive (.bytes chunk) } w
        = (events, h', w')
      ∧ Woken service sound key stopping rest (stamp now chunk) w events h' w' := by
  obtain ⟨wanted, hreads, hfresh⟩ := hwaits.receive now chunk
  cases stopping with
  | false =>
    obtain ⟨events, h', w', hrun, hident, hsound', hfollows⟩ :=
      run_serve (h := { h with socket := h.socket.receive (.bytes chunk) }) hfit hkey hreads hfresh
        hsound
    refine ⟨events, h', w', hrun, ?_⟩
    rcases hfollows with ⟨hended, hdone⟩ | ⟨rest', hwaits', hdone⟩
    · have hall := hdone []
      rw [List.append_nil] at hall
      exact .inl ⟨hended, _, List.prefix_refl _, hall⟩
    · exact .inr ⟨hident, hsound', h'.goesOn_running, rest', hwaits', hdone⟩
  | true =>
    have hwanted := hgo.wanted hreads.phase
    rcases Nat.lt_or_ge (h.soFar.length + (h.socket.receive (.bytes chunk)).unread.length)
      wanted.need with hshort | henough
    · obtain ⟨h', hrun, hident, hphase, hwaits'⟩ := hreads.short hwanted hshort
      refine ⟨[], h', w, hrun, .inr ⟨hident.trans hkey, hsound, fun _ => ?_, _, hwaits',
        fun later => rfl⟩⟩
      rw [hphase]
      exact hgo rfl
    · obtain ⟨events, h', w', hrun, hended, hserve⟩ :=
        run_serve_stopping (h := { h with socket := h.socket.receive (.bytes chunk) }) hfit hkey
          hreads hfresh hsound hwanted henough
      -- what was in hand is no complete command, so that the command ends in what has come
      have hinhand : rest.length ≤ wanted.head.length + wanted.need := by
        obtain ⟨wanted', hreads', hunread, hshort⟩ := hwaits
        obtain rfl : wanted' = wanted :=
          Phase.reading.inj (hreads'.phase.symm.trans hreads.phase)
        rw [hreads'.length, hunread, List.length_nil]
        omega
      rw [List.take_append, List.take_of_length_le hinhand] at hserve
      exact ⟨events, h', w', hrun, .inl ⟨hended, _, List.take_prefix _ _, hserve⟩⟩

end Handler

/-! ## One connection of a server that may stop -/

namespace Server

open Handler Reference

variable {σ : Type} {service : Service σ} {sound : σ → Prop} {permits client now : Nat}
  {stopping : Bool} {key : IdentityKey} {h h' : Handler} {s : Server} {w w₀ : σ}
  {heard rest new : List Stamped} {happened : List Happening}

theorem resume_one (permits client : Nat) (h : Handler) (stopping : Bool) (w : σ) :
    resume service now ⟨permits, [], [(client, h)], stopping⟩ w
      = let result := h.run service now stopping w
        (tagged client result.1,
          ⟨permits, [], if result.2.1.isEnded then [] else [(client, result.2.1)], stopping⟩,
          result.2.2) := by
  simp only [resume, runActive, List.foldl_cons, List.foldl_nil, Progress.runNext, acceptWaiting,
    List.nil_append]
  cases stopping <;> rfl

theorem resume_none (permits : Nat) (stopping : Bool) (w : σ) :
    resume service now ⟨permits, [], [], stopping⟩ w
      = ([], ⟨permits, [], [], stopping⟩, w) := by
  cases stopping <;> rfl

/-- What may come to a server that serves one client: nobody else connects, and the client keeps
reading. -/
def Input.Undisturbed (client : Nat) : Input → Prop
  | .connect _ _ _ => False
  | .deliver other arrival => other = client → Stays arrival
  | _ => True

/-- The bytes that come from a client in an input. -/
def heardOf (client : Nat) : Nat × Input → List Stamped
  | (now, .deliver other arrival) => if other = client then stamp now arrival.content else []
  | _ => []

/-- What an input makes of the handler of the only connection before it is run, and whether the
server is stopping then. -/
inductive Rouses (client now : Nat) (stopping : Bool) (h : Handler) :
    Input → Handler → Bool → Prop
  | arrival (arrival : Arrival) : Rouses client now stopping h (.deliver client arrival)
      { h with socket := h.socket.receive arrival } stopping
  | room (count : Nat) : Rouses client now stopping h (.consume client count)
      { h with outlet := h.outlet.consume count } stopping
  | stop : Rouses client now stopping h .stop h true
  | nothing {input : Input} (hnothing : heardOf client (now, input) = []) :
      Rouses client now stopping h input h stopping

/-- **All that an input can do to a server with one connection**: the handler is run, or nothing is
done, or the handler is ended for keeping the daemon waiting. -/
theorem next_one {input : Input} (hinput : input.Undisturbed client) (service : Service σ)
    (now permits : Nat) (stopping : Bool) (h : Handler) (w : σ) :
    let s : Server := ⟨permits, [], [(client, h)], stopping⟩
    (∃ h₁ stopping', Rouses client now stopping h input h₁ stopping'
      ∧ s.next service now input w
        = resume service now ⟨permits, [], [(client, h₁)], stopping'⟩ w)
    ∨ (heardOf client (now, input) = [] ∧ s.next service now input w = ([], s, w))
    ∨ (heardOf client (now, input) = [] ∧ isOverdue service.idle now h = true
      ∧ s.next service now input w
        = (tagged client h.finish.1, ⟨permits, [], [], stopping⟩, w)) := by
  cases input with
  | connect other uid outlet => exact hinput.elim
  | acceptFailed => exact .inr (.inl ⟨rfl, rfl⟩)
  | deliver other arrival =>
    by_cases hself : other = client
    · subst hself
      refine .inl ⟨_, stopping, .arrival arrival, ?_⟩
      simp only [Server.next, receive, List.map_cons, List.map_nil, if_true]
    · refine .inl ⟨h, stopping, .nothing (if_neg hself), ?_⟩
      simp only [Server.next, receive, List.map_cons, List.map_nil, if_neg (Ne.symm hself)]
  | consume other count =>
    by_cases hself : other = client
    · subst hself
      refine .inl ⟨_, stopping, .room count, ?_⟩
      simp only [Server.next, makeRoom, List.map_cons, List.map_nil, if_true]
    · refine .inl ⟨h, stopping, .nothing rfl, ?_⟩
      simp only [Server.next, makeRoom, List.map_cons, List.map_nil, if_neg (Ne.symm hself)]
  | tick =>
    cases hoverdue : isOverdue service.idle now h with
    | false =>
      refine .inl ⟨h, stopping, .nothing rfl, ?_⟩
      simp only [Server.next, dropOverdue, List.filter_cons, List.filter_nil, hoverdue,
        Bool.false_eq_true, if_false, Bool.not_false, if_true, List.flatMap_nil, List.nil_append]
    | true =>
      refine .inr (.inr ⟨rfl, rfl, ?_⟩)
      simp only [Server.next, dropOverdue, List.filter_cons, List.filter_nil, hoverdue, if_true,
        Bool.not_true, Bool.false_eq_true, if_false, List.flatMap_cons, List.flatMap_nil,
        List.append_nil, resume_none]
  | stop =>
    refine .inl ⟨h, true, .stop, ?_⟩
    simp only [Server.next, List.flatMap_nil, List.nil_append]

/-- Where no connection is left, nothing is done any more. -/
theorem next_none {input : Input} (hinput : input.Undisturbed client) (service : Service σ)
    (now permits : Nat) (stopping : Bool) (w : σ) :
    ∃ stopping', (⟨permits, [], [], stopping⟩ : Server).next service now input w
      = ([], ⟨permits, [], [], stopping'⟩, w) := by
  cases input with
  | connect other uid outlet => exact hinput.elim
  | acceptFailed => exact ⟨stopping, rfl⟩
  | deliver other arrival =>
    exact ⟨stopping, by simp only [Server.next, receive, List.map_nil, resume_none]⟩
  | consume other count =>
    exact ⟨stopping, by simp only [Server.next, makeRoom, List.map_nil, resume_none]⟩
  | tick =>
    refine ⟨stopping, ?_⟩
    simp only [Server.next, dropOverdue, List.filter_nil, List.flatMap_nil, resume_none,
      List.append_nil]
  | stop =>
    exact ⟨true, by simp only [Server.next, List.flatMap_nil, resume_none, List.append_nil]⟩

/-- A server with one connection that may be over.  As long as it goes on, the reference does on all
bytes what was done on the connection, and goes on from the bytes in hand; if it is over, what was
done is what the reference does on the first of them. -/
inductive Serves (service : Service σ) (sound : σ → Prop) (key : IdentityKey) (client : Nat)
    (w₀ : σ) (heard : List Stamped) (happened : List Happening) : Server → σ → Prop
  | going {permits : Nat} {stopping : Bool} {h : Handler} {rest : List Stamped} {w : σ}
      (hkey : h.identity = key) (hwaits : h.Waits service.limit rest) (hgo : h.GoesOn stopping)
      (hsound : sound w)
      (hserve : ∀ later, serve service.limit key service.dispatch (heard ++ later) w₀
        = (serve service.limit key service.dispatch (rest ++ later) w).after
            (calls (happened.map (·.2))) (written (happened.map (·.2)))) :
      Serves service sound key client w₀ heard happened ⟨permits, [], [(client, h)], stopping⟩ w
  | ended {permits : Nat} {stopping : Bool} {read : List Stamped} {w : σ} (hread : read <+: heard)
      (hserve : serve service.limit key service.dispatch read w₀ = transcript happened w) :
      Serves service sound key client w₀ heard happened ⟨permits, [], [], stopping⟩ w

/-- What is known of a connection at any time. -/
theorem Serves.exists_read (hserves : Serves service sound key client w₀ heard happened s w) :
    ∃ read, read <+: heard
      ∧ serve service.limit key service.dispatch read w₀ = transcript happened w := by
  cases hserves with
  | @going _ _ h rest _ hkey hwaits hgo hsound hserve =>
    refine ⟨heard, List.prefix_refl _, ?_⟩
    have hall := hserve []
    rw [List.append_nil, List.append_nil, hwaits.serve] at hall
    rw [hall, transcript, Transcript.after, List.append_nil, List.append_nil]
  | ended hread hserve => exact ⟨_, hread, hserve⟩

/-- A connection whose handler is run again. -/
theorem serves_of_woken {events : List Event} {w' : σ} {new : List Stamped}
    (hserve : ∀ later, serve service.limit key service.dispatch (heard ++ later) w₀
      = (serve service.limit key service.dispatch (rest ++ later) w).after
          (calls (happened.map (·.2))) (written (happened.map (·.2))))
    (hwoken : Woken service sound key stopping rest new w events h' w') (permits : Nat) :
    Serves service sound key client w₀ (heard ++ new) (happened ++ tagged client events)
      ⟨permits, [], if h'.isEnded then [] else [(client, h')], stopping⟩ w' := by
  rcases hwoken with ⟨hended, read, hread, hdone⟩ | ⟨hkey, hsound, hgo, rest', hwaits, hdone⟩
  · rw [if_pos hended]
    refine .ended ((List.prefix_append_right_inj heard).2 hread) ?_
    rw [hserve, hdone]
    simp [transcript, Transcript.after, map_tagged]
  · rw [if_neg (by rw [hwaits.isEnded]; exact Bool.false_ne_true)]
    refine .going hkey hwaits hgo hsound fun later => ?_
    rw [List.append_assoc, hserve, ← List.append_assoc, hdone, after_after, List.map_append,
      map_tagged, calls_append, written_append]

theorem serves_resume {h₁ : Handler} {events : List Event} {w' : σ}
    (hserve : ∀ later, serve service.limit key service.dispatch (heard ++ later) w₀
      = (serve service.limit key service.dispatch (rest ++ later) w).after
          (calls (happened.map (·.2))) (written (happened.map (·.2))))
    (hrun : h₁.run service now stopping w = (events, h', w'))
    (hwoken : Woken service sound key stopping rest new w events h' w') (permits : Nat) :
    let result := resume service now ⟨permits, [], [(client, h₁)], stopping⟩ w
    Serves service sound key client w₀ (heard ++ new) (happened ++ result.1) result.2.1
      result.2.2 := by
  intro result
  have hresult : result = (tagged client events,
      ⟨permits, [], if h'.isEnded then [] else [(client, h')], stopping⟩, w') := by
    simp only [result, resume_one, hrun]
  rw [hresult]
  exact serves_of_woken hserve hwoken permits

/-- A handler that waits, roused by an input. -/
theorem woken_of_rouses {input : Input} {h₁ : Handler} {stopping' : Bool}
    (hfit : service.Fits sound) (hkey : h.identity = key) (hwaits : h.Waits service.limit rest)
    (hgo : h.GoesOn stopping) (hsound : sound w) (hinput : input.Undisturbed client)
    (hrouses : Rouses client now stopping h input h₁ stopping') :
    ∃ events h' w', h₁.run service now stopping' w = (events, h', w')
      ∧ Woken service sound key stopping' rest (heardOf client (now, input)) w events h' w' := by
  have hread := hwaits
  obtain ⟨wanted, hreads, -⟩ := hread
  -- running a handler to which nothing has come is giving it no bytes
  have hidle : ∀ stopping, h.GoesOn stopping → ∃ events h' w',
      h.run service now stopping w = (events, h', w')
        ∧ Woken service sound key stopping rest [] w events h' w' :=
    fun stopping hgo => woken_bytes hfit hkey hwaits hgo hsound now []
  cases hrouses with
  | arrival arrival =>
    rw [heardOf, if_pos rfl]
    cases arrival with
    | bytes chunk => exact woken_bytes hfit hkey hwaits hgo hsound now chunk
    | finish =>
      obtain ⟨h', hrun, hended⟩ := hwaits.finish hgo service now w
      exact ⟨_, h', w, hrun, hwaits.cut hended rfl rfl⟩
    | hangUp reset => exact absurd rfl (hinput rfl reset)
  | room count =>
    have hroom : { h with outlet := h.outlet.consume count } = h := by
      rw [hreads.flows.outlet, Outlet.consume, ← hreads.flows.outlet]
    rw [hroom]
    exact hidle stopping hgo
  | stop =>
    cases wanted with
    | header => exact ⟨_, _, w, run_stopping hreads.phase rfl, hwaits.cut rfl rfl rfl⟩
    | payload header command | refused header reason =>
      exact hidle true fun _ hphase => by cases hreads.phase.symm.trans hphase
  | nothing hnothing =>
    rw [hnothing]
    exact hidle stopping hgo

/-- A connection that goes on. -/
theorem serves_next_one {input : Input} (hfit : service.Fits sound) (hkey : h.identity = key)
    (hwaits : h.Waits service.limit rest) (hgo : h.GoesOn stopping) (hsound : sound w)
    (hserve : ∀ later, serve service.limit key service.dispatch (heard ++ later) w₀
      = (serve service.limit key service.dispatch (rest ++ later) w).after
          (calls (happened.map (·.2))) (written (happened.map (·.2))))
    (hinput : input.Undisturbed client) (now permits : Nat) :
    let result := (⟨permits, [], [(client, h)], stopping⟩ : Server).next service now input w
    Serves service sound key client w₀ (heard ++ heardOf client (now, input))
      (happened ++ result.1) result.2.1 result.2.2 := by
  dsimp only
  rcases next_one hinput service now permits stopping h w with ⟨h₁, stopping', hrouses, hnext⟩
    | ⟨hnothing, hnext⟩ | ⟨hnothing, -, hnext⟩
  · obtain ⟨events, h', w', hrun, hwoken⟩ :=
      woken_of_rouses hfit hkey hwaits hgo hsound hinput hrouses
    rw [hnext]
    exact serves_resume hserve hrun hwoken permits
  · rw [hnext, hnothing, List.append_nil, List.append_nil]
    exact .going hkey hwaits hgo hsound hserve
  · have hwoken : Woken service sound key stopping rest [] w h.finish.1 h.finish.2 w :=
      hwaits.cut rfl rfl rfl
    rw [hnext, hnothing]
    exact serves_of_woken hserve hwoken permits

/-- A connection that is over. -/
theorem serves_next_none {input : Input} {read : List Stamped} (hread : read <+: heard)
    (hserve : serve service.limit key service.dispatch read w₀ = transcript happened w)
    (hinput : input.Undisturbed client) (now permits : Nat) (stopping : Bool) :
    let result := (⟨permits, [], [], stopping⟩ : Server).next service now input w
    Serves service sound key client w₀ (heard ++ heardOf client (now, input))
      (happened ++ result.1) result.2.1 result.2.2 := by
  obtain ⟨stopping', hnext⟩ := next_none hinput service now permits stopping w
  dsimp only
  rw [hnext, List.append_nil]
  exact .ended (hread.trans (List.prefix_append _ _)) hserve

theorem Serves.next {input : Input} (hfit : service.Fits sound)
    (hserves : Serves service sound key client w₀ heard happened s w)
    (hinput : input.Undisturbed client) (now : Nat) :
    let result := s.next service now input w
    Serves service sound key client w₀ (heard ++ heardOf client (now, input))
      (happened ++ result.1) result.2.1 result.2.2 := by
  cases hserves with
  | going hkey hwaits hgo hsound hserve =>
    exact serves_next_one hfit hkey hwaits hgo hsound hserve hinput now _
  | ended hread hserve => exact serves_next_none hread hserve hinput now _ _

theorem Serves.run (hfit : service.Fits sound) {inputs : List (Nat × Input)}
    (hserves : Serves service sound key client w₀ heard happened s w)
    (hinputs : ∀ input ∈ inputs, input.2.Undisturbed client) :
    let result := s.run service w inputs
    Serves service sound key client w₀ (heard ++ inputs.flatMap (heardOf client))
      (happened ++ result.1) result.2.1 result.2.2 := by
  induction inputs generalizing heard happened s w with
  | nil =>
    rw [← List.append_nil heard, ← List.append_nil happened] at hserves
    exact hserves
  | cons input rest ih =>
    obtain ⟨now, input⟩ := input
    obtain ⟨hfirst, hrest⟩ := List.forall_mem_cons.1 hinputs
    have hthen := ih (hserves.next hfit hfirst now) hrest
    simp only [List.append_assoc] at hthen
    rw [List.flatMap_cons]
    exact hthen

/-- A client that sends its bytes and finishes has all done that the reference does. -/
theorem transcript_pieces (hfit : service.Fits sound) (hsound : sound w)
    (maxConnections client : Nat) (uid : UInt32) (first last : Nat) (chunks : List (Nat × Bytes)) :
    let result := Server.run service (.ofLimit maxConnections) w
      ((first, .connect client (some uid) .flowing) :: pieces client chunks last)
    transcript result.1 result.2.2
      = serve service.limit (.resolve service.scope uid) service.dispatch (stream chunks) w := by
  intro result
  obtain ⟨happenings, h', w', hrun, -, hserve⟩ :=
    run_alone (h := newcomer service.scope uid .flowing first) hfit rfl (waits_newcomer _ _ _ _)
      hsound (max 1 maxConnections) client chunks last
  have hresult : result
      = ((client, .started) :: happenings, alone (max 1 maxConnections) client h', w') := by
    simp only [result, run_connect_first, hrun]
  rw [hresult]
  rw [List.nil_append] at hserve
  exact hserve.symm

/-- **When the daemon stops, or a client keeps it waiting for too long, the connection is cut
between two commands.**  Whatever comes from a client that keeps reading, in whatever pieces and at
whatever times, and whenever the daemon is told to stop: what was dispatched and written is what is
dispatched and written for a client that sends, of all those bytes, some complete commands at the
front and then finishes. -/
theorem cut_between_commands (hfit : service.Fits sound) (hsound : sound w)
    (maxConnections client : Nat) (uid : UInt32) (first : Nat) {inputs : List (Nat × Input)}
    (hinputs : ∀ input ∈ inputs, input.2.Undisturbed client) :
    let result := Server.run service (.ofLimit maxConnections) w
      ((first, .connect client (some uid) .flowing) :: inputs)
    ∃ whole, whole <+: inputs.flatMap (heardOf client)
      ∧ Whole service.limit (bytesOf whole)
      ∧ transcript result.1 result.2.2
        = serve service.limit (.resolve service.scope uid) service.dispatch whole w
      ∧ ∀ chunks last, stream chunks = whole →
        let uncut := Server.run service (.ofLimit maxConnections) w
          ((first, .connect client (some uid) .flowing) :: pieces client chunks last)
        transcript result.1 result.2.2 = transcript uncut.1 uncut.2.2 := by
  intro result
  have hstart : Serves service sound (.resolve service.scope uid) client w [] [(client, .started)]
      (alone (max 1 maxConnections) client (newcomer service.scope uid .flowing first)) w :=
    .going rfl (waits_newcomer _ _ _ _) (goesOn_running _) hsound fun later => rfl
  have hserves := hstart.run hfit hinputs
  have hresult := run_connect_first service maxConnections client first uid .flowing inputs w
  obtain ⟨read, hread, hdone⟩ := hserves.exists_read
  obtain ⟨whole, hprefix, hwhole, hsame⟩ :=
    exists_whole service.limit (.resolve service.scope uid) service.dispatch read w
  have htranscript : transcript result.1 result.2.2
      = serve service.limit (.resolve service.scope uid) service.dispatch whole w := by
    rw [hsame, hdone]
    simp only [result, hresult]
    rfl
  refine ⟨whole, hprefix.trans hread, hwhole, htranscript, ?_⟩
  rintro chunks last rfl
  exact htranscript.trans
    (transcript_pieces hfit hsound maxConnections client uid first last chunks).symm

/-- The daemon is told to stop while the payload of a command comes in, and the client goes on. -/
theorem cut_between_commands_mirror :
    let inputs : List (Nat × Input) := [
      (5, .deliver 7 (.bytes [1, 0, 0, 0, 1, 0, 0, 0, 2, 0, 0, 0])), (6, .stop),
      (8, .deliver 7 (.bytes [42])), (9, .deliver 7 (.bytes [43, 2, 0, 0, 0, 7])), (20, .tick),
      (21, .deliver 7 .finish)]
    let service : Service Unit := { mirror with idle := some 10 }
    let result := Server.run service (.ofLimit 1) ()
      ((3, .connect 7 (some 1000) .flowing) :: inputs)
    ∃ whole, whole <+: inputs.flatMap (heardOf 7)
      ∧ Whole 64 (bytesOf whole)
      ∧ transcript result.1 result.2.2
        = serve 64 (.forUid 1000) service.dispatch whole ()
      ∧ ∀ chunks last, stream chunks = whole →
        let uncut := Server.run service (.ofLimit 1) ()
          ((3, .connect 7 (some 1000) .flowing) :: pieces 7 chunks last)
        transcript result.1 result.2.2 = transcript uncut.1 uncut.2.2 := by
  intro inputs service
  have hfit : service.Fits fun _ => True := fun _ _ _ _ _ _ hlen => ⟨hlen, trivial⟩
  have hinputs : ∀ input ∈ inputs, input.2.Undisturbed 7 := by
    simp [inputs, Input.Undisturbed, Stays]
  exact cut_between_commands hfit trivial 1 7 1000 3 hinputs

end Server
end TokenBroker
