import TokenBroker.Proofs.Daemon.Connections
import TokenBroker.Proofs.Daemon.Reference
/-!
# The handler follows the stream

A handler that is given the bytes of its client piece by piece does what `Reference.serve` does with
the whole string.

* `Handler.Waits` is a handler at rest, with the bytes that it has read of an unfinished command.
* `run_serve` is one piece: whatever may still come, the reference does on all bytes what the
  handler does now, and goes on from the bytes that the handler still has in hand.
* `Server.run_serve` is the whole connection.
-/

set_option autoImplicit false

namespace TokenBroker

open Reference

namespace Handler

/-! ## What a handler has in hand -/

/-- The header that was read before the part that is read now. -/
def Wanted.head : Wanted → Bytes
  | header => []
  | payload h _ => h.encode
  | refused h _ => h.encode

/-- Whether the header that was read is judged as it should be. -/
def Wanted.Judged (limit : Nat) : Wanted → Prop
  | header => True
  | payload h command => h.dataSize.toNat ≤ limit ∧ validateCommand h limit = .ok command
  | refused h reason => h.dataSize.toNat ≤ limit ∧ validateCommand h limit = .error reason

theorem Wanted.judged_after {limit : Nat} {header : CommandHeader}
    (h : header.dataSize.toNat ≤ limit) : (Wanted.after limit header).Judged limit := by
  rw [Wanted.after]
  cases hvalid : validateCommand header limit with
  | ok command => exact ⟨h, hvalid⟩
  | error reason => exact ⟨h, hvalid⟩

@[simp] theorem Wanted.head_after (limit : Nat) (header : CommandHeader) :
    (Wanted.after limit header).head = header.encode := by
  rw [Wanted.after]
  split <;> rfl

@[simp] theorem Wanted.need_after (limit : Nat) (header : CommandHeader) :
    (Wanted.after limit header).need = header.dataSize.toNat := by
  rw [Wanted.after]
  split <;> rfl

/-- A handler that reads a part, with the bytes that it has of the present command and of those
after it. -/
structure Reads (limit : Nat) (h : Handler) (wanted : Wanted) (s : List Stamped) : Prop where
  flows : h.Flows
  phase : h.phase = .reading wanted
  judged : wanted.Judged limit
  bytes : bytesOf s = wanted.head ++ (h.soFar ++ h.socket.unread)
  within : h.soFar.length ≤ wanted.need

/-- A handler at rest, with the bytes that it has of an unfinished command. -/
def Waits (limit : Nat) (h : Handler) (s : List Stamped) : Prop :=
  ∃ wanted, h.Reads limit wanted s ∧ h.socket.unread = [] ∧ h.soFar.length < wanted.need

/-- The bytes that complete a part have arrived now. -/
def Fresh (now : Nat) (wanted : Wanted) (s : List Stamped) : Prop :=
  ∀ item ∈ s.drop (wanted.head.length + wanted.need - 1), item.1 = now

theorem length_bytesOf (s : List Stamped) : (bytesOf s).length = s.length := List.length_map _

variable {limit : Nat} {h : Handler} {wanted : Wanted} {s : List Stamped}

theorem Reads.length (hreads : h.Reads limit wanted s) :
    s.length = wanted.head.length + (h.soFar.length + h.socket.unread.length) := by
  rw [← length_bytesOf, hreads.bytes, List.length_append, List.length_append]

/-- The part that is read next is what follows the header in hand. -/
theorem Reads.part (hreads : h.Reads limit wanted s) :
    h.part wanted.need = (bytesOf (s.drop wanted.head.length)).take wanted.need := by
  rw [bytesOf, List.map_drop, ← bytesOf, hreads.bytes, List.drop_left, Handler.part,
    List.take_append, List.take_of_length_le hreads.within]

/-- What is left after that part. -/
theorem Reads.remaining (hreads : h.Reads limit wanted s) :
    (h.remaining wanted.need).unread
      = bytesOf (s.drop (wanted.head.length + wanted.need)) := by
  rw [bytesOf, List.map_drop, ← bytesOf, hreads.bytes, ← List.drop_drop, List.drop_left,
    List.drop_append, List.drop_eq_nil_of_le hreads.within, List.nil_append]
  rfl

end Handler

/-! ## One piece -/

/-- As long as the states of a dispatcher are sound, its replies are within the limit of the
service, and they stay sound. -/
def Service.Fits {σ : Type} (service : Service σ) (sound : σ → Prop) : Prop :=
  ∀ (now : Nat) (key : IdentityKey) (command : Command) (payload : Bytes) (w : σ),
    sound w → payload.length ≤ service.limit →
      (service.dispatch now key command payload w).1.payload.length ≤ service.limit
        ∧ sound (service.dispatch now key command payload w).2

namespace Handler

variable {σ : Type} {service : Service σ} {sound : σ → Prop} {now : Nat} {key : IdentityKey}
  {h : Handler} {wanted : Wanted} {s : List Stamped} {w : σ}

/-- A handler has done what the reference does on some bytes, whatever comes after them: either all
of it, or it waits with the rest in hand. -/
def Follows (service : Service σ) (key : IdentityKey) (s : List Stamped) (w : σ)
    (events : List Event) (h : Handler) (w' : σ) : Prop :=
  (h.isEnded = true ∧ ∀ later, serve service.limit key service.dispatch (s ++ later) w
      = ⟨calls events, written events, w'⟩)
    ∨ ∃ rest, h.Waits service.limit rest
      ∧ ∀ later, serve service.limit key service.dispatch (s ++ later) w
        = (serve service.limit key service.dispatch (rest ++ later) w').after (calls events)
            (written events)

theorem after_after {rest : Transcript σ} (calls calls' : List (Command × Bytes × Reply))
    (written written' : Bytes) :
    (rest.after calls' written').after calls written
      = rest.after (calls ++ calls') (written ++ written') := by
  simp only [Transcript.after, List.append_assoc]

/-- What was done before is done before. -/
theorem Follows.prepend {s' : List Stamped} {w₁ w₂ : σ} {first events : List Event}
    (hfollows : Follows service key s' w₁ events h w₂)
    (hfirst : ∀ later, serve service.limit key service.dispatch (s ++ later) w
      = (serve service.limit key service.dispatch (s' ++ later) w₁).after (calls first)
          (written first)) :
    Follows service key s w (first ++ events) h w₂ := by
  rcases hfollows with ⟨hended, hdone⟩ | ⟨rest, hwaits, hdone⟩
  · refine .inl ⟨hended, fun later => ?_⟩
    rw [hfirst, hdone, calls_append, written_append]
    rfl
  · refine .inr ⟨rest, hwaits, fun later => ?_⟩
    rw [hfirst, hdone, after_after, calls_append, written_append]

theorem Reads.goOn {limit need : Nat} {next : Wanted} {s' : List Stamped}
    (hreads : h.Reads limit wanted s) (hjudged : next.Judged limit)
    (hbytes : bytesOf s' = next.head ++ (h.remaining need).unread) (since : Nat)
    (observer : Sequence.Observer) :
    (h.goOn need since (.reading next) observer).Reads limit next s' where
  flows := hreads.flows.goOn _ _ _ _
  phase := rfl
  judged := hjudged
  bytes := hbytes
  within := Nat.zero_le _

/-- After a command the next one is read. -/
theorem Reads.next {limit need : Nat} {s' : List Stamped} (hreads : h.Reads limit wanted s)
    (hbytes : (h.remaining need).unread = bytesOf s') (since : Nat) :
    (h.goOn need since (.reading .header) h.observer).Reads limit .header s' := by
  refine hreads.goOn ?_ hbytes.symm since h.observer
  exact trivial

theorem take_append_of_enough {n : Nat} (hlen : n ≤ s.length) (later : List Stamped) :
    (s ++ later).take n = s.take n ∧ (s ++ later).drop n = s.drop n ++ later :=
  ⟨List.take_append_of_le_length hlen, List.drop_append_of_le_length hlen⟩

/-- The last byte of a frame that is complete now has arrived now. -/
theorem arrivedAt_of_fresh {n : Nat} (hpos : 0 < n) (hlen : n ≤ s.length)
    (hfresh : ∀ item ∈ s.drop (n - 1), item.1 = now) : arrivedAt (s.take n) = now := by
  have hlast : (s.take n).getLast? = s[n - 1]? := by
    rw [List.getLast?_eq_getElem?, List.length_take, Nat.min_eq_left hlen,
      List.getElem?_take_of_lt (by omega)]
  have hget : s[n - 1]? = some s[n - 1] := List.getElem?_eq_getElem (by omega)
  have hmem : s[n - 1] ∈ s.drop (n - 1) := by
    rw [List.drop_eq_getElem_cons (by omega)]
    exact .head _
  rw [arrivedAt, hlast, hget, Option.map_some, Option.getD_some]
  exact hfresh _ hmem

/-- A part that is not complete is taken in. -/
theorem Reads.short {stopping : Bool} (hreads : h.Reads service.limit wanted s)
    (hgo : (stopping && wanted.isHeader) = false)
    (hshort : h.soFar.length + h.socket.unread.length < wanted.need) :
    ∃ h', run service now stopping h w = ([], h', w) ∧ h'.identity = h.identity
      ∧ h'.phase = h.phase ∧ h'.Waits service.limit s := by
  refine ⟨_, run_short hreads.flows hreads.phase hgo hshort, rfl, rfl, wanted, ?_, rfl, ?_⟩
  · exact {
      flows := ⟨hreads.flows.outlet, hreads.flows.ended, hreads.flows.gone, hreads.flows.reset⟩
      phase := hreads.phase
      judged := hreads.judged
      bytes := by rw [hreads.bytes, List.append_nil]
      within := by rw [List.length_append]; omega }
  · rwa [List.length_append]

/-- What the header in hand says of the bytes in hand. -/
theorem Reads.decode? {limit : Nat} {header : CommandHeader} (hreads : h.Reads limit wanted s)
    (hhead : wanted.head = header.encode) (later : List Stamped) :
    CommandHeader.decode? (bytesOf ((s ++ later).take Header.size)) = some header := by
  have hlen : header.encode.length = Header.size := CommandHeader.length_encode header
  rw [bytesOf, List.map_take, List.map_append, ← bytesOf, hreads.bytes, hhead, List.append_assoc,
    List.take_left' hlen, CommandHeader.decode?_encode]

/-- A complete frame, with what the handler reads of it. -/
theorem Reads.frame {limit : Nat} {header : CommandHeader} (hreads : h.Reads limit wanted s)
    (hhead : wanted.head = header.encode) (hneed : wanted.need = header.dataSize.toNat)
    (henough : wanted.need ≤ h.soFar.length + h.socket.unread.length)
    (hfresh : Fresh now wanted s) :
    Header.size + header.dataSize.toNat ≤ s.length
      ∧ h.part header.dataSize.toNat
        = bytesOf ((s.take (Header.size + header.dataSize.toNat)).drop Header.size)
      ∧ (h.remaining header.dataSize.toNat).unread
        = bytesOf (s.drop (Header.size + header.dataSize.toNat))
      ∧ arrivedAt (s.take (Header.size + header.dataSize.toNat)) = now
      ∧ ∀ item ∈ s.drop (Header.size + header.dataSize.toNat), item.1 = now := by
  have hsize : wanted.head.length = Header.size := by rw [hhead, CommandHeader.length_encode]
  have hlen : Header.size + header.dataSize.toNat ≤ s.length := by
    rw [hreads.length, hsize]
    omega
  rw [Fresh, hsize, hneed] at hfresh
  refine ⟨hlen, ?_, ?_, arrivedAt_of_fresh (by rw [Header.size]; omega) hlen hfresh, ?_⟩
  · rw [← hneed, hreads.part, hsize, List.drop_take, bytesOf, bytesOf, List.map_take,
      Nat.add_sub_cancel_left]
  · rw [← hneed, hreads.remaining, hsize]
  · intro item hitem
    refine hfresh item ?_
    have hsucc : Header.size + header.dataSize.toNat
        = (Header.size + header.dataSize.toNat - 1) + 1 := by
      rw [Header.size]
      omega
    rw [hsucc, ← List.drop_drop] at hitem
    exact List.mem_of_mem_drop hitem

theorem measure_eq (hphase : h.phase = .reading wanted) :
    h.measure = 2 * (h.soFar.length + h.socket.unread.length) + (Phase.reading wanted).weight := by
  rw [measure, hphase]

/-- When a header is complete, the handler reads what it announces. -/
theorem Reads.opened {limit : Nat} {header : CommandHeader} (hreads : h.Reads limit .header s)
    (henough : Header.size ≤ h.soFar.length + h.socket.unread.length)
    (hdecode : CommandHeader.decode? (h.part Header.size) = some header)
    (hsize : header.dataSize.toNat ≤ limit) (hfresh : Fresh now .header s)
    (observer : Sequence.Observer) :
    (h.goOn Header.size now (.reading (.after limit header)) observer).Reads limit
        (.after limit header) s
      ∧ Fresh now (.after limit header) s
      ∧ (h.goOn Header.size now (.reading (.after limit header)) observer).measure < h.measure := by
  have hpart : h.part Header.size = bytesOf (s.take Header.size) := by
    rw [bytesOf, List.map_take]
    exact hreads.part
  have hrest : (h.remaining Header.size).unread = bytesOf (s.drop Header.size) := hreads.remaining
  have hbytes : bytesOf s
      = (Wanted.after limit header).head ++ (h.remaining Header.size).unread := by
    rw [Wanted.head_after, CommandHeader.encode_of_decode? hdecode, hpart, hrest, bytesOf, bytesOf,
      bytesOf, ← List.map_append, List.take_append_drop]
  refine ⟨hreads.goOn (Wanted.judged_after hsize) hbytes now observer, ?_, ?_⟩
  · intro item hitem
    refine hfresh item ?_
    have hlater : Header.size + header.dataSize.toNat - 1
        = (Header.size - 1) + header.dataSize.toNat := by
      rw [Header.size]
      omega
    rw [Wanted.head_after, CommandHeader.length_encode, Wanted.need_after, hlater,
      ← List.drop_drop] at hitem
    exact List.mem_of_mem_drop hitem
  · have hle := Phase.weight_le_two (.reading (.after limit header))
    have hlength := hreads.length
    rw [Wanted.head, List.length_nil, Nat.zero_add] at hlength
    rw [Header.size] at henough
    rw [measure_goOn, hrest, length_bytesOf, List.length_drop, hlength, measure_eq hreads.phase,
      Header.size]
    omega

/-- When a frame is complete, the handler reads the header of the next one. -/
theorem Reads.passed {limit : Nat} {header : CommandHeader} (hreads : h.Reads limit wanted s)
    (hhead : wanted.head = header.encode) (hneed : wanted.need = header.dataSize.toNat)
    (hweight : (Phase.reading .header).weight < (Phase.reading wanted).weight)
    (henough : wanted.need ≤ h.soFar.length + h.socket.unread.length)
    (hfresh : Fresh now wanted s) :
    let next := h.goOn header.dataSize.toNat now (.reading .header) h.observer
    next.Reads limit .header (s.drop (Header.size + header.dataSize.toNat))
      ∧ Fresh now .header (s.drop (Header.size + header.dataSize.toNat))
      ∧ next.measure < h.measure := by
  obtain ⟨-, -, hrest, -, hfresh'⟩ := hreads.frame hhead hneed henough hfresh
  refine ⟨hreads.next hrest now, fun item hitem => hfresh' item (List.mem_of_mem_drop hitem), ?_⟩
  rw [measure_goOn, hrest, length_bytesOf, List.length_drop, hreads.length, hhead,
    CommandHeader.length_encode, measure_eq hreads.phase]
  omega

/-- **Whatever may still come, a handler does with the bytes in hand what the reference does, and
goes on from the bytes that are left.** -/
theorem run_serve (hfit : service.Fits sound) (hkey : h.identity = key)
    (hreads : h.Reads service.limit wanted s) (hfresh : Fresh now wanted s) (hsound : sound w) :
    ∃ events h' w', run service now false h w = (events, h', w') ∧ h'.identity = key ∧ sound w'
      ∧ Follows service key s w events h' w' := by
  -- each part that is complete leaves less in hand, or the same and less of the command to read
  induction hmeasure : h.measure using Nat.strongRecOn generalizing h wanted s w with
  | _ n ih =>
  subst hmeasure
  rcases Nat.lt_or_ge (h.soFar.length + h.socket.unread.length) wanted.need with hshort | henough
  · obtain ⟨h', hrun, hident, -, hwaits⟩ := hreads.short (Bool.false_and _) hshort
    exact ⟨[], h', w, hrun, hident.trans hkey, hsound, .inr ⟨s, hwaits, fun later => rfl⟩⟩
  cases wanted with
  | header =>
    have hpart : h.part Header.size = bytesOf (s.take Header.size) := by
      rw [bytesOf, List.map_take]
      exact hreads.part
    have hlen : Header.size ≤ s.length := by
      rw [hreads.length]
      exact Nat.le_trans henough (Nat.le_add_left _ _)
    have hpartlen : (h.part Header.size).length = Header.size := by
      rw [hpart, length_bytesOf, List.length_take, Nat.min_eq_left hlen]
    obtain ⟨header, hdecode⟩ := exists_decode? hpartlen
    rcases Nat.lt_or_ge service.limit header.dataSize.toNat with hlarge | hsize
    · refine ⟨_, _, _,
        run_header_oversized hreads.flows.listens hreads.phase henough hdecode hlarge, hkey,
        hsound, .inl ⟨rfl, fun later => ?_⟩⟩
      have hdecode' : CommandHeader.decode? (bytesOf ((s ++ later).take Header.size))
          = some header := by
        rw [(take_append_of_enough hlen later).1, ← hpart, hdecode]
      rw [serve_of_oversized (by rw [List.length_append]; omega) hdecode' hlarge, calls_append,
        written_append, calls_noteId, written_noteId]
      rfl
    · obtain ⟨hreads', hfresh', hless⟩ :=
        hreads.opened henough hdecode hsize hfresh (noteId h.observer header.id).2
      obtain ⟨events, h', w', hrun, hident, hsound', hfollows⟩ :=
        ih _ hless (h := h.goOn _ _ _ _) hkey hreads' hfresh' hsound rfl
      refine ⟨_, h', w', run_header hreads.phase henough hdecode hsize hrun, hident, hsound',
        hfollows.prepend fun later => ?_⟩
      rw [calls_noteId, written_noteId]
      rfl
  | payload header command =>
    obtain ⟨hlen, hpart, -, harrived, -⟩ := hreads.frame rfl rfl henough hfresh
    obtain ⟨hreads', hfresh', hless⟩ := hreads.passed rfl rfl Nat.two_pos henough hfresh
    obtain ⟨hsize, hvalid⟩ := hreads.judged
    have hpartlen : (h.part header.dataSize.toNat).length ≤ service.limit := by
      rw [hpart, length_bytesOf, List.length_drop, List.length_take, Nat.min_eq_left hlen]
      omega
    obtain ⟨hreply, hsound₁⟩ :=
      hfit now h.identity command (h.part header.dataSize.toNat) w hsound hpartlen
    obtain ⟨events, h', w', hrun, hident, hsound', hfollows⟩ :=
      ih _ hless (h := h.goOn _ _ _ _) hkey hreads' hfresh' hsound₁ rfl
    refine ⟨_, h', w', run_payload hreads.flows.listens hreads.phase henough rfl hreply hrun,
      hident, hsound', hfollows.prepend fun later => ?_⟩
    rw [serve_of_frame header (hreads.decode? rfl later) hsize (by rw [List.length_append]; omega),
      hvalid]
    dsimp only
    rw [(take_append_of_enough hlen later).1, (take_append_of_enough hlen later).2, harrived,
      ← hpart, ← hkey]
    simp [calls, written, served]
  | refused header reason =>
    obtain ⟨hlen, -, -, -, -⟩ := hreads.frame rfl rfl henough hfresh
    obtain ⟨hreads', hfresh', hless⟩ := hreads.passed rfl rfl Nat.two_pos henough hfresh
    obtain ⟨hsize, hvalid⟩ := hreads.judged
    obtain ⟨events, h', w', hrun, hident, hsound', hfollows⟩ :=
      ih _ hless (h := h.goOn _ _ _ _) hkey hreads' hfresh' hsound rfl
    refine ⟨_, h', w', run_refused hreads.flows.listens hreads.phase henough hrun, hident,
      hsound', hfollows.prepend fun later => ?_⟩
    rw [serve_of_frame header (hreads.decode? rfl later) hsize (by rw [List.length_append]; omega),
      hvalid]
    dsimp only
    rw [(take_append_of_enough hlen later).2]
    simp [calls, written, turnedAway]

/-! ## At rest -/

/-- Of an unfinished command nothing comes. -/
theorem Waits.serve {limit : Nat} {dispatch : Nat → Dispatcher σ} (hwaits : h.Waits limit s) :
    serve limit key dispatch s w = ⟨[], [], w⟩ := by
  obtain ⟨wanted, hreads, hunread, hshort⟩ := hwaits
  have hlen := hreads.length
  have hdecode : ∀ {header : CommandHeader}, wanted.head = header.encode →
      CommandHeader.decode? (bytesOf (s.take Header.size)) = some header := by
    intro header hhead
    have := hreads.decode? hhead []
    rwa [List.append_nil] at this
  rw [hunread, List.length_nil, Nat.add_zero] at hlen
  cases wanted with
  | header =>
    rw [Wanted.head, List.length_nil, Nat.zero_add] at hlen
    exact serve_of_lt (hlen ▸ hshort)
  | payload header command | refused header reason =>
    rw [Wanted.head, CommandHeader.length_encode] at hlen
    rw [Wanted.need] at hshort
    exact serve_of_partial (by omega) (hdecode rfl) hreads.judged.1 (by omega)

theorem Waits.isEnded {limit : Nat} (hwaits : h.Waits limit s) : h.isEnded = false := by
  obtain ⟨wanted, hreads, -⟩ := hwaits
  rw [Handler.isEnded, hreads.phase]

/-- A handler at rest that is given some more bytes. -/
theorem Waits.receive {limit : Nat} (hwaits : h.Waits limit s) (now : Nat) (chunk : Bytes) :
    ∃ wanted, Reads limit { h with socket := h.socket.receive (.bytes chunk) } wanted
        (s ++ stamp now chunk)
      ∧ Fresh now wanted (s ++ stamp now chunk) := by
  obtain ⟨wanted, hreads, hunread, hshort⟩ := hwaits
  have hsocket : (h.socket.receive (.bytes chunk)).unread = chunk
      ∧ (h.socket.receive (.bytes chunk)).ended = h.socket.ended
      ∧ (h.socket.receive (.bytes chunk)).gone = h.socket.gone
      ∧ (h.socket.receive (.bytes chunk)).reset = h.socket.reset := by
    rw [Socket.receive]
    split
    · next hempty => exact ⟨by rw [hunread, List.isEmpty_iff.1 hempty], rfl, rfl, rfl⟩
    · exact ⟨by rw [hunread, List.nil_append], rfl, rfl, rfl⟩
  have hstamp : bytesOf (stamp now chunk) = chunk := by
    rw [bytesOf, stamp, List.map_map]
    exact List.map_id chunk
  have hlen := hreads.length
  rw [hunread, List.length_nil, Nat.add_zero] at hlen
  refine ⟨wanted, ?_, ?_⟩
  · exact {
      flows := ⟨hreads.flows.outlet, hsocket.2.1.trans hreads.flows.ended,
        hsocket.2.2.1.trans hreads.flows.gone, hsocket.2.2.2.trans hreads.flows.reset⟩
      phase := hreads.phase
      judged := hreads.judged
      bytes := by
        rw [hsocket.1, bytesOf, List.map_append, ← bytesOf, ← bytesOf, hstamp, hreads.bytes,
          hunread, List.append_nil, List.append_assoc]
      within := hreads.within }
  · intro item hitem
    rw [List.drop_append, List.drop_eq_nil_of_le (by omega), List.nil_append] at hitem
    obtain ⟨byte, -, rfl⟩ := List.mem_map.1 (List.mem_of_mem_drop hitem)
    rfl

/-- When its client has finished, a handler at rest ends. -/
theorem Waits.finish {limit : Nat} {stopping : Bool} (hwaits : h.Waits limit s)
    (hgo : h.GoesOn stopping) (service : Service σ) (now : Nat) (w : σ) :
    ∃ h', run service now stopping { h with socket := h.socket.receive .finish } w
        = ([.ended false], h', w) ∧ h'.isEnded = true := by
  obtain ⟨wanted, hreads, hunread, hshort⟩ := hwaits
  have hfill : (h.socket.receive .finish).fill wanted.need h.soFar = (.failed .closed,
      { h.socket with ended := true, noted := false }) := by
    have hlt : ¬ wanted.need - h.soFar.length ≤ 0 := by omega
    simp [Socket.receive, Socket.fill, Socket.drained, hunread, hlt, hreads.flows.reset]
  have hphase : ({ h with socket := h.socket.receive .finish } : Handler).phase = .reading wanted :=
    hreads.phase
  refine ⟨{ h with socket := { h.socket with ended := true, noted := false }, phase := .ended },
    ?_, rfl⟩
  rw [run_reading hphase (hgo.wanted hreads.phase)]
  dsimp only
  rw [hfill]
  simp only [Handler.finish, closing, hunread, List.isEmpty_nil, Bool.not_true]

end Handler

/-! ## One connection of a server -/

namespace Server

open Handler

variable {σ : Type} {service : Service σ} {sound : σ → Prop} {permits client now : Nat}
  {h h' : Handler} {events : List Event} {w w' : σ}

/-- A server with no connection but one, which may have ended. -/
def alone (permits client : Nat) (h : Handler) : Server :=
  ⟨permits, [], if h.isEnded then [] else [(client, h)], false⟩

theorem next_deliver_alone {arrival : Arrival} (hgoing : h.isEnded = false)
    (hrun : Handler.run service now false { h with socket := h.socket.receive arrival } w
      = (events, h', w')) :
    (alone permits client h).next service now (.deliver client arrival) w
      = (tagged client events, alone permits client h', w') := by
  simp only [alone, hgoing, Bool.false_eq_true, if_false, next, receive, List.map_cons,
    List.map_nil, if_true, resume, runActive, List.foldl_cons, List.foldl_nil, Progress.runNext,
    hrun, acceptWaiting, List.nil_append]

theorem next_deliver_ended {arrival : Arrival} (hended : h.isEnded = true) :
    (alone permits client h).next service now (.deliver client arrival) w
      = ([], alone permits client h, w) := by
  simp [alone, hended, next, receive, resume, runActive, acceptWaiting]

/-- The inputs of a client that sends its bytes in pieces and then nothing more. -/
def pieces (client : Nat) (chunks : List (Nat × Bytes)) (last : Nat) : List (Nat × Input) :=
  (chunks.map fun chunk => (chunk.1, .deliver client (.bytes chunk.2)))
    ++ [(last, .deliver client .finish)]

/-- The bytes of some pieces, each with the time of its arrival. -/
def stream (chunks : List (Nat × Bytes)) : List Stamped :=
  chunks.flatMap fun chunk => stamp chunk.1 chunk.2

/-- What is done in some happenings, and what state is left. -/
def transcript (happenings : List Happening) (w : σ) : Transcript σ :=
  ⟨calls (happenings.map (·.2)), written (happenings.map (·.2)), w⟩

theorem map_tagged (client : Nat) (events : List Event) :
    (tagged client events).map (·.2) = events := by
  rw [tagged, List.map_map]
  exact List.map_id events

theorem transcript_tagged_append (client : Nat) (events : List Event) (more : List Happening)
    (w : σ) : transcript (tagged client events ++ more) w
      = (transcript more w).after (calls events) (written events) := by
  rw [transcript, List.map_append, map_tagged, calls_append, written_append]
  rfl

theorem run_ended_alone (hended : h.isEnded = true) (chunks : List (Nat × Bytes)) (last : Nat) :
    Server.run service (alone permits client h) w (pieces client chunks last)
      = ([], alone permits client h, w) := by
  induction chunks with
  | nil => simp only [pieces, List.map_nil, List.nil_append, Server.run, next_deliver_ended hended]
  | cons chunk rest ih =>
    rw [pieces] at ih
    simp only [pieces, List.map_cons, List.cons_append, Server.run, next_deliver_ended hended, ih,
      List.nil_append]

/-- A connection that waits with some bytes in hand does with them and all that follow what the
reference does. -/
theorem run_alone {key : IdentityKey} {s : List Stamped} (hfit : service.Fits sound)
    (hkey : h.identity = key) (hwaits : h.Waits service.limit s) (hsound : sound w)
    (permits client : Nat) (chunks : List (Nat × Bytes)) (last : Nat) :
    ∃ happenings h' w', Server.run service (alone permits client h) w (pieces client chunks last)
        = (happenings, alone permits client h', w') ∧ h'.isEnded = true
      ∧ serve service.limit key service.dispatch (s ++ stream chunks) w
        = transcript happenings w' := by
  induction chunks generalizing h s w with
  | nil =>
    obtain ⟨h', hrun, hended⟩ := hwaits.finish h.goesOn_running service last w
    refine ⟨tagged client [.ended false], h', w, ?_, hended, ?_⟩
    · simp only [pieces, List.map_nil, List.nil_append, Server.run,
        next_deliver_alone hwaits.isEnded hrun, List.append_nil]
    · rw [stream, List.flatMap_nil, List.append_nil, hwaits.serve]
      rfl
  | cons chunk rest ih =>
    obtain ⟨wanted, hreads, hfresh⟩ := hwaits.receive chunk.1 chunk.2
    obtain ⟨events, h', w', hrun, hident, hsound', hfollows⟩ :=
      Handler.run_serve (h := { h with socket := h.socket.receive (.bytes chunk.2) }) hfit hkey
        hreads hfresh hsound
    have hstep : ∀ result,
        Server.run service (alone permits client h') w' (pieces client rest last) = result →
          Server.run service (alone permits client h) w (pieces client (chunk :: rest) last)
            = (tagged client events ++ result.1, result.2) := by
      intro result hresult
      rw [pieces] at hresult
      simp only [pieces, List.map_cons, List.cons_append, Server.run,
        next_deliver_alone hwaits.isEnded hrun, hresult]
    have hstream : s ++ stream (chunk :: rest) = (s ++ stamp chunk.1 chunk.2) ++ stream rest := by
      rw [stream, List.flatMap_cons, List.append_assoc]
      rfl
    rw [hstream]
    rcases hfollows with ⟨hended, hdone⟩ | ⟨hand, hwaits', hdone⟩
    · refine ⟨_, h', w', hstep _ (run_ended_alone hended rest last), hended, ?_⟩
      rw [hdone, transcript_tagged_append]
      simp [transcript, Transcript.after, calls, written]
    · obtain ⟨happenings, h'', w'', hrest, hended, hserve⟩ := ih hident hwaits' hsound'
      refine ⟨_, h'', w'', hstep _ hrest, hended, ?_⟩
      rw [hdone, hserve, transcript_tagged_append]

theorem waits_newcomer (limit : Nat) (scope : IdentityScope) (uid : UInt32) (now : Nat) :
    (newcomer scope uid .flowing now).Waits limit [] :=
  ⟨.header, ⟨⟨rfl, rfl, rfl, rfl⟩, rfl, trivial, rfl, Nat.zero_le _⟩, rfl, Nat.zero_lt_succ _⟩

/-- The first client of a server is served at once. -/
theorem next_connect_first (service : Service σ) (maxConnections client now : Nat) (uid : UInt32)
    (outlet : Outlet) (w : σ) :
    (Server.ofLimit maxConnections).next service now (.connect client (some uid) outlet) w
      = ([(client, .started)],
        alone (max 1 maxConnections) client (newcomer service.scope uid outlet now), w) := by
  have hpermit : (Server.ofLimit maxConnections).active.length < max 1 maxConnections :=
    Nat.lt_of_lt_of_le Nat.one_pos (Nat.le_max_left 1 maxConnections)
  rw [next_connect (settled_ofLimit maxConnections) hpermit]
  rfl

theorem run_connect_first (service : Service σ) (maxConnections client now : Nat) (uid : UInt32)
    (outlet : Outlet) (inputs : List (Nat × Input)) (w : σ) :
    Server.run service (.ofLimit maxConnections) w
        ((now, .connect client (some uid) outlet) :: inputs)
      = let served := Server.run service (alone (max 1 maxConnections) client
          (newcomer service.scope uid outlet now)) w inputs
        ((client, .started) :: served.1, served.2) := by
  rw [Server.run, next_connect_first]
  exact congrArg (·, _) List.singleton_append

/-- **What the daemon does on a connection is what the reference does on the whole string.**
Whatever the client sends before it ends its sending side, and in whatever pieces: the dispatcher is
called for the same commands, the same bytes are written, the same state is left, and the connection
is closed. -/
theorem run_eq_serve (hfit : service.Fits sound) (w : σ) (hsound : sound w)
    (maxConnections client : Nat) (uid : UInt32) (first last : Nat) (chunks : List (Nat × Bytes)) :
    let result := Server.run service (.ofLimit maxConnections) w
      ((first, .connect client (some uid) .flowing) :: pieces client chunks last)
    transcript result.1 result.2.2
        = serve service.limit (.resolve service.scope uid) service.dispatch (stream chunks) w
      ∧ result.2.1.isIdle = true := by
  intro result
  obtain ⟨happenings, h', w', hrun, hended, hserve⟩ :=
    run_alone (h := newcomer service.scope uid .flowing first) hfit rfl (waits_newcomer _ _ _ _)
      hsound (max 1 maxConnections) client chunks last
  have hresult : result
      = ((client, .started) :: happenings, alone (max 1 maxConnections) client h', w') := by
    simp only [result, run_connect_first, hrun]
  rw [hresult]
  refine ⟨?_, by simp [isIdle, alone, hended]⟩
  rw [List.nil_append] at hserve
  exact hserve.symm

/-- A service that sends every payload back. -/
def mirror : Service Unit := ⟨64, none, .caller, fun _ => Dispatcher.returning .ok⟩

theorem fits_mirror : mirror.Fits fun _ => True := fun _ _ _ _ _ _ hlen => ⟨hlen, trivial⟩

/-- A command cut within its header is called once and mirrored, an unknown one is answered, and of
the byte after them nothing comes. -/
theorem run_eq_serve_mirror :
    let result := Server.run mirror (.ofLimit 1) ()
      ((3, .connect 7 (some 1000) .flowing) :: pieces 7 [(5, [1, 0, 0, 0, 1]), (6, []),
        (9, [0, 0, 0, 1, 0, 0, 0, 42]), (12, [2, 0, 0, 0, 7, 0, 0, 0, 0, 0, 0, 0, 3])] 20)
    transcript result.1 result.2.2
      = ⟨[(.writeAuthToken, [42], ⟨.ok, [42]⟩)],
          answer 1 ⟨.ok, [42]⟩ ++ answer 2 (.status .unknownCommand), ()⟩ := by
  have heq := (run_eq_serve fits_mirror () trivial 1 7 1000 3 20
    [(5, [1, 0, 0, 0, 1]), (6, []), (9, [0, 0, 0, 1, 0, 0, 0, 42]),
      (12, [2, 0, 0, 0, 7, 0, 0, 0, 0, 0, 0, 0, 3])]).1
  intro result
  rw [heq, serve_of_frame ⟨1, 1, 1⟩ rfl (by decide) (by decide)]
  have hvalid : validateCommand ⟨1, 1, 1⟩ mirror.limit = .ok .writeAuthToken := rfl
  rw [hvalid]
  dsimp only
  rw [serve_of_frame ⟨2, 7, 0⟩ rfl (by decide) (by decide)]
  have hvalid : validateCommand ⟨2, 7, 0⟩ mirror.limit = .error (.unknownCommand 7) := rfl
  rw [hvalid]
  dsimp only
  rw [serve_of_lt (by decide)]
  rfl

end Server
end TokenBroker
