import TokenBroker.Proofs.Frame.Exchange
import TokenBroker.Proofs.Stream.Scatter
/-!
# How long a response may take

The two parts of a response are read one after the other, and each has the whole timeout.

* `Line.ready?` is the time at which so many bytes are there.  `Line.read_ready` says that a read
  that succeeds takes until then, and `Line.read_of_ready` that it succeeds if it may take so long.
* `Frame.Punctual` reads keep to a timeout.  `Punctual.recvResponse` follows a response through its
  two reads, whatever becomes of them.
* `Frame.InTime` responses have a header that is there in time, and a payload that is there in time
  after that.  `of_recvResponse` and `recvResponse_of_inTime` say that these are the ones received.
-/

set_option autoImplicit false

namespace TokenBroker

/-! ## When bytes are there -/

namespace Line

/-- When there are `n` bytes, if there are so many `now` and none is read. -/
def readyFrom (n there now : Nat) : Schedule → Option Nat
  | [] => if n ≤ there then some now else none
  | (time, arrival) :: later =>
    if n ≤ there then some now
    else readyFrom n (there + arrival.content.length) (max now time) later

/-- When there are `n` bytes to read, if there ever are. -/
def ready? (l : Line) (n : Nat) : Option Nat := readyFrom n l.socket.unread.length l.now l.coming

section

variable {n m k there now time limit t : Nat} {arrival : Arrival} {coming later : Schedule}

theorem readyFrom_of_le (h : n ≤ there) : readyFrom n there now coming = some now := by
  cases coming with
  | nil => exact if_pos h
  | cons item later => exact if_pos h

theorem readyFrom_of_lt (h : there < n) :
    readyFrom n there now ((time, arrival) :: later)
      = readyFrom n (there + arrival.content.length) (max now time) later :=
  if_neg (Nat.not_le.2 h)

/-- Bytes that are there and are read are no longer needed. -/
theorem readyFrom_add (k : Nat) :
    readyFrom (n + k) (there + k) now coming = readyFrom n there now coming := by
  induction coming generalizing there now with
  | nil => simp only [readyFrom, Nat.add_le_add_iff_right]
  | cons item later ih =>
    obtain ⟨time, arrival⟩ := item
    simp only [readyFrom, Nat.add_le_add_iff_right]
    split
    · rfl
    · rw [Nat.add_right_comm]
      exact ih

/-- Bytes that are ready in time are among those that are there in time. -/
theorem le_of_readyFrom (h : readyFrom n there now coming = some t) (ht : t ≤ limit) :
    now ≤ t ∧ n ≤ there + (Schedule.content (Schedule.upTo (some limit) coming)).length := by
  induction coming generalizing there now with
  | nil =>
    rcases Nat.lt_or_ge there n with hshort | henough
    · rw [readyFrom, if_neg (Nat.not_le.2 hshort)] at h
      cases h
    · rw [readyFrom_of_le henough] at h
      exact ⟨Nat.le_of_eq (Option.some.inj h), Nat.le_add_right_of_le henough⟩
  | cons item later ih =>
    obtain ⟨time, arrival⟩ := item
    rcases Nat.lt_or_ge there n with hshort | henough
    · rw [readyFrom_of_lt hshort] at h
      obtain ⟨hmax, hlength⟩ := ih h
      obtain ⟨hnow, htime⟩ := Nat.max_le.1 hmax
      have hwithin : within time (some limit) = true := decide_eq_true (Nat.le_trans htime ht)
      rw [Schedule.upTo_cons hwithin, Schedule.content, List.flatMap_cons, List.length_append]
      exact ⟨hnow, by rwa [Nat.add_assoc] at hlength⟩
    · rw [readyFrom_of_le henough] at h
      exact ⟨Nat.le_of_eq (Option.some.inj h), Nat.le_add_right_of_le henough⟩

end

theorem ready?_settle (l : Line) (n : Nat) : l.settle.ready? n = l.ready? n := by
  obtain ⟨socket, now, coming⟩ := l
  show (settleFrom socket now coming).ready? n = readyFrom n socket.unread.length now coming
  induction coming generalizing socket with
  | nil => rfl
  | cons item later ih =>
    obtain ⟨time, arrival⟩ := item
    rw [settleFrom]
    split
    · next hpast =>
      rw [ih, Socket.unread_receive, List.length_append]
      rcases Nat.lt_or_ge socket.unread.length n with hshort | henough
      · rw [readyFrom_of_lt hshort, Nat.max_eq_left hpast]
      · rw [readyFrom_of_le henough, readyFrom_of_le (Nat.le_add_right_of_le henough)]
    · rfl

/-- A read that succeeds takes until its bytes are there, and leaves the others. -/
theorem ready_of_awaitFrom {n now : Nat} {soFar bytes : Bytes} {socket : Socket}
    {coming : Schedule} {deadline patience : Option Nat} {l : Line} (hlen : soFar.length ≤ n)
    (h : awaitFrom (fun soFar socket => socket.fill n soFar) deadline patience soFar socket now
      coming = (.finished bytes, l)) :
    let there := soFar.length + socket.unread.length
    readyFrom n there now coming = some l.now
      ∧ ∀ m, readyFrom (n + m) there now coming = l.ready? m := by
  intro there
  rcases Nat.lt_or_ge there n with hshort | henough
  · rcases awaitFrom_cases h with ⟨progress, hfill, -, -, hfinished⟩
      | ⟨soFar', socket', time, arrival, later, hfill, rfl, hrest⟩
    · obtain ⟨got, hgot, hvalue, -⟩ := Socket.fill_cases hlen hfill
      obtain ⟨rfl, hlength⟩ := hvalue bytes (hfinished bytes rfl)
      have hle := congrArg List.length hgot
      rw [List.length_append, List.length_append, hlength] at hle
      exact absurd hshort (Nat.not_lt.2 (Nat.le.intro hle.symm))
    · obtain ⟨rfl, hunread⟩ := Socket.of_fill_waiting hfill
      have hlen' : (soFar ++ socket.unread).length ≤ n := by
        rw [List.length_append]
        exact Nat.le_of_lt hshort
      obtain ⟨hready, hlater⟩ := ready_of_awaitFrom hlen' hrest
      rw [Socket.unread_receive, hunread, List.nil_append, List.length_append] at hready hlater
      exact ⟨(readyFrom_of_lt hshort).trans hready, fun m =>
        (readyFrom_of_lt (Nat.lt_add_right m hshort)).trans (hlater m)⟩
  · rw [awaitFrom_finished (Socket.fill_of_le henough)] at h
    obtain ⟨-, rfl⟩ := Prod.mk.inj h
    refine ⟨readyFrom_of_le henough, fun m => ?_⟩
    have hthere : there = (socket.unread.drop (n - soFar.length)).length + n := by
      rw [List.length_drop]
      omega
    rw [hthere, Nat.add_comm n m]
    exact readyFrom_add n
termination_by coming.length

theorem read_ready {l l' : Line} {n : Nat} {timeout patience : Option Nat} {bytes : Bytes}
    (h : l.read n timeout patience = (.finished bytes, l')) :
    l.ready? n = some l'.now ∧ ∀ m, l.ready? (n + m) = l'.ready? m := by
  obtain ⟨outcome, l₁, hawait⟩ : ∃ outcome l₁,
    awaitFrom (fun soFar socket => socket.fill n soFar) (timeout.map (l.now + ·)) patience []
      l.socket l.now l.coming = (outcome, l₁) := ⟨_, _, rfl⟩
  rw [read, await, hawait] at h
  obtain ⟨rfl, rfl⟩ := Prod.mk.inj h
  obtain ⟨hready, hlater⟩ := ready_of_awaitFrom (Nat.zero_le n) hawait
  rw [List.length_nil, Nat.zero_add] at hready hlater
  exact ⟨by rw [l₁.ahead_settle.2]; exact hready, fun m => by rw [ready?_settle]; exact hlater m⟩

/-- A read gets its bytes if they are ready in time. -/
theorem read_of_ready {l : Line} (hlawful : l.Lawful) {bytes rest : Bytes} {timeout t : Nat}
    (hahead : l.ahead = bytes ++ rest) (hready : l.ready? bytes.length = some t)
    (ht : t ≤ l.now + timeout) :
    ∃ l', l.read bytes.length (some timeout) none = (.finished bytes, l') ∧ l'.ahead = rest := by
  obtain ⟨-, henough⟩ := le_of_readyFrom hready ht
  have hthere : bytes.length ≤ (l.thereBy (some (l.now + timeout))).length := by
    rwa [thereBy, List.length_append]
  have hverdict := (read_decided hlawful bytes.length (some timeout)).1
  rw [Option.map_some, verdict, if_pos hthere] at hverdict
  obtain ⟨l', hread⟩ : ∃ l', l.read bytes.length (some timeout) none = (.finished _, l') :=
    ⟨_, Prod.ext hverdict rfl⟩
  obtain ⟨got, hgot, hfinished⟩ := read_ahead hread
  obtain ⟨rfl, hlength⟩ := hfinished _ rfl
  obtain ⟨hbytes, hrest⟩ := List.append_inj (hgot.symm.trans hahead) hlength
  exact ⟨l', by rw [hread, hbytes], hrest⟩

/-! ## The line after a read -/

/-- An attempt does not change what is known of the end of the stream, but that a reset is reported
once. -/
theorem ends_fill (s : Socket) (n : Nat) (soFar : Bytes) (hreset : s.reset = false) :
    (s.fill n soFar).2.ended = s.ended ∧ (s.fill n soFar).2.reset = false := by
  rw [Socket.fill, Socket.drained]
  dsimp only
  split
  · exact ⟨rfl, hreset⟩
  · rw [hreset, if_neg Bool.false_ne_true]
    split <;> exact ⟨rfl, rfl⟩

theorem Lawful.receive {socket : Socket} {now time : Nat} {arrival : Arrival} {later : Schedule}
    (h : Lawful ⟨socket, now, (time, arrival) :: later⟩) (now' : Nat) :
    Lawful ⟨socket.receive arrival, now', later⟩ := by
  obtain ⟨hlater, hwhole⟩ := h.coming.tail
  refine ⟨?_, Socket.reset_receive h.reset hwhole⟩
  show Schedule.Lawful (socket.receive arrival).ended later
  rwa [Socket.ended_receive]

theorem Lawful.settle {l : Line} (h : l.Lawful) : l.settle.Lawful := by
  obtain ⟨socket, now, coming⟩ := l
  show (settleFrom socket now coming).Lawful
  induction coming generalizing socket with
  | nil => exact h
  | cons item later ih =>
    obtain ⟨time, arrival⟩ := item
    rw [settleFrom]
    split
    · exact ih _ (h.receive now)
    · exact h

theorem Lawful.awaitFrom {n now : Nat} {soFar : Bytes} {socket : Socket} {coming : Schedule}
    {deadline patience : Option Nat} {outcome : Outcome ConnectionError Bytes} {l : Line}
    (hlawful : Lawful ⟨socket, now, coming⟩)
    (h : Line.awaitFrom (fun soFar socket => socket.fill n soFar) deadline patience soFar socket now
      coming = (outcome, l)) : l.Lawful := by
  have hends := ends_fill socket n soFar hlawful.reset
  rcases awaitFrom_cases h with ⟨progress, hfill, hcoming, -, -⟩
    | ⟨soFar', socket', time, arrival, later, hfill, rfl, hrest⟩
  · rw [hfill] at hends
    refine ⟨?_, hends.2⟩
    rw [hends.1, hcoming]
    exact hlawful.coming
  · rw [hfill] at hends
    have hlawful' : Lawful ⟨socket', now, (time, arrival) :: later⟩ := by
      refine ⟨?_, hends.2⟩
      show Schedule.Lawful socket'.ended _
      rw [hends.1]
      exact hlawful.coming
    exact Lawful.awaitFrom (hlawful'.receive (max now time)) hrest
termination_by coming.length

theorem Lawful.read {l l' : Line} (hlawful : l.Lawful) {n : Nat} {timeout patience : Option Nat}
    {outcome : Outcome ConnectionError Bytes} (h : l.read n timeout patience = (outcome, l')) :
    l'.Lawful := by
  obtain ⟨outcome₁, l₁, hawait⟩ : ∃ outcome₁ l₁,
    Line.awaitFrom (fun soFar socket => socket.fill n soFar) (timeout.map (l.now + ·)) patience []
      l.socket l.now l.coming = (outcome₁, l₁) := ⟨_, _, rfl⟩
  rw [Line.read, await, hawait] at h
  obtain ⟨rfl, rfl⟩ := Prod.mk.inj h
  exact (hlawful.awaitFrom hawait).settle

theorem now_le_read (l : Line) (n : Nat) (timeout patience : Option Nat) :
    l.now ≤ (l.read n timeout patience).2.now := by
  rw [read, await, (ahead_settle _).2]
  obtain ⟨_, _, _, hnow, _⟩ := awaitFrom_fill (l := (awaitFrom (fun soFar socket =>
    socket.fill n soFar) (timeout.map (l.now + ·)) patience [] l.socket l.now l.coming).2)
    (Nat.zero_le n) rfl
  exact hnow

end Line

/-! ## Responses -/

namespace Frame

/-- Reads that keep to a timeout: each ends, and by the time that it gives up. -/
structure Punctual {τ : Type} (read : Reader τ) (now : τ → Nat) (timeout : Nat) : Prop where
  ends : ∀ n t, (read n t).1 ≠ .abandoned
  begun : ∀ n t, now t ≤ now (read n t).2
  inTime : ∀ n t, now (read n t).2 ≤ now t + timeout

theorem punctual_reader (timeout : Nat) :
    Punctual (Line.reader (some timeout) none) Line.now timeout where
  ends n l := (l.read_timed n timeout).1
  begun n l := l.now_le_read n _ _
  inTime n l := (l.read_timed n timeout).2.1

/-- There is nothing to read after a header, because it announces no payload or one that is too
large. -/
def Bare (limit : Nat) (header : ResponseHeader) : Prop :=
  header.dataSize.toNat = 0 ∨ limit < header.dataSize.toNat

theorem decoded_eq_abandoned {α : Type} {decode? : Bytes → Option α}
    {outcome : Outcome ConnectionError Bytes} (h : decoded decode? outcome = .abandoned) :
    outcome = .abandoned := by
  cases outcome with
  | finished bytes =>
    rw [decoded] at h
    split at h <;> cases h
  | failed e => cases h
  | abandoned => rfl

section Punctual

variable {τ : Type} {read : Reader τ} {now : τ → Nat} {timeout : Nat}

/-- A payload takes no time if there is nothing to read, and one timeout otherwise. -/
theorem Punctual.recvPayload (h : Punctual read now timeout) (limit : Nat) (header : ResponseHeader)
    (t : τ) :
    let result := Frame.recvPayload read limit header.dataSize t
    result.1 ≠ .abandoned ∧ now t ≤ now result.2 ∧ now result.2 ≤ now t + timeout
      ∧ (Bare limit header → result.2 = t) := by
  have hstill : now t ≤ now t ∧ now t ≤ now t + timeout := ⟨Nat.le_refl _, Nat.le_add_right _ _⟩
  rw [Frame.recvPayload, payloadNeed]
  rcases Nat.lt_or_ge limit header.dataSize.toNat with hlarge | hfits
  · rw [if_pos hlarge]
    exact ⟨by simp, hstill.1, hstill.2, fun _ => rfl⟩
  · rw [if_neg (Nat.not_lt.2 hfits)]
    cases hsize : header.dataSize.toNat with
    | zero => exact ⟨by simp, hstill.1, hstill.2, fun _ => rfl⟩
    | succ n =>
      have hends : decoded some (read (n + 1) t).1 ≠ .abandoned := fun habandoned =>
        h.ends _ t (decoded_eq_abandoned habandoned)
      refine ⟨hends, h.begun _ t, h.inTime _ t, fun hbare => ?_⟩
      rcases hbare with hzero | hlarge
      · exact absurd (hsize.symm.trans hzero) (Nat.succ_ne_zero n)
      · exact absurd hlarge (Nat.not_lt.2 hfits)

/-- **A response takes at most one timeout for its header, and another one for its payload** if
there is any to read. -/
theorem Punctual.recvResponse (h : Punctual read now timeout) (limit : Nat) (t : τ) :
    let header := recvResponseHeader read t
    let result := Frame.recvResponse read limit t
    result.1 ≠ .abandoned
      ∧ now t ≤ now header.2 ∧ now header.2 ≤ now t + timeout
      ∧ now header.2 ≤ now result.2 ∧ now result.2 ≤ now header.2 + timeout
      ∧ ((∀ received, header.1 = .finished received → Bare limit received) →
        result.2 = header.2) := by
  intro header result
  have hends : header.1 ≠ .abandoned := fun habandoned =>
    h.ends _ t (decoded_eq_abandoned habandoned)
  have hresult : result = andThen header fun received t =>
      andThen (Frame.recvPayload read limit received.dataSize t) fun payload t =>
        (.finished (received, payload), t) := recvResponse_eq read limit t
  have hheader := And.intro (h.begun Header.size t) (h.inTime Header.size t)
  change now t ≤ now header.2 ∧ now header.2 ≤ now t + timeout at hheader
  rw [hresult]
  generalize header = received at hends hheader
  obtain ⟨outcome, t₁⟩ := received
  cases outcome with
  | abandoned => exact absurd rfl hends
  | failed e =>
    exact ⟨nofun, hheader.1, hheader.2, Nat.le_refl _, Nat.le_add_right _ _, fun _ => rfl⟩
  | finished received =>
    obtain ⟨hended, hbegun, hinTime, hbare⟩ := h.recvPayload limit received t₁
    rw [andThen_finished]
    generalize Frame.recvPayload read limit received.dataSize t₁ = payload at *
    obtain ⟨outcome, t₂⟩ := payload
    refine ⟨?_, hheader.1, hheader.2, ?_⟩
    · cases outcome with
      | abandoned => exact absurd rfl hended
      | failed e => exact nofun
      | finished payload => exact nofun
    · cases outcome <;> exact ⟨hbegun, hinTime, fun h => hbare (h received rfl)⟩

end Punctual

section Complete

variable {l l' : Line} {limit timeout : Nat} {header : ResponseHeader} {payload rest : Bytes}

/-- A payload that was received was ready in time. -/
theorem of_recvPayload {size : UInt32}
    (h : recvPayload (Line.reader (some timeout) none) limit size l = (.finished payload, l')) :
    payload.length = size.toNat ∧ payload.length ≤ limit ∧ l.ahead = payload ++ l'.ahead
      ∧ l.ready? payload.length = some l'.now ∧ l'.now ≤ l.now + timeout := by
  rw [recvPayload, payloadNeed] at h
  rcases Nat.lt_or_ge limit size.toNat with hlarge | hfits
  · rw [if_pos hlarge] at h
    cases h
  · rw [if_neg (Nat.not_lt.2 hfits)] at h
    cases hsize : size.toNat with
    | zero =>
      rw [hsize] at h
      obtain ⟨rfl, rfl⟩ : [] = payload ∧ l = l' :=
        ⟨Outcome.finished.inj (Prod.mk.inj h).1, (Prod.mk.inj h).2⟩
      exact ⟨rfl, Nat.zero_le limit, rfl, Line.readyFrom_of_le (Nat.zero_le _),
        Nat.le_add_right _ _⟩
    | succ n =>
      rw [hsize] at h hfits
      obtain ⟨hdecoded, rfl⟩ := Prod.mk.inj h
      obtain ⟨bytes, hbytes, hsome⟩ := decoded_eq_finished hdecoded
      obtain rfl := Option.some.inj hsome
      have hread : l.read (n + 1) (some timeout) none = (.finished bytes, _) := Prod.ext hbytes rfl
      obtain ⟨got, hahead, hfinished⟩ := Line.read_ahead hread
      obtain ⟨rfl, hlength⟩ := hfinished _ rfl
      rw [← hlength] at hfits
      refine ⟨hlength, hfits, hahead, ?_, (l.read_timed (n + 1) timeout).2.1⟩
      rw [hlength]
      exact (Line.read_ready hread).1

/-- A payload that is ready in time is received. -/
theorem recvPayload_of_ready (hlawful : l.Lawful) {size : UInt32} {t : Nat}
    (hsize : payload.length = size.toNat) (hfits : payload.length ≤ limit)
    (hahead : l.ahead = payload ++ rest) (hready : l.ready? payload.length = some t)
    (ht : t ≤ l.now + timeout) :
    ∃ l', recvPayload (Line.reader (some timeout) none) limit size l = (.finished payload, l') := by
  have hneed : payloadNeed limit size = .ok payload.length := by
    rw [payloadNeed, ← hsize, if_neg (Nat.not_lt.2 hfits)]
  rw [recvPayload, hneed]
  cases payload with
  | nil => exact ⟨l, rfl⟩
  | cons byte bytes =>
    obtain ⟨l', hread, -⟩ := Line.read_of_ready hlawful hahead hready ht
    refine ⟨l', ?_⟩
    show (decoded some (l.read (byte :: bytes).length (some timeout) none).1,
      (l.read (byte :: bytes).length (some timeout) none).2) = _
    rw [hread]
    rfl

/-- A response comes in time if its header does, and its payload does after that: `timeout` is the
time for each of them. -/
def InTime (l : Line) (timeout : Nat) (payload : Bytes) (done : Nat) : Prop :=
  ∃ begun, l.ready? Header.size = some begun ∧ begun ≤ l.now + timeout
    ∧ l.ready? (Header.size + payload.length) = some done ∧ done ≤ begun + timeout

/-- A response that was received came in time, and the wait was over when its last byte was
there. -/
theorem of_recvResponse
    (h : recvResponse (Line.reader (some timeout) none) limit l
      = (.finished (header, payload), l')) :
    payload.length = header.dataSize.toNat ∧ payload.length ≤ limit
      ∧ l.ahead = header.encode ++ payload ++ l'.ahead ∧ InTime l timeout payload l'.now := by
  rw [recvResponse_eq] at h
  obtain ⟨received, l₁, hheader, hnext⟩ := andThen_eq_finished h
  obtain ⟨body, l₂, hpayload, hlast⟩ := andThen_eq_finished hnext
  obtain ⟨⟨rfl, rfl⟩, rfl⟩ : (received = header ∧ body = payload) ∧ l₂ = l' := by
    obtain ⟨hvalue, hline⟩ := Prod.mk.inj hlast
    exact ⟨Prod.mk.inj (Outcome.finished.inj hvalue), hline⟩
  have hread : l.read Header.size (some timeout) none = (.finished received.encode, l₁) := by
    have hheading : recvHeading (Line.reader (some timeout) none) .response l
        = (.finished (.response received), l₁) := by
      rw [recvHeading, hheader, andThen_finished]
    exact read_of_recvHeading hheading
  obtain ⟨got, hahead, hfinished⟩ := Line.read_ahead hread
  obtain ⟨rfl, -⟩ := hfinished _ rfl
  obtain ⟨hready, hlater⟩ := Line.read_ready hread
  obtain ⟨hsize, hfits, hahead₁, hready₁, ht⟩ := of_recvPayload hpayload
  have hbegun := (l.read_timed Header.size timeout).2.1
  rw [hread] at hbegun
  refine ⟨hsize, hfits, ?_, l₁.now, hready, hbegun, (hlater _).trans hready₁, ht⟩
  rw [hahead, hahead₁, List.append_assoc]

/-- A response that comes in time is received. -/
theorem recvResponse_of_inTime (hlawful : l.Lawful) {done : Nat}
    (hsize : payload.length = header.dataSize.toNat) (hfits : payload.length ≤ limit)
    (hahead : l.ahead = header.encode ++ payload ++ rest) (h : InTime l timeout payload done) :
    ∃ l', recvResponse (Line.reader (some timeout) none) limit l
      = (.finished (header, payload), l') := by
  obtain ⟨begun, hready, hbegun, hready', hdone⟩ := h
  rw [List.append_assoc] at hahead
  rw [← header.length_encode] at hready
  obtain ⟨l₁, hread, hahead₁⟩ := Line.read_of_ready hlawful hahead hready hbegun
  obtain ⟨hnow, hlater⟩ := Line.read_ready hread
  obtain rfl := Option.some.inj (hready.symm.trans hnow)
  rw [header.length_encode] at hread hlater
  obtain ⟨l', hpayload⟩ := recvPayload_of_ready (hlawful.read hread) hsize hfits hahead₁
    ((hlater _).symm.trans hready') hdone
  refine ⟨l', ?_⟩
  have hheader : recvResponseHeader (Line.reader (some timeout) none) l
      = (.finished header, l₁) := by
    show (decoded ResponseHeader.decode? (l.read Header.size (some timeout) none).1,
      (l.read Header.size (some timeout) none).2) = _
    rw [hread, decoded, ResponseHeader.decode?_encode]
  rw [recvResponse_eq, hheader, andThen_finished, hpayload, andThen_finished]

end Complete

end Frame
end TokenBroker
