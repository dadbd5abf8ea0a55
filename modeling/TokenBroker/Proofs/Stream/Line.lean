import TokenBroker.Stream.Line
/-!
# What a read finds, and what it leaves

A read of exactly so many bytes may find a part of them, wait, and find the rest piece by piece.

* `Socket.fill_cases` is one attempt: what it has, it took off the front of the unread bytes.
* `Line.awaitFrom_cases` is waiting, arrival by arrival, and `Line.awaitFrom_fill` a read with all
  of its attempts.
* `Line.ahead` are the bytes that are there or still to come.  `Line.read_ahead` says that a read
  takes its bytes off their front and loses none, whatever the outcome.
* `Line.Brings` says that so many of them come, in time and before the stream ends, in whatever
  pieces; `Line.Brings.read` says that a read gets its bytes then.
-/

set_option autoImplicit false

namespace TokenBroker

/-! ## One attempt -/

namespace Socket

theorem fill_of_le {s : Socket} {n : Nat} {soFar : Bytes} (h : n ≤ soFar.length + s.unread.length) :
    s.fill n soFar = (.finished (soFar ++ s.unread.take (n - soFar.length)),
      { s with unread := s.unread.drop (n - soFar.length) }) := by
  have hle : n - soFar.length ≤ s.unread.length := by omega
  simp only [fill, if_pos hle]

theorem fill_of_lt {s : Socket} {n : Nat} {soFar : Bytes} (hended : s.ended = false)
    (hreset : s.reset = false) (h : soFar.length + s.unread.length < n) :
    s.fill n soFar
      = (.waiting (soFar ++ s.unread), { s with unread := [], noted := false }) := by
  have hlt : ¬ n - soFar.length ≤ s.unread.length := by omega
  simp only [fill, if_neg hlt, drained, hended, hreset, Bool.false_eq_true, if_false]

/-- A part that will never be complete fails. -/
theorem fill_of_over {s : Socket} {n : Nat} {soFar : Bytes}
    (hover : ¬ (s.ended = false ∧ s.reset = false)) (h : soFar.length + s.unread.length < n) :
    ∃ error s', s.fill n soFar = (.failed error, s') := by
  have hlt : ¬ n - soFar.length ≤ s.unread.length := by omega
  simp only [fill, if_neg hlt, drained]
  by_cases hreset : s.reset = true
  · rw [if_pos hreset]
    exact ⟨_, _, rfl⟩
  · have hended : s.ended = true := by
      rw [← Bool.not_eq_false]
      exact fun hended => hover ⟨hended, Bool.not_eq_true _ ▸ hreset⟩
    rw [if_neg hreset, if_pos hended]
    exact ⟨_, _, rfl⟩

/-- An attempt that does not finish a read found too little. -/
theorem lt_of_fill {s s' : Socket} {n : Nat} {soFar : Bytes} {progress : Progress Bytes Bytes}
    (hfill : s.fill n soFar = (progress, s')) (hshort : ∀ value, progress ≠ .finished value) :
    soFar.length + s.unread.length < n := by
  refine Nat.not_le.1 fun henough => ?_
  rw [fill_of_le henough] at hfill
  exact hshort _ (Prod.mk.inj hfill).1.symm

/-- An attempt that waits for more took what there was. -/
theorem of_fill_waiting {s s' : Socket} {n : Nat} {soFar got : Bytes}
    (hfill : s.fill n soFar = (.waiting got, s')) : got = soFar ++ s.unread ∧ s'.unread = [] := by
  have hshort := lt_of_fill hfill nofun
  by_cases halive : s.ended = false ∧ s.reset = false
  · rw [fill_of_lt halive.1 halive.2 hshort] at hfill
    obtain ⟨hgot, rfl⟩ := Prod.mk.inj hfill
    exact ⟨(Progress.waiting.inj hgot).symm, rfl⟩
  · obtain ⟨error, socket, hfailed⟩ := fill_of_over halive hshort
    rw [hfailed] at hfill
    cases hfill

theorem fill_at_once {s : Socket} {n : Nat} (henough : n ≤ s.unread.length) :
    s.fill n [] = (.finished (s.unread.take n), { s with unread := s.unread.drop n }) := by
  rw [fill_of_le (by rwa [List.length_nil, Nat.zero_add]), List.length_nil, Nat.sub_zero,
    List.nil_append]

theorem ended_receive_bytes (s : Socket) (chunk : Bytes) :
    (s.receive (.bytes chunk)).ended = s.ended := by
  rw [receive]
  split <;> rfl

theorem reset_receive_bytes (s : Socket) (chunk : Bytes) :
    (s.receive (.bytes chunk)).reset = s.reset := by
  rw [receive]
  split <;> rfl

/-- One attempt at a read takes what it has off the front of the unread bytes. -/
theorem fill_cases {s s' : Socket} {n : Nat} {soFar : Bytes}
    {progress : Progress Bytes Bytes} (hlen : soFar.length ≤ n)
    (h : s.fill n soFar = (progress, s')) :
    ∃ got, soFar ++ s.unread = got ++ s'.unread
      ∧ (∀ value, progress = .finished value → got = value ∧ value.length = n)
      ∧ ∀ soFar', progress = .waiting soFar' → got = soFar' ∧ soFar'.length ≤ n := by
  rcases Nat.lt_or_ge (soFar.length + s.unread.length) n with hshort | henough
  · have hneed : ¬ n - soFar.length ≤ s.unread.length := by omega
    simp only [fill, if_neg hneed, drained] at h
    refine ⟨soFar ++ s.unread, ?_, ?_, ?_⟩
    · have hunread : s'.unread = [] := by
        split at h
        · rw [← (Prod.mk.inj h).2]
        · split at h <;> rw [← (Prod.mk.inj h).2]
      rw [hunread, List.append_nil]
    · rintro value rfl
      split at h
      · cases (Prod.mk.inj h).1
      · split at h <;> cases (Prod.mk.inj h).1
    · rintro soFar' rfl
      split at h
      · cases (Prod.mk.inj h).1
      · split at h
        · cases (Prod.mk.inj h).1
        · obtain rfl := Progress.waiting.inj (Prod.mk.inj h).1
          exact ⟨rfl, by rw [List.length_append]; omega⟩
  · rw [fill_of_le henough] at h
    obtain ⟨rfl, rfl⟩ := Prod.mk.inj h
    refine ⟨soFar ++ s.unread.take (n - soFar.length), ?_, ?_, ?_⟩
    · rw [List.append_assoc, List.take_append_drop]
    · intro value hvalue
      obtain rfl := Progress.finished.inj hvalue
      refine ⟨rfl, ?_⟩
      rw [List.length_append, List.length_take]
      omega
    · intro soFar' hwaiting
      cases hwaiting

end Socket

/-- The bytes that are to arrive. -/
def Schedule.content (coming : Schedule) : Bytes := coming.flatMap fun item => item.2.content

theorem Schedule.content_append (a b : Schedule) : content (a ++ b) = content a ++ content b :=
  List.flatMap_append

/-- Chunks that arrive, each at its time. -/
def Schedule.ofChunks (chunks : List (Nat × Bytes)) : Schedule :=
  chunks.map fun chunk => (chunk.1, .bytes chunk.2)

theorem Schedule.content_ofChunks (chunks : List (Nat × Bytes)) :
    content (ofChunks chunks) = chunks.flatMap (·.2) := by
  rw [content, ofChunks, List.flatMap_map]
  rfl

namespace Line

/-! ## Attempt after attempt -/

theorem expire_cases {α : Type} (deadline patience : Option Nat) (now : Nat) :
    now ≤ (expire (α := α) deadline patience now).2
      ∧ ∀ value, (expire (α := α) deadline patience now).1 ≠ .finished value := by
  rw [expire]
  split
  · exact ⟨Nat.le_refl now, fun value h => by cases h⟩
  · split
    · exact ⟨Nat.le_max_left _ _, fun value h => by cases h⟩
    · exact ⟨Nat.le_max_left _ _, fun value h => by cases h⟩

section Await

variable {ρ α : Type} {attempt : ρ → Socket → Progress ρ α × Socket}
  {deadline patience : Option Nat} {soFar soFar' : ρ} {socket socket' : Socket} {now : Nat}
  {coming : Schedule} {outcome : Outcome ConnectionError α} {l : Line}

theorem awaitFrom_finished {value : α}
    (hattempt : attempt soFar socket = (.finished value, socket')) :
    awaitFrom attempt deadline patience soFar socket now coming
      = (.finished value, ⟨socket', now, coming⟩) := by
  rw [awaitFrom.eq_def, hattempt]

theorem awaitFrom_failed {e : ConnectionError}
    (hattempt : attempt soFar socket = (.failed e, socket')) :
    awaitFrom attempt deadline patience soFar socket now coming
      = (.failed e, ⟨socket', now, coming⟩) := by
  rw [awaitFrom.eq_def, hattempt]

theorem awaitFrom_expired (hattempt : attempt soFar socket = (.waiting soFar', socket'))
    (hnone : ∀ item ∈ coming.head?, ¬ within item.1 (earlier deadline patience) = true) :
    awaitFrom attempt deadline patience soFar socket now coming
      = ((expire deadline patience now).1,
          ⟨socket', (expire (α := α) deadline patience now).2, coming⟩) := by
  rw [awaitFrom.eq_def, hattempt]
  cases coming with
  | nil => rfl
  | cons item later => exact if_neg (hnone item rfl)

theorem awaitFrom_waiting {time : Nat} {arrival : Arrival}
    (hattempt : attempt soFar socket = (.waiting soFar', socket'))
    (hwithin : within time (earlier deadline patience) = true) :
    awaitFrom attempt deadline patience soFar socket now ((time, arrival) :: coming)
      = awaitFrom attempt deadline patience soFar' (socket'.receive arrival) (max now time)
          coming := by
  rw [awaitFrom.eq_def, hattempt]
  exact if_pos hwithin

/-- Waiting comes to an end after an attempt, with or without a result, or goes on with the next
arrival. -/
theorem awaitFrom_cases
    (h : awaitFrom attempt deadline patience soFar socket now coming = (outcome, l)) :
    (∃ progress, attempt soFar socket = (progress, l.socket) ∧ l.coming = coming ∧ now ≤ l.now
        ∧ ∀ value, outcome = .finished value → progress = .finished value)
      ∨ ∃ soFar' socket' time arrival later, attempt soFar socket = (.waiting soFar', socket')
        ∧ coming = (time, arrival) :: later
        ∧ awaitFrom attempt deadline patience soFar' (socket'.receive arrival) (max now time) later
          = (outcome, l) := by
  obtain ⟨progress, socket', hattempt⟩ : ∃ progress socket',
    attempt soFar socket = (progress, socket') := ⟨_, _, rfl⟩
  obtain ⟨hlater, hnot⟩ := expire_cases (α := α) deadline patience now
  rw [awaitFrom.eq_def, hattempt] at h
  cases progress with
  | finished value =>
    obtain ⟨rfl, rfl⟩ := Prod.mk.inj h
    exact .inl ⟨_, hattempt, rfl, Nat.le_refl now, fun value' h' => by cases h'; rfl⟩
  | failed e =>
    obtain ⟨rfl, rfl⟩ := Prod.mk.inj h
    exact .inl ⟨_, hattempt, rfl, Nat.le_refl now, fun value' h' => by cases h'⟩
  | waiting soFar' =>
    cases coming with
    | nil =>
      obtain ⟨rfl, rfl⟩ := Prod.mk.inj h
      exact .inl ⟨_, hattempt, rfl, hlater, fun value' h' => absurd h' (hnot value')⟩
    | cons item later =>
      obtain ⟨time, arrival⟩ := item
      dsimp only at h
      split at h
      · exact .inr ⟨soFar', socket', time, arrival, later, hattempt, rfl, h⟩
      · obtain ⟨rfl, rfl⟩ := Prod.mk.inj h
        exact .inl ⟨_, hattempt, rfl, hlater, fun value' h' => absurd h' (hnot value')⟩

end Await

/-- The last attempt of a read leaves what it does not take. -/
theorem fill_last {n : Nat} {soFar : Bytes} {socket : Socket} {progress : Progress Bytes Bytes}
    {outcome : Outcome ConnectionError Bytes} {l : Line} (hlen : soFar.length ≤ n)
    (hfill : socket.fill n soFar = (progress, l.socket))
    (hfinished : ∀ bytes, outcome = .finished bytes → progress = .finished bytes) :
    ∃ got, soFar ++ (socket.unread ++ Schedule.content []) = got ++ l.socket.unread
      ∧ ∀ bytes, outcome = .finished bytes → got = bytes ∧ bytes.length = n := by
  obtain ⟨got, hgot, hvalue, -⟩ := Socket.fill_cases hlen hfill
  refine ⟨got, ?_, fun bytes hbytes => hvalue bytes (hfinished bytes hbytes)⟩
  exact (congrArg (soFar ++ ·) (List.append_nil _)).trans hgot

/-- Reading, attempt by attempt: of what was there or has arrived meanwhile, everything is read or
unread. -/
theorem awaitFrom_fill {n : Nat} {deadline patience : Option Nat} {soFar : Bytes} {socket : Socket}
    {now : Nat} {coming : Schedule} {outcome : Outcome ConnectionError Bytes} {l : Line}
    (hlen : soFar.length ≤ n)
    (h : awaitFrom (fun soFar socket => socket.fill n soFar) deadline patience soFar socket now
      coming = (outcome, l)) :
    ∃ past got, coming = past ++ l.coming ∧ now ≤ l.now ∧ (∀ item ∈ past, item.1 ≤ l.now)
      ∧ soFar ++ (socket.unread ++ Schedule.content past) = got ++ l.socket.unread
      ∧ ∀ bytes, outcome = .finished bytes → got = bytes ∧ bytes.length = n := by
  induction coming generalizing soFar socket now with
  | nil =>
    rcases awaitFrom_cases h with ⟨progress, hfill, hcoming, hnow, hfinished⟩
      | ⟨_, _, _, _, _, _, hcons, _⟩
    · obtain ⟨got, hgot⟩ := fill_last hlen hfill hfinished
      exact ⟨[], got, hcoming.symm, hnow, fun item h => (nomatch h), hgot⟩
    · cases hcons
  | cons item later ih =>
    rcases awaitFrom_cases h with ⟨progress, hfill, hcoming, hnow, hfinished⟩
      | ⟨soFar', socket', time, arrival, _, hfill, hcons, hrest⟩
    · obtain ⟨got, hgot⟩ := fill_last hlen hfill hfinished
      exact ⟨[], got, hcoming.symm, hnow, fun item h => (nomatch h), hgot⟩
    · obtain ⟨rfl, rfl⟩ := List.cons.inj hcons
      obtain ⟨got, hgot, -, hwaiting⟩ := Socket.fill_cases hlen hfill
      obtain ⟨rfl, hlen'⟩ := hwaiting soFar' rfl
      obtain ⟨past, got', hpast, hnow, hby, hgot', hfinished⟩ := ih hlen' hrest
      refine ⟨(time, arrival) :: past, got', by rw [hpast, List.cons_append],
        Nat.le_trans (Nat.le_max_left now time) hnow, ?_, ?_, hfinished⟩
      · intro item hitem
        rcases List.mem_cons.1 hitem with rfl | hitem
        · exact Nat.le_trans (Nat.le_max_right now time) hnow
        · exact hby item hitem
      · have hcontent : Schedule.content ((time, arrival) :: past)
          = arrival.content ++ Schedule.content past := List.flatMap_cons
        rw [hcontent, ← List.append_assoc, hgot, ← hgot', Socket.unread_receive]
        simp only [List.append_assoc]

/-! ## Nothing is lost -/

/-- The bytes that a reader has before it: those that have arrived, and those that will. -/
def ahead (l : Line) : Bytes := l.socket.unread ++ Schedule.content l.coming

theorem ahead_settle (l : Line) : l.settle.ahead = l.ahead ∧ l.settle.now = l.now := by
  obtain ⟨socket, now, coming⟩ := l
  show (settleFrom socket now coming).ahead = _ ∧ (settleFrom socket now coming).now = now
  induction coming generalizing socket with
  | nil => exact ⟨rfl, rfl⟩
  | cons item later ih =>
    obtain ⟨time, arrival⟩ := item
    rw [settleFrom]
    split
    · obtain ⟨hahead, hnow⟩ := ih (socket.receive arrival)
      refine ⟨hahead.trans ?_, hnow⟩
      rw [ahead, Socket.unread_receive, List.append_assoc]
      rfl
    · exact ⟨rfl, rfl⟩

/-- **A read takes its bytes off the front of those ahead.** -/
theorem read_ahead {l l' : Line} {n : Nat} {timeout patience : Option Nat}
    {outcome : Outcome ConnectionError Bytes} (h : l.read n timeout patience = (outcome, l')) :
    ∃ got, l.ahead = got ++ l'.ahead
      ∧ ∀ bytes, outcome = .finished bytes → got = bytes ∧ bytes.length = n := by
  obtain ⟨outcome₁, l₁, hawait⟩ : ∃ outcome₁ l₁,
    awaitFrom (fun soFar socket => socket.fill n soFar) (timeout.map (l.now + ·)) patience []
      l.socket l.now l.coming = (outcome₁, l₁) := ⟨_, _, rfl⟩
  obtain ⟨past, got, hpast, -, -, hgot, hfinished⟩ := awaitFrom_fill (Nat.zero_le n) hawait
  rw [read, await, hawait] at h
  obtain ⟨rfl, rfl⟩ := Prod.mk.inj h
  refine ⟨got, ?_, hfinished⟩
  rw [l₁.ahead_settle.1, ahead, ahead, hpast, Schedule.content_append, ← List.append_assoc,
    ← List.append_assoc, ← hgot, List.nil_append]

/-! ## Bytes that come in time -/

/-- So many bytes are there, or come before the limit and while the stream goes on, in whatever
pieces. -/
inductive Supplies (limit : Option Nat) (n : Nat) : Socket → Schedule → Prop
  | there {socket : Socket} {coming : Schedule} (henough : n ≤ socket.unread.length) :
    Supplies limit n socket coming
  | arriving {socket : Socket} {time : Nat} {chunk : Bytes} {later : Schedule}
    (hended : socket.ended = false) (hreset : socket.reset = false)
    (hwithin : within time limit = true)
    (hrest : Supplies limit n (socket.receive (.bytes chunk)) later) :
    Supplies limit n socket ((time, .bytes chunk) :: later)

/-- Bytes that were read are no longer there, and no longer needed. -/
theorem Supplies.mono {limit limit' : Option Nat} {n n' : Nat} {socket socket' : Socket}
    {coming : Schedule} (h : Supplies limit n socket coming)
    (hlimit : ∀ time, within time limit = true → within time limit' = true)
    (hended : socket'.ended = socket.ended) (hreset : socket'.reset = socket.reset)
    (hneed : n' + socket.unread.length ≤ n + socket'.unread.length) :
    Supplies limit' n' socket' coming := by
  induction h generalizing socket' with
  | there henough => exact .there (by omega)
  | @arriving socket time chunk later hgoes hwhole hwithin _ ih =>
    refine .arriving (hended.trans hgoes) (hreset.trans hwhole) (hlimit time hwithin)
      (ih ?_ ?_ ?_)
    · rw [Socket.ended_receive_bytes, Socket.ended_receive_bytes, hended]
    · rw [Socket.reset_receive_bytes, Socket.reset_receive_bytes, hreset]
    · rw [Socket.unread_receive, Socket.unread_receive, List.length_append, List.length_append]
      omega

/-- A part that is there is read at once. -/
theorem Supplies.awaitFrom_at_once {deadline patience : Option Nat} {n m : Nat} {soFar : Bytes}
    {socket : Socket} {now : Nat} {coming : Schedule}
    (h : Supplies (earlier deadline patience) (n - soFar.length + m) socket coming)
    (henough : n ≤ soFar.length + socket.unread.length) :
    ∃ bytes l, awaitFrom (fun soFar socket => socket.fill n soFar) deadline patience soFar
        socket now coming = (.finished bytes, l)
      ∧ now ≤ l.now ∧ Supplies (earlier deadline patience) m l.socket l.coming := by
  refine ⟨_, _, awaitFrom_finished (Socket.fill_of_le henough), Nat.le_refl now,
    h.mono (fun _ h => h) rfl rfl ?_⟩
  rw [List.length_drop]
  omega

/-- A part that is supplied is read, and what is supplied beyond it stays so. -/
theorem Supplies.awaitFrom {deadline patience : Option Nat} {n m : Nat} {soFar : Bytes}
    {socket : Socket} {now : Nat} {coming : Schedule}
    (h : Supplies (earlier deadline patience) (n - soFar.length + m) socket coming) :
    ∃ bytes l, awaitFrom (fun soFar socket => socket.fill n soFar) deadline patience soFar
        socket now coming = (.finished bytes, l)
      ∧ now ≤ l.now ∧ Supplies (earlier deadline patience) m l.socket l.coming := by
  induction coming generalizing soFar socket now with
  | nil =>
    cases h with
    | there henough => exact awaitFrom_at_once (.there henough) (by omega)
  | cons item later ih =>
    rcases Nat.lt_or_ge (soFar.length + socket.unread.length) n with hshort | henough
    · cases h with
      | there henough => omega
      | @arriving _ time chunk _ hended hreset hwithin hrest =>
        rw [awaitFrom_waiting (Socket.fill_of_lt hended hreset hshort) hwithin]
        have hrest' : Supplies (earlier deadline patience)
            (n - (soFar ++ socket.unread).length + m)
            (({ socket with unread := [], noted := false } : Socket).receive (.bytes chunk))
            later := by
          refine hrest.mono (fun _ h => h) ?_ ?_ ?_
          · rw [Socket.ended_receive_bytes, Socket.ended_receive_bytes]
          · rw [Socket.reset_receive_bytes, Socket.reset_receive_bytes]
          · simp only [Socket.unread_receive, List.length_append, List.length_nil]
            omega
        obtain ⟨bytes, l, hawait, hnow, hsupplies⟩ := ih hrest'
        exact ⟨bytes, l, hawait, Nat.le_trans (Nat.le_max_left now time) hnow, hsupplies⟩
    · exact awaitFrom_at_once h henough

theorem length_unread_settleFrom (socket : Socket) (now : Nat) (coming : Schedule) :
    socket.unread.length ≤ (settleFrom socket now coming).socket.unread.length := by
  induction coming generalizing socket with
  | nil => exact Nat.le_refl _
  | cons item later ih =>
    obtain ⟨time, arrival⟩ := item
    rw [settleFrom]
    split
    · refine Nat.le_trans ?_ (ih (socket.receive arrival))
      rw [Socket.unread_receive, List.length_append]
      exact Nat.le_add_right _ _
    · exact Nat.le_refl _

theorem Supplies.settle {limit : Option Nat} {n : Nat} {l : Line}
    (h : Supplies limit n l.socket l.coming) :
    Supplies limit n l.settle.socket l.settle.coming := by
  obtain ⟨socket, now, coming⟩ := l
  show Supplies limit n (settleFrom socket now coming).socket (settleFrom socket now coming).coming
  change Supplies limit n socket coming at h
  induction h with
  | there henough => exact .there (Nat.le_trans henough (length_unread_settleFrom _ now _))
  | arriving hended hreset hwithin hrest ih =>
    rw [settleFrom]
    split
    · exact ih
    · exact .arriving hended hreset hwithin hrest

/-- So many bytes come before a read gives up that begins now. -/
def Brings (timeout patience : Option Nat) (n : Nat) (l : Line) : Prop :=
  Supplies (earlier (timeout.map (l.now + ·)) patience) n l.socket l.coming

/-- A read that begins later gives up later. -/
theorem within_mono {timeout patience : Option Nat} {now now' time : Nat} (hnow : now ≤ now')
    (h : within time (earlier (timeout.map (now + ·)) patience) = true) :
    within time (earlier (timeout.map (now' + ·)) patience) = true := by
  cases timeout with
  | none => exact h
  | some timeout =>
    have hlater : now + timeout ≤ now' + timeout := Nat.add_le_add_right hnow timeout
    cases patience with
    | none => exact decide_eq_true (Nat.le_trans (of_decide_eq_true h) hlater)
    | some patience =>
      have hmin : min (now + timeout) patience ≤ min (now' + timeout) patience :=
        Nat.le_min.2 ⟨Nat.le_trans (Nat.min_le_left _ _) hlater, Nat.min_le_right _ _⟩
      exact decide_eq_true (Nat.le_trans (of_decide_eq_true h) hmin)

/-- **A read gets bytes that come in time, in whatever pieces**, and leaves those behind them. -/
theorem Brings.read {l : Line} {timeout patience : Option Nat} {m : Nat} {front rest : Bytes}
    (h : l.Brings timeout patience (front.length + m)) (hahead : l.ahead = front ++ rest) :
    ∃ l', l.read front.length timeout patience = (.finished front, l')
      ∧ l'.ahead = rest ∧ l'.Brings timeout patience m := by
  have hnone : Supplies (earlier (timeout.map (l.now + ·)) patience)
    (front.length - ([] : Bytes).length + m) l.socket l.coming := h
  obtain ⟨bytes, l₁, hawait, hnow, hsupplies⟩ := hnone.awaitFrom
  have hread : l.read front.length timeout patience = (.finished bytes, l₁.settle) := by
    rw [Line.read, await, hawait]
  obtain ⟨got, hgot, hfinished⟩ := read_ahead hread
  obtain ⟨rfl, hlength⟩ := hfinished bytes rfl
  obtain ⟨rfl, rfl⟩ := List.append_inj (hgot.symm.trans hahead) hlength
  refine ⟨l₁.settle, hread, rfl, hsupplies.settle.mono (fun time hwithin => ?_) rfl rfl
    (Nat.le_refl _)⟩
  rw [l₁.ahead_settle.2]
  exact within_mono hnow hwithin

theorem brings_ofChunks {socket : Socket} {now n : Nat} {timeout patience : Option Nat}
    {chunks : List (Nat × Bytes)} (later : Schedule) (hended : socket.ended = false)
    (hreset : socket.reset = false)
    (hwithin : ∀ chunk ∈ chunks,
      within chunk.1 (earlier (timeout.map (now + ·)) patience) = true)
    (henough : n ≤ (socket.unread ++ chunks.flatMap (·.2)).length) :
    Brings timeout patience n ⟨socket, now, Schedule.ofChunks chunks ++ later⟩ := by
  show Supplies _ n socket (Schedule.ofChunks chunks ++ later)
  induction chunks generalizing socket with
  | nil => exact .there (by rwa [List.flatMap_nil, List.append_nil] at henough)
  | cons chunk chunks ih =>
    refine .arriving hended hreset (hwithin chunk List.mem_cons_self) (ih ?_ ?_ ?_ ?_)
    · rw [Socket.ended_receive_bytes, hended]
    · rw [Socket.reset_receive_bytes, hreset]
    · exact fun later hlater => hwithin later (List.mem_cons_of_mem chunk hlater)
    · rwa [Socket.unread_receive, List.append_assoc]

end Line
end TokenBroker
