import Mathlib.Algebra.GroupWithZero.Nat
import Mathlib.Data.List.SplitLengths
import TokenBroker.Proofs.Stream.Line
/-!
# Reads in segments, and what decides a read

A read that fills several segments does what a read of all their bytes does, at every moment.

* `Socket.fillSegments_alike` compares one attempt of either kind, and `Line.awaitFrom_alike`
  carries such a likeness through any amount of waiting.  `Line.readSegments_eq` is the result.
* `Line.thereBy` are the bytes that are there by a limit.  `Line.read_decided` says that they decide
  a read: it is complete, or the stream has ended, or the time is over, and what it consumes are the
  first of them in any case.
* `Line.scattered_as_plain` puts the two together.

All this is about a `Lawful` stream where the end of it matters: one on which nothing comes after
the end, and that is not reset.
-/

set_option autoImplicit false

namespace TokenBroker

/-- The outcome with another value. -/
def Outcome.map {ε α β : Type} (f : α → β) : Outcome ε α → Outcome ε β
  | finished value => finished (f value)
  | failed e => failed e
  | abandoned => abandoned

/-! ## Attempts that are alike -/

/-- Two attempts came equally far. -/
inductive Progress.Alike {ρ ρ' α β : Type} (f : α → β) (R : ρ → ρ' → Prop) :
    Progress ρ α → Progress ρ' β → Prop where
  | finished (value : α) : Alike f R (.finished value) (.finished (f value))
  | failed (e : ConnectionError) : Alike f R (.failed e) (.failed e)
  | waiting {soFar : ρ} {soFar' : ρ'} :
      R soFar soFar' → Alike f R (.waiting soFar) (.waiting soFar')

section

variable {ρ ρ' α β : Type} {f : α → β} {R : ρ → ρ' → Prop}

namespace Line

theorem expire_map (f : α → β) (deadline patience : Option Nat) (now : Nat) :
    expire (α := β) deadline patience now
      = ((expire (α := α) deadline patience now).1.map f,
          (expire (α := α) deadline patience now).2) := by
  rw [expire, expire]
  split
  · rfl
  · split <;> rfl

/-- **Attempts that are alike lead to outcomes that are alike**, at the same time and with the same
socket. -/
theorem awaitFrom_alike (attempt : ρ → Socket → Progress ρ α × Socket)
    (attempt' : ρ' → Socket → Progress ρ' β × Socket)
    (halike : ∀ {soFar soFar'}, R soFar soFar' → ∀ socket,
      (attempt soFar socket).1.Alike f R (attempt' soFar' socket).1
        ∧ (attempt soFar socket).2 = (attempt' soFar' socket).2)
    (deadline patience : Option Nat) {soFar : ρ} {soFar' : ρ'} (hR : R soFar soFar')
    (socket : Socket) (now : Nat) (coming : Schedule) :
    awaitFrom attempt' deadline patience soFar' socket now coming
      = ((awaitFrom attempt deadline patience soFar socket now coming).1.map f,
          (awaitFrom attempt deadline patience soFar socket now coming).2) := by
  have hstep : ∀ {soFar soFar' socket progress s}, R soFar soFar' →
      attempt soFar socket = (progress, s) →
      ∃ progress', progress.Alike f R progress' ∧ attempt' soFar' socket = (progress', s) := by
    intro soFar soFar' socket progress s hR hattempt
    obtain ⟨hprogress, hsocket⟩ := halike hR socket
    rw [hattempt] at hprogress hsocket
    exact ⟨_, hprogress, Prod.ext rfl hsocket.symm⟩
  fun_induction awaitFrom attempt deadline patience soFar socket now coming generalizing soFar' with
  | case1 coming soFar socket now value s hattempt =>
    obtain ⟨_, hlike, hattempt'⟩ := hstep hR hattempt
    cases hlike
    exact awaitFrom_finished hattempt'
  | case2 coming soFar socket now e s hattempt =>
    obtain ⟨_, hlike, hattempt'⟩ := hstep hR hattempt
    cases hlike
    exact awaitFrom_failed hattempt'
  | case3 soFar socket now more s hattempt outcome late hexpire =>
    obtain ⟨_, hlike, hattempt'⟩ := hstep hR hattempt
    cases hlike
    rw [awaitFrom_expired hattempt' (by simp), expire_map f, hexpire]
  | case4 soFar socket now more s time arrival later hattempt hwithin ih =>
    obtain ⟨_, hlike, hattempt'⟩ := hstep hR hattempt
    cases hlike with
    | waiting hR' => rw [awaitFrom_waiting hattempt' hwithin, ih hR']
  | case5 soFar socket now more s time arrival later hattempt hwithin outcome late hexpire =>
    obtain ⟨_, hlike, hattempt'⟩ := hstep hR hattempt
    cases hlike
    rw [awaitFrom_expired hattempt' (fun item hitem => Option.some.inj hitem ▸ hwithin),
      expire_map f, hexpire]

end Line

end

/-! ## Segments -/

namespace Socket

/-- A read may take some of its bytes before the others. -/
theorem fill_split {s : Socket} {n k : Nat} (soFar : Bytes) (hthere : k ≤ s.unread.length)
    (hneeded : soFar.length + k ≤ n) :
    s.fill n soFar
      = ({ s with unread := s.unread.drop k } : Socket).fill n (soFar ++ s.unread.take k) := by
  have hlength : (soFar ++ s.unread.take k).length = soFar.length + k := by
    rw [List.length_append, List.length_take_of_le hthere]
  have hneed : n - soFar.length = k + (n - (soFar.length + k)) := by omega
  simp only [fill, hlength, List.length_drop]
  by_cases henough : n - soFar.length ≤ s.unread.length
  · rw [if_pos henough, if_pos (by omega), hneed, List.take_add, List.append_assoc,
      List.drop_drop]
  · rw [if_neg henough, if_neg (by omega), List.append_assoc, List.take_append_drop]
    rfl

/-- How far a read of all bytes is when one in segments is somewhere: `all` are the lengths of all
segments, and the one that is being filled is not overfull. -/
structure Abreast (all : List Nat) (soFar : Bytes) (state : Scatter) : Prop where
  bytes : soFar = state.filled.flatten ++ state.current
  lengths : all = state.filled.map List.length ++ state.lengths
  room : state.current.length ≤ state.lengths.headD 0

theorem splitLengths_flatten (segments : List Bytes) :
    (segments.map List.length).splitLengths segments.flatten = segments := by
  induction segments with
  | nil => rfl
  | cons segment rest ih =>
    rw [List.map_cons, List.flatten_cons, List.splitLengths_cons, List.take_left, List.drop_left,
      ih]

/-- **An attempt to fill segments comes as far as one at all their bytes.** -/
theorem fillSegments_alike (s : Socket) (filled : List Bytes) (current : Bytes)
    (lengths : List Nat) (hroom : current.length ≤ lengths.headD 0) :
    let all := filled.map List.length ++ lengths
    (s.fill all.sum (filled.flatten ++ current)).1.Alike all.splitLengths (Abreast all)
        (s.fillSegments filled current lengths).1
      ∧ (s.fill all.sum (filled.flatten ++ current)).2
        = (s.fillSegments filled current lengths).2 := by
  induction lengths generalizing s filled current with
  | nil =>
    intro all
    obtain rfl : current = [] := List.length_eq_zero_iff.1 (Nat.le_zero.1 hroom)
    have hall : all = filled.map List.length := List.append_nil _
    have hsum : all.sum = (filled.flatten ++ []).length := by
      rw [hall, List.append_nil, List.length_flatten]
    rw [hsum, fill_of_le (Nat.le_add_right _ _), Nat.sub_self, List.take_zero, List.append_nil,
      List.append_nil, List.drop_zero, fillSegments, hall]
    refine ⟨?_, rfl⟩
    have hfinished := Progress.Alike.finished (f := (filled.map List.length).splitLengths)
      (R := Abreast (filled.map List.length)) filled.flatten
    rwa [splitLengths_flatten] at hfinished
  | cons m rest ih =>
    intro all
    have hsum : all.sum = filled.flatten.length + (m + rest.sum) := by
      rw [List.sum_append, List.sum_cons, List.length_flatten]
    change current.length ≤ m at hroom
    rcases Nat.lt_or_ge s.unread.length (m - current.length) with hshort | henough
    · have hall : ¬ all.sum - (filled.flatten ++ current).length ≤ s.unread.length := by
        rw [hsum, List.length_append]
        omega
      have hleft : s.fill all.sum (filled.flatten ++ current)
          = s.drained (filled.flatten ++ (current ++ s.unread)) := by
        rw [fill, if_neg hall, List.append_assoc]
      have hright : s.fill m current = s.drained (current ++ s.unread) := by
        rw [fill, if_neg (Nat.not_le.2 hshort)]
      have hstate : Abreast all (filled.flatten ++ (current ++ s.unread))
          ⟨filled, current ++ s.unread, m :: rest⟩ := ⟨rfl, rfl, by
        show (current ++ s.unread).length ≤ m
        rw [List.length_append]
        omega⟩
      rw [hleft, fillSegments, hright, drained, drained]
      split
      · exact ⟨.failed _, rfl⟩
      · split
        · exact ⟨.failed _, rfl⟩
        · exact ⟨.waiting hstate, rfl⟩
    · have hfirst : s.fill m current = (.finished (current ++ s.unread.take (m - current.length)),
          { s with unread := s.unread.drop (m - current.length) }) :=
        fill_of_le (by omega)
      have hsegment : (current ++ s.unread.take (m - current.length)).length = m := by
        rw [List.length_append, List.length_take_of_le henough]
        omega
      have hsplit := fill_split (n := all.sum) (filled.flatten ++ current) henough (by
        rw [hsum, List.length_append]
        omega)
      have hrest := ih { s with unread := s.unread.drop (m - current.length) }
        (filled ++ [current ++ s.unread.take (m - current.length)]) [] (Nat.zero_le _)
      have hlengths : (filled ++ [current ++ s.unread.take (m - current.length)]).map List.length
          ++ rest = all := by
        rw [List.map_append, List.map_singleton, hsegment, List.append_assoc]
        rfl
      have hbytes : (filled ++ [current ++ s.unread.take (m - current.length)]).flatten ++ []
          = filled.flatten ++ current ++ s.unread.take (m - current.length) := by
        rw [List.append_nil, List.flatten_append, List.flatten_singleton, List.append_assoc]
      rw [hlengths, hbytes] at hrest
      rw [hsplit, fillSegments, hfirst]
      exact hrest

end Socket

namespace Line

/-- **A read in segments is a read of all their bytes**, which are then cut at the boundaries. -/
theorem readSegments_eq (l : Line) (lengths : List Nat) (timeout patience : Option Nat) :
    l.readSegments lengths timeout patience
      = ((l.read lengths.sum timeout patience).1.map lengths.splitLengths,
          (l.read lengths.sum timeout patience).2) := by
  have hbegun : Socket.Abreast lengths [] (.ofLengths lengths) := ⟨rfl, rfl, Nat.zero_le _⟩
  have halike := awaitFrom_alike (f := lengths.splitLengths)
    (fun soFar socket => socket.fill lengths.sum soFar)
    (fun (soFar : Socket.Scatter) socket =>
      socket.fillSegments soFar.filled soFar.current soFar.lengths)
    (fun {soFar state} hstate socket => by
      obtain ⟨hbytes, hlengths, hroom⟩ := hstate
      rw [hlengths, hbytes]
      exact socket.fillSegments_alike _ _ _ hroom)
    (timeout.map (l.now + ·)) patience hbegun l.socket l.now l.coming
  rw [readSegments, read, await, await, halike]

end Line

/-! ## What decides a read -/

/-- Nothing more arrives after it. -/
def Arrival.isEnd : Arrival → Bool
  | .bytes _ => false
  | .finish => true
  | .hangUp _ => true

/-- What arrives on a stream that is not reset: bytes, as long as it has not ended. -/
inductive Schedule.Lawful : Bool → Schedule → Prop where
  | nil (ended : Bool) : Lawful ended []
  | bytes {time : Nat} {chunk : Bytes} {later : Schedule} :
      Lawful false later → Lawful false ((time, .bytes chunk) :: later)
  | finish {ended : Bool} {time : Nat} {later : Schedule} :
      Lawful true later → Lawful ended ((time, .finish) :: later)
  | hangUp {ended : Bool} {time : Nat} {later : Schedule} :
      Lawful true later → Lawful ended ((time, .hangUp false) :: later)

namespace Schedule

/-- What arrives up to a limit. -/
def upTo (limit : Option Nat) (coming : Schedule) : Schedule :=
  coming.takeWhile fun item => Line.within item.1 limit

variable {time : Nat} {arrival : Arrival} {later coming : Schedule} {limit : Option Nat}
  {ended : Bool}

theorem upTo_cons (h : Line.within time limit = true) :
    upTo limit ((time, arrival) :: later) = (time, arrival) :: upTo limit later :=
  List.takeWhile_cons_of_pos h

theorem upTo_late (h : ¬ Line.within time limit = true) :
    upTo limit ((time, arrival) :: later) = [] :=
  List.takeWhile_cons_of_neg h

theorem Lawful.content_upTo (h : Lawful true coming) : content (upTo limit coming) = [] := by
  generalize hended : true = ended at h
  induction h with
  | nil => rfl
  | bytes => cases hended
  | @finish ended time later _ ih =>
    by_cases hwithin : Line.within time limit = true
    · rw [upTo_cons hwithin]
      exact ih rfl
    · rw [upTo_late hwithin]
      rfl
  | @hangUp ended time later _ ih =>
    by_cases hwithin : Line.within time limit = true
    · rw [upTo_cons hwithin]
      exact ih rfl
    · rw [upTo_late hwithin]
      rfl

/-- What comes after an arrival. -/
theorem Lawful.tail (h : Lawful ended ((time, arrival) :: later)) :
    Lawful (ended || arrival.isEnd) later ∧ arrival ≠ .hangUp true := by
  cases h with
  | bytes hlater => exact ⟨hlater, nofun⟩
  | finish hlater =>
    rw [Arrival.isEnd, Bool.or_true]
    exact ⟨hlater, nofun⟩
  | hangUp hlater =>
    rw [Arrival.isEnd, Bool.or_true]
    exact ⟨hlater, by simp⟩

end Schedule

namespace Socket

theorem ended_receive (s : Socket) (arrival : Arrival) :
    (s.receive arrival).ended = (s.ended || arrival.isEnd) := by
  cases arrival with
  | bytes chunk => rw [ended_receive_bytes, Arrival.isEnd, Bool.or_false]
  | finish => exact (Bool.or_true _).symm
  | hangUp reset => exact (Bool.or_true _).symm

theorem reset_receive {s : Socket} {arrival : Arrival} (hreset : s.reset = false)
    (harrival : arrival ≠ .hangUp true) : (s.receive arrival).reset = false := by
  cases arrival with
  | bytes chunk => rw [reset_receive_bytes, hreset]
  | finish => exact hreset
  | hangUp reset =>
    cases reset with
    | false => rfl
    | true => exact absurd rfl harrival

/-- A part that will never be complete, because the stream has ended. -/
theorem fill_of_ended {s : Socket} {n : Nat} {soFar : Bytes} (hended : s.ended = true)
    (hreset : s.reset = false) (h : soFar.length + s.unread.length < n) :
    s.fill n soFar = (.failed .closed, { s with unread := [], noted := false }) := by
  have hlt : ¬ n - soFar.length ≤ s.unread.length := by omega
  simp only [fill, if_neg hlt, drained, hreset, hended, Bool.false_eq_true, if_false, if_true]

end Socket

namespace Line

/-- The stream is not reset, and nothing comes after its end. -/
structure Lawful (l : Line) : Prop where
  coming : Schedule.Lawful l.socket.ended l.coming
  reset : l.socket.reset = false

/-- The bytes that are there by a limit. -/
def thereBy (l : Line) (limit : Option Nat) : Bytes :=
  l.socket.unread ++ Schedule.content (Schedule.upTo limit l.coming)

/-- Whether the stream has ended by a limit. -/
def endedBy (l : Line) (limit : Option Nat) : Bool :=
  l.socket.ended || (Schedule.upTo limit l.coming).any fun item => item.2.isEnd

/-- How a read of `n` bytes ends that gives up at a limit, if there are so many bytes by then and
the stream has ended or not. -/
def verdict (n : Nat) (limit : Option Nat) (there : Bytes) (ended : Bool) :
    Outcome ConnectionError Bytes :=
  if n ≤ there.length then .finished (there.take n)
  else if ended then .failed .closed
  else if limit = none then .abandoned
  else .failed .timedOut

theorem expire_eq {n : Nat} {limit : Option Nat} {there : Bytes} (hshort : there.length < n)
    (now : Nat) : (expire limit none now).1 = verdict n limit there false := by
  rw [verdict, if_neg (Nat.not_le.2 hshort), if_neg Bool.false_ne_true, expire]
  cases limit with
  | none => rfl
  | some limit => simp only [earlier, if_true, reduceCtorEq, if_false]

theorem earlier_none (limit : Option Nat) : earlier limit none = limit := by
  cases limit <;> rfl

section Await

variable {n now : Nat} {limit : Option Nat} {soFar : Bytes} {socket : Socket} {coming : Schedule}

/-- What a read of `n` bytes does, of which some were read before: the bytes that are there by the
limit decide it, and the first of them are consumed. -/
def Decided (n : Nat) (limit : Option Nat) (soFar : Bytes) (l : Line) : Prop :=
  let there := soFar ++ l.thereBy limit
  let result := awaitFrom (fun soFar socket => socket.fill n soFar) limit none soFar l.socket l.now
    l.coming
  result.1 = verdict n limit there (l.endedBy limit)
    ∧ soFar ++ l.ahead = there.take n ++ result.2.ahead

/-- If there are enough bytes, they are read. -/
theorem decided_of_le (hlen : soFar.length ≤ n) (h : n ≤ soFar.length + socket.unread.length) :
    Decided n limit soFar ⟨socket, now, coming⟩ := by
  let more := Schedule.content (Schedule.upTo limit coming)
  have hfirst : (soFar ++ (socket.unread ++ more)).take n
      = soFar ++ socket.unread.take (n - soFar.length) := by
    rw [List.take_append, List.take_of_length_le hlen, List.take_append_of_le_length (by omega)]
  have henough : n ≤ (soFar ++ (socket.unread ++ more)).length := by
    rw [List.length_append, List.length_append]
    omega
  have hawait : awaitFrom (fun soFar socket => socket.fill n soFar) limit none soFar socket now
      coming = (.finished (soFar ++ socket.unread.take (n - soFar.length)),
        ⟨{ socket with unread := socket.unread.drop (n - soFar.length) }, now, coming⟩) :=
    awaitFrom_finished (Socket.fill_of_le h)
  have hthere : soFar ++ thereBy ⟨socket, now, coming⟩ limit
      = soFar ++ (socket.unread ++ more) := rfl
  simp only [Decided, hawait, hthere, verdict, if_pos henough, hfirst]
  refine ⟨trivial, ?_⟩
  simp only [ahead, List.append_assoc]
  rw [← List.append_assoc (socket.unread.take _), List.take_append_drop]

/-- If the stream has ended too early, it is read to its end. -/
theorem decided_of_ended (hended : socket.ended = true) (hreset : socket.reset = false)
    (hlawful : Schedule.Lawful true coming) (h : soFar.length + socket.unread.length < n) :
    Decided n limit soFar ⟨socket, now, coming⟩ := by
  have hthere : soFar ++ thereBy ⟨socket, now, coming⟩ limit = soFar ++ socket.unread := by
    rw [thereBy, hlawful.content_upTo, List.append_nil]
  have hshort : (soFar ++ socket.unread).length < n := by rwa [List.length_append]
  have hawait : awaitFrom (fun soFar socket => socket.fill n soFar) limit none soFar socket now
      coming = (.failed .closed, ⟨{ socket with unread := [], noted := false }, now, coming⟩) :=
    awaitFrom_failed (Socket.fill_of_ended hended hreset h)
  have hover : endedBy ⟨socket, now, coming⟩ limit = true := by
    rw [endedBy, hended, Bool.true_or]
  simp only [Decided, hawait, hthere, hover, verdict, if_neg (Nat.not_le.2 hshort), if_true,
    List.take_of_length_le (Nat.le_of_lt hshort)]
  exact ⟨trivial, List.append_assoc _ _ _ |>.symm⟩

/-- If time runs out, what there was is read. -/
theorem decided_of_late (hended : socket.ended = false) (hreset : socket.reset = false)
    (hlate : Schedule.upTo limit coming = []) (h : soFar.length + socket.unread.length < n) :
    Decided n limit soFar ⟨socket, now, coming⟩ := by
  have hthere : soFar ++ thereBy ⟨socket, now, coming⟩ limit = soFar ++ socket.unread := by
    rw [thereBy, hlate, Schedule.content, List.flatMap_nil, List.append_nil]
  have hshort : (soFar ++ socket.unread).length < n := by rwa [List.length_append]
  have hgoing : endedBy ⟨socket, now, coming⟩ limit = false := by
    rw [endedBy, hended, hlate]
    rfl
  have hawait : awaitFrom (fun soFar socket => socket.fill n soFar) limit none soFar socket now
      coming = ((expire limit none now).1,
        ⟨{ socket with unread := [], noted := false }, (expire (α := Bytes) limit none now).2,
          coming⟩) := by
    refine awaitFrom_expired (Socket.fill_of_lt hended hreset h) fun item hitem hwithin => ?_
    obtain ⟨later, rfl⟩ : ∃ later, coming = item :: later := List.head?_eq_some_iff.1 hitem
    rw [earlier_none] at hwithin
    rw [Schedule.upTo_cons hwithin] at hlate
    cases hlate
  simp only [Decided, hawait, hthere, hgoing, expire_eq hshort,
    List.take_of_length_le (Nat.le_of_lt hshort)]
  exact ⟨trivial, List.append_assoc _ _ _ |>.symm⟩

/-- An arrival in time is taken in before the next attempt. -/
theorem decided_of_arrival {time : Nat} {arrival : Arrival} {later : Schedule}
    (hended : socket.ended = false) (hreset : socket.reset = false)
    (hwithin : within time limit = true) (h : soFar.length + socket.unread.length < n)
    (hnext : Decided n limit (soFar ++ socket.unread)
      ⟨({ socket with unread := [], noted := false } : Socket).receive arrival, max now time,
        later⟩) :
    Decided n limit soFar ⟨socket, now, (time, arrival) :: later⟩ := by
  have hunread : (({ socket with unread := [], noted := false } : Socket).receive arrival).unread
      = arrival.content := Socket.unread_receive _ _
  have hover : (({ socket with unread := [], noted := false } : Socket).receive arrival).ended
      = (socket.ended || arrival.isEnd) := Socket.ended_receive _ _
  have hwithin' : within time (earlier limit none) = true := by rwa [earlier_none]
  simp only [Decided, thereBy, endedBy, ahead, hunread, hover] at hnext ⊢
  rw [awaitFrom_waiting (Socket.fill_of_lt hended hreset h) hwithin', Schedule.upTo_cons hwithin]
  simp only [Schedule.content, List.flatMap_cons, List.any_cons, List.append_assoc,
    Bool.or_assoc] at hnext ⊢
  exact hnext

/-- **Reading, attempt by attempt**, however the bytes arrive. -/
theorem decided (hlen : soFar.length ≤ n) (hlawful : Lawful ⟨socket, now, coming⟩) :
    Decided n limit soFar ⟨socket, now, coming⟩ := by
  obtain ⟨hcoming, hreset⟩ := hlawful
  induction coming generalizing soFar socket now with
  | nil =>
    rcases Nat.lt_or_ge (soFar.length + socket.unread.length) n with hshort | henough
    · cases hended : socket.ended with
      | true => exact decided_of_ended hended hreset (.nil true) hshort
      | false => exact decided_of_late hended hreset rfl hshort
    · exact decided_of_le hlen henough
  | cons item later ih =>
    obtain ⟨time, arrival⟩ := item
    rcases Nat.lt_or_ge (soFar.length + socket.unread.length) n with hshort | henough
    · cases hended : socket.ended with
      | true =>
        change Schedule.Lawful socket.ended _ at hcoming
        exact decided_of_ended hended hreset (hended ▸ hcoming) hshort
      | false =>
        by_cases hwithin : within time limit = true
        · obtain ⟨hlater, harrival⟩ := hcoming.tail
          refine decided_of_arrival hended hreset hwithin hshort (ih ?_ ?_ ?_)
          · rw [List.length_append]
            exact Nat.le_of_lt hshort
          · show Schedule.Lawful (Socket.receive _ arrival).ended later
            rw [Socket.ended_receive]
            exact hlater
          · exact Socket.reset_receive hreset harrival
        · exact decided_of_late hended hreset (Schedule.upTo_late hwithin) hshort
    · exact decided_of_le hlen henough

end Await

/-- **The bytes that are there by its deadline decide a read**, and the first of them are consumed,
whatever the outcome. -/
theorem read_decided {l : Line} (hlawful : l.Lawful) (n : Nat) (timeout : Option Nat) :
    let limit := timeout.map (l.now + ·)
    (l.read n timeout none).1 = verdict n limit (l.thereBy limit) (l.endedBy limit)
      ∧ l.ahead = (l.thereBy limit).take n ++ (l.read n timeout none).2.ahead := by
  intro limit
  have hdecided : Decided n limit [] l := decided (Nat.zero_le n) hlawful
  obtain ⟨hverdict, hahead⟩ := hdecided
  rw [List.nil_append] at hverdict hahead
  rw [List.nil_append] at hahead
  refine ⟨hverdict, hahead.trans ?_⟩
  rw [read, await, (Line.ahead_settle _).1]

/-! ## When a read ends -/

theorem expire_deadline {α : Type} {limit now : Nat} (hnow : now ≤ limit) :
    expire (α := α) (some limit) none now = (.failed .timedOut, limit) := by
  simp only [expire, earlier, if_true, Nat.max_eq_right hnow]

/-- Waiting with a deadline ends by the deadline, and not before it if time runs out. -/
theorem awaitFrom_timed {ρ α : Type} (attempt : ρ → Socket → Progress ρ α × Socket)
    (hattempt : ∀ soFar socket, (attempt soFar socket).1 ≠ .failed .timedOut) {limit now : Nat}
    (hnow : now ≤ limit) (soFar : ρ) (socket : Socket) (coming : Schedule) :
    let result := awaitFrom attempt (some limit) none soFar socket now coming
    result.1 ≠ .abandoned ∧ result.2.now ≤ limit
      ∧ (result.1 = .failed .timedOut → result.2.now = limit) := by
  fun_induction awaitFrom attempt (some limit) none soFar socket now coming with
  | case1 coming soFar socket now value s hdone => exact ⟨by simp, hnow, by simp⟩
  | case2 coming soFar socket now e s hdone =>
    refine ⟨by simp, hnow, fun hfailed => absurd ?_ (hattempt soFar socket)⟩
    rw [hdone, Outcome.failed.inj hfailed]
  | case3 soFar socket now more s hdone outcome late hexpire =>
    obtain ⟨rfl, rfl⟩ := Prod.mk.inj ((expire_deadline hnow).symm.trans hexpire)
    exact ⟨by simp, Nat.le_refl limit, fun _ => rfl⟩
  | case4 soFar socket now more s time arrival later hdone hwithin ih =>
    exact ih (Nat.max_le.2 ⟨hnow, of_decide_eq_true hwithin⟩)
  | case5 soFar socket now more s time arrival later hdone hwithin outcome late hexpire =>
    obtain ⟨rfl, rfl⟩ := Prod.mk.inj ((expire_deadline hnow).symm.trans hexpire)
    exact ⟨by simp, Nat.le_refl limit, fun _ => rfl⟩

theorem fill_ne_timedOut (s : Socket) (n : Nat) (soFar : Bytes) :
    (s.fill n soFar).1 ≠ .failed .timedOut := by
  rw [Socket.fill, Socket.drained]
  dsimp only
  split
  · simp
  · split
    · simp
    · split <;> simp

/-- A read with a timeout is over when the time is, at the latest. -/
theorem read_timed (l : Line) (n timeout : Nat) :
    (l.read n (some timeout) none).1 ≠ .abandoned
      ∧ (l.read n (some timeout) none).2.now ≤ l.now + timeout
      ∧ ((l.read n (some timeout) none).1 = .failed .timedOut →
        (l.read n (some timeout) none).2.now = l.now + timeout) := by
  have htimed := awaitFrom_timed (fun soFar socket => socket.fill n soFar)
    (fun soFar socket => fill_ne_timedOut socket n soFar) (Nat.le_add_right l.now timeout) []
    l.socket l.coming
  rw [read, await, (ahead_settle _).2]
  exact htimed

/-! ## Reads in segments -/

/-- **A read in segments agrees with a read of all their bytes**: it has the same outcome at the
same time and leaves the same line, on which the same bytes were consumed.  One deadline decides for
all segments: the read is complete if all bytes are there by then, otherwise it fails because the
stream has ended by then, or else because the time is over.  What it consumes are the first of the
bytes that are there, and none beyond the segments. -/
theorem scattered_as_plain (l : Line) (lengths : List Nat) (timeout : Option Nat) :
    (∀ patience, l.readSegments lengths timeout patience
        = ((l.read lengths.sum timeout patience).1.map lengths.splitLengths,
            (l.read lengths.sum timeout patience).2))
      ∧ (l.Lawful →
        let limit := timeout.map (l.now + ·)
        let there := l.thereBy limit
        let result := l.readSegments lengths timeout none
        (result.1 = if lengths.sum ≤ there.length then
              .finished (lengths.splitLengths (there.take lengths.sum))
            else if l.endedBy limit then .failed .closed
            else if timeout = none then .abandoned
            else .failed .timedOut)
          ∧ l.ahead = there.take lengths.sum ++ result.2.ahead
          ∧ ∀ duration, timeout = some duration → result.2.now ≤ l.now + duration
            ∧ (result.1 = .failed .timedOut → result.2.now = l.now + duration)) := by
  refine ⟨l.readSegments_eq lengths timeout, fun hlawful => ?_⟩
  intro limit there result
  have hresult : result = ((l.read lengths.sum timeout none).1.map lengths.splitLengths,
    (l.read lengths.sum timeout none).2) := l.readSegments_eq lengths timeout none
  obtain ⟨hverdict, hahead⟩ := read_decided hlawful lengths.sum timeout
  refine ⟨?_, ?_, ?_⟩
  · rw [hresult, hverdict, verdict]
    simp only [Option.map_eq_none_iff]
    split
    · rfl
    · split
      · rfl
      · split <;> rfl
  · rw [hresult]
    exact hahead
  · rintro duration rfl
    obtain ⟨-, hby, hout⟩ := l.read_timed lengths.sum duration
    rw [hresult]
    refine ⟨hby, fun h => hout ?_⟩
    generalize (l.read lengths.sum (some duration) none).1 = outcome at h
    cases outcome with
    | finished bytes => cases h
    | failed e => rw [Outcome.failed.inj h]
    | abandoned => cases h

/-- Four segments, two of them empty, on a stream that delivers two bytes, then three, and then
ends.  With a deadline at five, all four bytes are there; at four, two of them are consumed in
vain. -/
theorem scattered_as_plain_around_the_deadline :
    let l : Line := ⟨{}, 0, [(3, .bytes [1, 2]), (5, .bytes [3, 4, 5]), (9, .finish)]⟩
    l.Lawful
      ∧ (l.readSegments [0, 1, 0, 3] (some 5) none).1 = .finished [[], [1], [], [2, 3, 4]]
      ∧ (l.readSegments [0, 1, 0, 3] (some 4) none).1 = .failed .timedOut
      ∧ (l.readSegments [0, 1, 0, 3] (some 4) none).2.now = 4
      ∧ l.ahead = [1, 2] ++ (l.readSegments [0, 1, 0, 3] (some 4) none).2.ahead := by
  intro l
  have hlawful : l.Lawful := ⟨.bytes (.bytes (.finish (.nil true))), rfl⟩
  obtain ⟨hin, -, -⟩ := (scattered_as_plain l [0, 1, 0, 3] (some 5)).2 hlawful
  obtain ⟨hout, hconsumed, htime⟩ := (scattered_as_plain l [0, 1, 0, 3] (some 4)).2 hlawful
  exact ⟨hlawful, hin, hout, (htime 4 rfl).2 hout, hconsumed⟩

end Line
end TokenBroker
