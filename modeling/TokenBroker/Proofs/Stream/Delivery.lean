import Mathlib.Algebra.BigOperators.Group.List.Basic
import TokenBroker.Proofs.Stream.Write
/-!
# What a write delivers

A socket may take any part of what it is offered at a call, and a call that takes nothing ends the
write.

* `delivery` says at once what the calls amount to: the bytes up to the first call that takes
  nothing are delivered.
* `writeLoop_eq` and `writeRest_eq` say that the write of several segments and that of one piece are
  both of this kind, so they agree.
* `writeCalls` are the calls that a write of several segments makes, with what each of them is
  offered.  `forall_writeCalls` says that none of them is offered nothing.
* `delivered_once` puts them together.
-/

set_option autoImplicit false

namespace TokenBroker

/-- How many bytes the calls take before the first that takes nothing. -/
def takenAtMost (accepted : List Nat) : Nat := (accepted.takeWhile fun n => 0 < n).sum

/-- What a write of `bytes` comes to, of which `written` were delivered before. -/
def delivery (expected written : Nat) (bytes : Bytes) (accepted : List Nat) : WriteEnd × Bytes :=
  let taken := takenAtMost accepted
  if bytes.length ≤ taken then (.complete (written + bytes.length), bytes)
  else if accepted.all fun n => 0 < n then (.blocked (written + taken), bytes.take taken)
  else (.failed (.shortWrite (written + taken) expected), bytes.take taken)

section

variable {expected written offer : Nat} {bytes : Bytes} {later accepted : List Nat}

theorem takenAtMost_nil : takenAtMost [] = 0 := rfl

theorem takenAtMost_refused : takenAtMost (0 :: later) = 0 := rfl

theorem takenAtMost_cons (h : offer ≠ 0) :
    takenAtMost (offer :: later) = offer + takenAtMost later := by
  rw [takenAtMost, List.takeWhile_cons_of_pos (by simpa using Nat.pos_of_ne_zero h), List.sum_cons,
    takenAtMost]

/-- As long as every call takes something, the calls take a byte each at least. -/
theorem length_le_takenAtMost (h : accepted.all (fun n => 0 < n) = true) :
    accepted.length ≤ takenAtMost accepted := by
  induction accepted with
  | nil => exact Nat.le_refl 0
  | cons offer later ih =>
    rw [List.all_cons, Bool.and_eq_true, decide_eq_true_eq] at h
    rw [List.length_cons, takenAtMost_cons (Nat.ne_of_gt h.1), Nat.add_comm]
    exact Nat.add_le_add h.1 (ih h.2)

theorem delivery_nil : delivery expected written [] accepted = (.complete written, []) := by
  simp only [delivery, List.length_nil, Nat.zero_le, if_true, Nat.add_zero]

theorem delivery_unanswered (h : bytes ≠ []) :
    delivery expected written bytes [] = (.blocked written, []) := by
  have hpos := List.length_pos_iff.2 h
  rw [delivery, takenAtMost_nil, if_neg (Nat.not_le.2 hpos)]
  rfl

theorem delivery_refused (h : bytes ≠ []) :
    delivery expected written bytes (0 :: later)
      = (.failed (.shortWrite written expected), []) := by
  have hpos := List.length_pos_iff.2 h
  rw [delivery, takenAtMost_refused, if_neg (Nat.not_le.2 hpos)]
  rfl

/-- A call that takes something leaves the rest to the calls after it. -/
theorem delivery_cons (h : offer ≠ 0) :
    delivery expected written bytes (offer :: later)
      = let n := min offer bytes.length
        let result := delivery expected (written + n) (bytes.drop n) later
        (result.1, bytes.take n ++ result.2) := by
  have hall : (offer :: later).all (fun n => 0 < n) = later.all fun n => 0 < n := by
    rw [List.all_cons, decide_eq_true (Nat.pos_of_ne_zero h), Bool.true_and]
  rcases Nat.lt_or_ge offer bytes.length with hpart | hwhole
  · have hleft : (bytes.drop offer).length = bytes.length - offer := List.length_drop
    have hsum : written + offer + takenAtMost later = written + (offer + takenAtMost later) :=
      Nat.add_assoc _ _ _
    have htotal : written + offer + (bytes.length - offer) = written + bytes.length := by omega
    dsimp only
    rw [Nat.min_eq_left (Nat.le_of_lt hpart), delivery, delivery, takenAtMost_cons h, hall, hleft,
      hsum, htotal]
    by_cases henough : bytes.length ≤ offer + takenAtMost later
    · rw [if_pos henough, if_pos (by omega : bytes.length - offer ≤ takenAtMost later),
        List.take_append_drop]
    · rw [if_neg henough, if_neg (by omega : ¬ bytes.length - offer ≤ takenAtMost later),
        List.take_add]
      split <;> rfl
  · dsimp only
    rw [Nat.min_eq_right hwhole, List.drop_length, List.take_length, delivery_nil, delivery,
      takenAtMost_cons h, if_pos (Nat.le_trans hwhole (Nat.le_add_right _ _)), List.append_nil]

end

/-! ## Both ways of writing -/

section

variable {expected written : Nat} {accepted : List Nat}

theorem writeLoop_eq {segments : List Bytes} (hhead : segments.head? ≠ some []) :
    writeLoop expected written segments accepted
      = delivery expected written segments.flatten accepted := by
  induction accepted generalizing written segments with
  | nil =>
    cases segments with
    | nil => rw [writeLoop, List.flatten_nil, delivery_nil]
    | cons segment rest =>
      rw [delivery_unanswered (List.length_pos_iff.1 (Segments.size_pos hhead)), writeLoop]
  | cons offer later ih =>
    cases segments with
    | nil => rw [writeLoop, List.flatten_nil, delivery_nil]
    | cons segment rest =>
      have hpos := Segments.size_pos hhead
      rw [writeLoop]
      by_cases hzero : offer = 0
      · rw [hzero, delivery_refused (List.length_pos_iff.1 hpos), Nat.zero_min, if_pos rfl]
      · rw [delivery_cons hzero, if_neg (by omega), ih (Segments.head?_advance _ _),
          Segments.flatten_advance]
        rfl

theorem writeRest_eq {bytes : Bytes} :
    writeRest expected written bytes accepted = delivery expected written bytes accepted := by
  induction accepted generalizing written bytes with
  | nil =>
    cases bytes with
    | nil => rw [writeRest, delivery_nil]
    | cons byte more => rw [writeRest, delivery_unanswered (List.cons_ne_nil byte more)]
  | cons offer later ih =>
    cases bytes with
    | nil => rw [writeRest, delivery_nil]
    | cons byte more =>
      have hpos : 0 < (byte :: more).length := Nat.succ_pos _
      rw [writeRest]
      by_cases hzero : offer = 0
      · rw [hzero, delivery_refused (List.cons_ne_nil byte more), Nat.zero_min, if_pos rfl]
      · rw [delivery_cons hzero, if_neg (by omega), ih]

end

theorem writeSegments_eq (segments : List Bytes) (accepted : List Nat) :
    writeSegments segments accepted
      = delivery (Segments.size segments) 0 segments.flatten accepted := by
  rw [writeSegments, writeLoop_eq (Segments.head?_advance 0 segments), Segments.flatten_advance,
    List.drop_zero]

/-- **In how many segments bytes are written makes no difference.** -/
theorem writeWhole_flatten (segments : List Bytes) (accepted : List Nat) :
    writeWhole segments.flatten accepted = writeSegments segments accepted := by
  rw [writeWhole, writeRest_eq, writeSegments_eq, Segments.size]

/-! ## The calls of a write -/

/-- Take bytes off the front of segments, which must hold so many. -/
def Segments.advance? (n : Nat) : List Bytes → Option (List Bytes)
  | [] => if n = 0 then some [] else none
  | segment :: rest =>
    if segment.length ≤ n then advance? (n - segment.length) rest
    else some (segment.drop n :: rest)

/-- Where there are enough bytes, they are taken off. -/
theorem Segments.advance?_of_le {n : Nat} {segments : List Bytes} (h : n ≤ size segments) :
    advance? n segments = some (advance n segments) := by
  induction segments generalizing n with
  | nil => rw [advance?, if_pos (Nat.le_zero.1 h), advance]
  | cons segment rest ih =>
    rw [size, List.flatten_cons, List.length_append] at h
    rw [advance?, advance]
    split
    · exact ih (Nat.sub_le_iff_le_add'.2 h)
    · rfl

/-- A call on a socket: the segments that it is offered, and how many of their bytes it takes. -/
structure WriteCall where
  offered : List Bytes
  taken : Nat
  deriving DecidableEq

namespace WriteCall

/-- The bytes that the socket takes. -/
def bytes (c : WriteCall) : Bytes := c.offered.flatten.take c.taken

/-- The call is offered something, and the segments hold what the socket takes. -/
structure Sound (c : WriteCall) : Prop where
  nonempty : c.offered.flatten ≠ []
  advances : Segments.advance? c.taken c.offered = some (Segments.advance c.taken c.offered)

end WriteCall

/-- The calls that go on writing segments. -/
def callsFrom (segments : List Bytes) (accepted : List Nat) : List WriteCall :=
  match segments, accepted with
  | [], _ => []
  | _ :: _, [] => []
  | segment :: rest, offer :: later =>
    let n := min offer (Segments.size (segment :: rest))
    ⟨segment :: rest, n⟩
      :: if n = 0 then [] else callsFrom (Segments.advance n (segment :: rest)) later
termination_by structural accepted

/-- The calls that write segments. -/
def writeCalls (segments : List Bytes) (accepted : List Nat) : List WriteCall :=
  callsFrom (Segments.advance 0 segments) accepted

section

variable {expected written : Nat} {segments : List Bytes} {accepted : List Nat}

/-- What is delivered is what the calls take, one after the other. -/
theorem flatMap_callsFrom :
    (writeLoop expected written segments accepted).2
      = (callsFrom segments accepted).flatMap WriteCall.bytes := by
  induction accepted generalizing written segments with
  | nil => cases segments <;> rfl
  | cons offer later ih =>
    cases segments with
    | nil => rfl
    | cons segment rest =>
      rw [callsFrom, writeLoop, List.flatMap_cons, WriteCall.bytes]
      dsimp only
      split
      · next hzero => rw [hzero]; rfl
      · rw [ih]

/-- A write fails through a call that takes nothing, and only so. -/
theorem failed_iff_callsFrom :
    (∃ e, (writeLoop expected written segments accepted).1 = .failed e)
      ↔ ∃ call ∈ callsFrom segments accepted, call.taken = 0 := by
  induction accepted generalizing written segments with
  | nil => cases segments <;> simp [writeLoop, callsFrom]
  | cons offer later ih =>
    cases segments with
    | nil => simp [writeLoop, callsFrom]
    | cons segment rest =>
      rw [callsFrom, writeLoop, List.exists_mem_cons_iff]
      dsimp only
      split
      · next hzero => exact ⟨fun _ => .inl hzero, fun _ => ⟨_, rfl⟩⟩
      · next hsome => rw [ih, or_iff_right hsome]

theorem sound_callsFrom (hhead : segments.head? ≠ some []) :
    ∀ call ∈ callsFrom segments accepted, call.Sound := by
  induction accepted generalizing segments with
  | nil => cases segments <;> exact fun _ hcall => by cases hcall
  | cons offer later ih =>
    cases segments with
    | nil => exact fun _ hcall => by cases hcall
    | cons segment rest =>
      intro call hcall
      rw [callsFrom] at hcall
      rcases List.mem_cons.1 hcall with rfl | hlater
      · exact ⟨List.length_pos_iff.1 (Segments.size_pos hhead),
          Segments.advance?_of_le (Nat.min_le_right _ _)⟩
      · split at hlater
        · cases hlater
        · exact ih (Segments.head?_advance _ _) call hlater

end

/-- A write whose calls are answered, one for each byte if need be, comes to an end. -/
theorem writeSegments_ends {segments : List Bytes} {accepted : List Nat}
    (hcalls : Segments.size segments ≤ accepted.length) :
    writeSegments segments accepted = (.complete (Segments.size segments), segments.flatten)
      ∨ ∃ n < Segments.size segments, writeSegments segments accepted
        = (.failed (.shortWrite n (Segments.size segments)), segments.flatten.take n) := by
  rw [writeSegments_eq, delivery]
  rcases Nat.lt_or_ge (takenAtMost accepted) segments.flatten.length with hshort | henough
  · have hrefused : ¬ (accepted.all fun n => 0 < n) = true := fun hall =>
      absurd (Nat.le_trans hcalls (length_le_takenAtMost hall)) (Nat.not_le.2 hshort)
    rw [if_neg (Nat.not_le.2 hshort), if_neg hrefused, Nat.zero_add]
    exact .inr ⟨_, hshort, rfl⟩
  · rw [if_pos henough, Nat.zero_add]
    exact .inl rfl

/-- **Bytes are delivered once, whatever parts of them a socket takes at a time.**  If no call takes
nothing, all segments are delivered, one after the other; otherwise the write falls short, and
reports how many bytes were delivered.  No call is offered nothing, and none is followed by an
advance beyond the segments.  The bytes written in one piece fare the same. -/
theorem delivered_once {segments : List Bytes} {accepted : List Nat}
    (hcalls : Segments.size segments ≤ accepted.length) :
    let total := Segments.size segments
    let result := writeSegments segments accepted
    let calls := writeCalls segments accepted
    ((∀ call ∈ calls, call.taken ≠ 0) → result = (.complete total, segments.flatten))
      ∧ ((∃ call ∈ calls, call.taken = 0) →
        result.1 = .failed (.shortWrite result.2.length total) ∧ result.2 <+: segments.flatten
          ∧ result.2.length < total)
      ∧ result.2 = calls.flatMap WriteCall.bytes
      ∧ Segments.advance? 0 segments = some (Segments.advance 0 segments)
      ∧ (∀ call ∈ calls, call.Sound)
      ∧ writeWhole segments.flatten accepted = result := by
  intro total result calls
  have hdelivered : result.2 = calls.flatMap WriteCall.bytes := flatMap_callsFrom
  have hfailed : (∃ e, result.1 = .failed e) ↔ ∃ call ∈ calls, call.taken = 0 :=
    failed_iff_callsFrom
  refine ⟨fun hall => ?_, fun hrefused => ?_, hdelivered, Segments.advance?_of_le (Nat.zero_le _),
    sound_callsFrom (Segments.head?_advance 0 segments), writeWhole_flatten segments accepted⟩
  · rcases writeSegments_ends hcalls with hcomplete | ⟨n, -, hshort⟩
    · exact hcomplete
    · obtain ⟨call, hcall, hzero⟩ := hfailed.1 ⟨_, congrArg Prod.fst hshort⟩
      exact absurd hzero (hall call hcall)
  · rcases writeSegments_ends hcalls with hcomplete | ⟨n, hless, hshort⟩
    · obtain ⟨e, he⟩ := hfailed.2 hrefused
      cases (congrArg Prod.fst hcomplete).symm.trans he
    · have hresult : result = (_, _) := hshort
      have hlength : (segments.flatten.take n).length = n :=
        List.length_take_of_le (Nat.le_of_lt hless)
      rw [hresult, hlength]
      exact ⟨rfl, List.take_prefix _ _, hless⟩

/-- A write stops at a boundary, between empty segments, when the socket takes no more. -/
theorem delivered_once_up_to_boundary :
    writeCalls [[], [1, 2], [], [3], []] [1, 1, 0]
        = [⟨[[1, 2], [], [3], []], 1⟩, ⟨[[2], [], [3], []], 1⟩, ⟨[[3], []], 0⟩]
      ∧ writeSegments [[], [1, 2], [], [3], []] [1, 1, 0]
        = (.failed (.shortWrite 2 3), [1, 2]) := by
  have hcalls : writeCalls [[], [1, 2], [], [3], []] [1, 1, 0]
      = [⟨[[1, 2], [], [3], []], 1⟩, ⟨[[2], [], [3], []], 1⟩, ⟨[[3], []], 0⟩] := by decide
  have henough : Segments.size [[], [1, 2], [], [3], []] ≤ [1, 1, 0].length := by decide
  have honce := delivered_once henough
  dsimp only at honce
  generalize writeSegments [[], [1, 2], [], [3], []] [1, 1, 0] = result at honce
  obtain ⟨ended, delivered⟩ := result
  obtain ⟨-, hshort, hdelivered, -⟩ := honce
  obtain ⟨hended, -, -⟩ := hshort ⟨⟨[[3], []], 0⟩, by rw [hcalls]; decide, rfl⟩
  rw [hcalls] at hdelivered
  subst hdelivered
  exact ⟨hcalls, Prod.ext hended rfl⟩

end TokenBroker
