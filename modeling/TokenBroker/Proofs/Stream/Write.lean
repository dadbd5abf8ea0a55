import Mathlib.Algebra.GroupWithZero.Nat
import TokenBroker.Stream.Line
/-!
# Gathered writes reach their end

A socket that takes only a part of what it is offered makes a write go on, never go wrong.

* `Obliging` is all that is asked of the socket: no call is in vain.
* `Segments.flatten_advance` says that the segments that are left hold what is left, and
  `Segments.head?_advance` that none of them is empty at the front, so that the socket is never
  offered nothing.
* `writeSegments_complete` and `Line.write_complete` put the two together: every byte is delivered,
  in order, and nothing else.
-/

set_option autoImplicit false

namespace TokenBroker

/-- A socket that takes at least a byte at each call, and is called until it has taken `total`. -/
structure Obliging (accepted : List Nat) (total : Nat) : Prop where
  positive : ∀ n ∈ accepted, 0 < n
  enough : total ≤ accepted.sum

namespace Segments

/-- What is left to write after some bytes. -/
theorem flatten_advance (n : Nat) (segments : List Bytes) :
    (advance n segments).flatten = segments.flatten.drop n := by
  induction segments generalizing n with
  | nil => rw [advance, List.flatten_nil, List.drop_nil]
  | cons segment rest ih =>
    rw [advance, List.flatten_cons]
    split
    · next h => rw [ih, List.drop_append, List.drop_eq_nil_of_le h, List.nil_append]
    · next h =>
      rw [List.flatten_cons, List.drop_append_of_le_length (Nat.le_of_lt (Nat.not_le.1 h))]

/-- A segment that is used up does not stay. -/
theorem head?_advance (n : Nat) (segments : List Bytes) : (advance n segments).head? ≠ some [] := by
  induction segments generalizing n with
  | nil => exact fun h => nomatch h
  | cons segment rest ih =>
    rw [advance]
    split
    · exact ih _
    · next h =>
      rw [List.head?_cons]
      intro hempty
      have hlength := congrArg List.length (Option.some.inj hempty)
      rw [List.length_drop, List.length_nil] at hlength
      omega

theorem size_advance (n : Nat) (segments : List Bytes) :
    size (advance n segments) = size segments - n := by
  rw [size, flatten_advance, List.length_drop, size]

/-- Something is left as long as there are segments. -/
theorem size_pos {segment : Bytes} {rest : List Bytes}
    (h : (segment :: rest).head? ≠ some []) : 0 < size (segment :: rest) := by
  have hpos : 0 < segment.length := List.length_pos_iff.2 fun hempty => h (by rw [hempty]; rfl)
  rw [size, List.flatten_cons, List.length_append]
  omega

end Segments

/-- The loop delivers all that is left, call by call. -/
theorem writeLoop_complete {expected written : Nat} {segments : List Bytes} {accepted : List Nat}
    (hhead : segments.head? ≠ some []) (h : Obliging accepted (Segments.size segments)) :
    writeLoop expected written segments accepted
      = (.complete (written + Segments.size segments), segments.flatten) := by
  induction accepted generalizing written segments with
  | nil =>
    cases segments with
    | nil => rfl
    | cons segment rest => exact absurd h.enough (Nat.not_le.2 (Segments.size_pos hhead))
  | cons offer later ih =>
    cases segments with
    | nil => rfl
    | cons segment rest =>
      have hpos := Segments.size_pos hhead
      have hoffer := h.positive offer List.mem_cons_self
      have henough := h.enough
      rw [List.sum_cons] at henough
      obtain ⟨n, hn⟩ : ∃ n, n = min offer (Segments.size (segment :: rest)) := ⟨_, rfl⟩
      have hlater : Obliging later (Segments.size (Segments.advance n (segment :: rest))) :=
        ⟨fun k hk => h.positive k (List.mem_cons_of_mem _ hk), by
          rw [Segments.size_advance]
          omega⟩
      have htotal : written + n + (Segments.size (segment :: rest) - n)
          = written + Segments.size (segment :: rest) := by omega
      simp only [writeLoop]
      rw [← hn, if_neg (by omega), ih (Segments.head?_advance _ _) hlater, Segments.size_advance,
        Segments.flatten_advance, List.take_append_drop, htotal]

/-- **A gathered write to an obliging socket delivers all segments, one after the other.** -/
theorem writeSegments_complete {segments : List Bytes} {accepted : List Nat}
    (h : Obliging accepted (Segments.size segments)) :
    writeSegments segments accepted = (.complete (Segments.size segments), segments.flatten) := by
  have hsize : Segments.size (Segments.advance 0 segments) = Segments.size segments :=
    Segments.size_advance 0 segments
  rw [writeSegments, writeLoop_complete (Segments.head?_advance 0 segments) (by rwa [hsize]), hsize,
    Nat.zero_add, Segments.flatten_advance, List.drop_zero]

theorem Line.write_complete {l : Line} (hhere : l.socket.gone = false) {segments : List Bytes}
    {accepted : List Nat} (h : Obliging accepted (Segments.size segments)) :
    l.write segments accepted = (.complete (Segments.size segments), segments.flatten) := by
  rw [write, hhere, Bool.false_and, if_neg Bool.false_ne_true, writeSegments_complete h]

/-- A write to a socket that takes less than there is comes to a stand. -/
theorem writeSegments_blocked {segments : List Bytes} {taken : Nat}
    (h : taken < Segments.size segments) :
    writeSegments segments (if taken = 0 then [] else [taken])
      = (.blocked taken, segments.flatten.take taken) := by
  have hsize : taken < Segments.size (Segments.advance 0 segments) := by
    rwa [Segments.size_advance, Nat.sub_zero]
  have hflat : segments.flatten = (Segments.advance 0 segments).flatten := by
    rw [Segments.flatten_advance, List.drop_zero]
  rw [writeSegments, hflat]
  generalize Segments.advance 0 segments = left at hsize
  cases left with
  | nil => exact absurd hsize (Nat.not_lt_zero _)
  | cons segment rest =>
    split
    · next hzero => rw [hzero, List.take_zero]; rfl
    · next hpos =>
      have hmin : min taken (Segments.size (segment :: rest)) = taken :=
        Nat.min_eq_left (Nat.le_of_lt hsize)
      have hleft : 0 < Segments.size (Segments.advance taken (segment :: rest)) := by
        rw [Segments.size_advance]
        omega
      simp only [writeLoop, hmin, if_neg hpos]
      cases hrest : Segments.advance taken (segment :: rest) with
      | nil =>
        rw [hrest] at hleft
        exact absurd hleft (Nat.lt_irrefl 0)
      | cons next later => simp only [writeLoop, Nat.zero_add, List.append_nil]

theorem Line.write_blocked (l : Line) {segments : List Bytes} {taken : Nat}
    (h : taken < Segments.size segments) :
    l.write segments (if taken = 0 then [] else [taken])
      = if l.socket.gone then (.failed (.io (.os .brokenPipe)), [])
        else (.blocked taken, segments.flatten.take taken) := by
  have hsome : Segments.size segments ≠ 0 := Nat.ne_of_gt (Nat.zero_lt_of_lt h)
  rw [write, decide_eq_true hsome, Bool.and_true, writeSegments_blocked h]

end TokenBroker
