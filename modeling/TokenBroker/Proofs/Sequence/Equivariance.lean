import Mathlib.Data.List.Forall2
import Mathlib.Data.UInt
import TokenBroker.Proofs.Sequence.Alternation
import TokenBroker.Sequence.Observer
/-!
# Numbering is the same everywhere

Both ends of a connection know ids only by their distances, modulo 2^32.  So if every id that
goes into a run is shifted by one and the same amount, all that comes out of it is shifted by this
amount, and nothing else changes.  In particular nothing is special about the ids around which
numbers wrap.

* `shift` moves all ids in an operation, an outcome, a tracker and so on.
* `Tracker.perform_shift` and `Observer.observe_shift` say that one step commutes with it.
* `shifted_alike` says what this comes to for a tracker and an observer over whole runs.
-/

set_option autoImplicit false

namespace TokenBroker
namespace Sequence

/-! ## Shifting ids -/

/-- The same operation with other ids. -/
def Operation.shift (c : UInt32) : Operation → Operation
  | issue => issue
  | pair received => pair (received + c)
  | reset initial => reset (initial + c)

/-- The same error about other ids. -/
def Error.shift (c : UInt32) : Error → Error
  | commandInFlight outstanding => commandInFlight (outstanding + c)
  | mismatch expected received => mismatch (expected + c) (received + c)
  | desynchronized expected received => desynchronized (expected + c) (received + c)

/-- The same outcome with other ids. -/
def Outcome.shift (c : UInt32) : Outcome → Outcome
  | issued id => issued (id + c)
  | paired => paired
  | cleared => cleared
  | failed error => failed (error.shift c)

/-- A tracker that has seen the same with other ids. -/
def Tracker.shift (c : UInt32) (t : Tracker) : Tracker :=
  ⟨t.lastIssued + c, t.outstanding, t.desync.map fun lost => (lost.1 + c, lost.2 + c)⟩

/-- The same observation of other ids. -/
def Observation.shift (c : UInt32) : Observation → Observation
  | first => first
  | inOrder => inOrder
  | gap previous current => gap (previous + c) (current + c)

/-- An observer that has seen the same with other ids. -/
def Observer.shift (c : UInt32) (o : Observer) : Observer := ⟨o.previous.map (· + c)⟩

@[simp] theorem Tracker.lastIssued_shift (c : UInt32) (t : Tracker) :
    (t.shift c).lastIssued = t.lastIssued + c := rfl

@[simp] theorem Tracker.outstanding_shift (c : UInt32) (t : Tracker) :
    (t.shift c).outstanding = t.outstanding := rfl

@[simp] theorem Tracker.isDesynchronized_shift (c : UInt32) (t : Tracker) :
    (t.shift c).isDesynchronized = t.isDesynchronized := Option.isSome_map

theorem Tracker.shift_fresh (c initial : UInt32) :
    (fresh initial).shift c = fresh (initial + c) := rfl

/-! ## One step -/

/-- How far an id trails another one is a matter of their distance. -/
theorem Tracker.trails_shift (c expected received : UInt32) :
    trails (expected + c) (received + c) = trails expected received := by
  rw [trails, trails, add_sub_add_right_eq_sub]

theorem Tracker.issue_shift (c : UInt32) (t : Tracker) :
    (t.shift c).perform .issue
      = ((t.perform .issue).1.shift c, (t.perform .issue).2.shift c) := by
  obtain ⟨last, outstanding, desync⟩ := t
  cases desync with
  | some lost => rfl
  | none =>
    cases outstanding with
    | true => rfl
    | false =>
      show (Outcome.issued (last + c + 1), Tracker.mk (last + c + 1) true none)
        = (Outcome.issued (last + 1 + c), Tracker.mk (last + 1 + c) true none)
      rw [add_right_comm]

theorem Tracker.pair_shift (c received : UInt32) (t : Tracker) :
    (t.shift c).perform (.pair (received + c))
      = ((t.perform (.pair received)).1.shift c, (t.perform (.pair received)).2.shift c) := by
  obtain ⟨last, outstanding, desync⟩ := t
  cases desync with
  | some lost => rfl
  | none =>
    have hsame : (received + c == last + c) = (received == last) := by
      rw [Bool.eq_iff_iff, beq_iff_eq, beq_iff_eq, UInt32.add_left_inj]
    have htrails := trails_shift c last received
    simp only [perform, pair, shift, Option.map_none, hsame, htrails]
    by_cases hpairs : (outstanding && received == last) = true
    · rw [if_pos hpairs, if_pos hpairs]
      rfl
    · rw [if_neg hpairs, if_neg hpairs]
      by_cases hlost : trails last received = true
      · rw [if_pos hlost, if_pos hlost]
        rfl
      · rw [if_neg hlost, if_neg hlost]
        rfl

/-- One operation on shifted ids does the same, with the ids in it shifted. -/
theorem Tracker.perform_shift (c : UInt32) (t : Tracker) (operation : Operation) :
    (t.shift c).perform (operation.shift c)
      = ((t.perform operation).1.shift c, (t.perform operation).2.shift c) := by
  cases operation with
  | issue => exact t.issue_shift c
  | pair received => exact t.pair_shift c received
  | reset initial => rfl

/-- One id more, shifted like those before it, is seen to follow or not to follow as before. -/
theorem Observer.observe_shift (c : UInt32) (o : Observer) (current : UInt32) :
    (o.shift c).observe (current + c)
      = ((o.observe current).1.shift c, (o.observe current).2.shift c) := by
  obtain ⟨_ | previous⟩ := o
  · rfl
  · simp only [observe, shift, Option.map_some, add_sub_add_right_eq_sub]
    by_cases hnext : current - previous = 1
    · rw [if_pos hnext, if_pos hnext]
      rfl
    · rw [if_neg hnext, if_neg hnext]
      rfl

/-! ## Whole runs -/

/-- Two events differ in their ids alone, which are shifted in all that was asked, in all that was
answered and in the tracker that was left. -/
structure Event.Shifted (c : UInt32) (e e' : Event) : Prop where
  operation : e'.operation = e.operation.shift c
  outcome : e'.outcome = e.outcome.shift c
  lastIssued : e'.left.lastIssued = e.left.lastIssued + c
  outstanding : e'.left.outstanding = e.left.outstanding
  isDesynchronized : e'.left.isDesynchronized = e.left.isDesynchronized

theorem Event.shifted (c : UInt32) (t : Tracker) (operation : Operation) :
    Event.Shifted c ⟨t, operation⟩ ⟨t.shift c, operation.shift c⟩ := by
  have hperform := t.perform_shift c operation
  have hleft : Event.left ⟨t.shift c, operation.shift c⟩
      = (Event.left ⟨t, operation⟩).shift c := congrArg Prod.snd hperform
  exact {
    operation := rfl
    outcome := congrArg Prod.fst hperform
    lastIssued := by rw [hleft, Tracker.lastIssued_shift]
    outstanding := by rw [hleft, Tracker.outstanding_shift]
    isDesynchronized := by rw [hleft, Tracker.isDesynchronized_shift] }

theorem Tracker.events_shift (c : UInt32) (t : Tracker) (operations : List Operation) :
    List.Forall₂ (Event.Shifted c) (t.events operations)
      ((t.shift c).events (operations.map (·.shift c))) := by
  induction operations generalizing t with
  | nil => exact .nil
  | cons operation rest ih =>
    rw [List.map_cons, events, events, perform_shift]
    exact .cons (Event.shifted c t operation) (ih _)

theorem Observer.observeAll_shift (c : UInt32) (o : Observer) (ids : List UInt32) :
    (o.shift c).observeAll (ids.map (· + c)) = (o.observeAll ids).map (·.shift c) := by
  induction ids generalizing o with
  | nil => rfl
  | cons id rest ih =>
    rw [List.map_cons, observeAll, observeAll, observe_shift, ih, List.map_cons]

/-- **Wrapping around cannot be seen.**  Shift the initial value and all ids that a tracker is
given, be it to pair or to start anew: at every step it answers the same about shifted ids, and
whether it awaits a response or has lost step is the same.  Shift all ids that an observer is
shown: it reports the same about shifted ids. -/
theorem shifted_alike (c initial : UInt32) (operations : List Operation) (ids : List UInt32) :
    List.Forall₂ (Event.Shifted c) ((Tracker.fresh initial).events operations)
        ((Tracker.fresh (initial + c)).events (operations.map (·.shift c)))
      ∧ Observer.observeAll {} (ids.map (· + c))
        = (Observer.observeAll {} ids).map (·.shift c) := by
  refine ⟨?_, Observer.observeAll_shift c {} ids⟩
  rw [← Tracker.shift_fresh]
  exact (Tracker.fresh initial).events_shift c operations

end Sequence
end TokenBroker
