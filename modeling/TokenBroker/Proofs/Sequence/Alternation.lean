import Mathlib.Algebra.Group.Nat.Defs
import Mathlib.Data.List.Basic
import TokenBroker.Sequence.Tracker
/-!
# Commands and responses alternate

Whatever is asked of a tracker, and in whatever order, between two resets it issues consecutive
ids, and has each answered before it issues the next.

* `Event` is one operation with the tracker it found, and `Tracker.events` are those of a list of
  operations.
* `Performed` lists what an operation can do.
* `Standing` is what the events so far tell of the tracker; `Standing.step` adds an event to it, and
  `Standing.run` a stretch without a reset.
* `Orderly` is what can be seen of a tracker between two resets, and `orderly_between_resets` that
  it is always seen.
-/

set_option autoImplicit false

namespace TokenBroker
namespace Sequence

/-! ## Operations and events -/

/-- What can be asked of a tracker. -/
inductive Operation where
  | issue
  | pair (received : UInt32)
  | reset (initial : UInt32)
  deriving DecidableEq

/-- Whether the tracker starts anew. -/
def Operation.isReset : Operation → Bool
  | reset _ => true
  | _ => false

/-- What comes of an operation. -/
inductive Outcome where
  | issued (id : UInt32)
  | paired
  | cleared
  | failed (error : Error)
  deriving DecidableEq

/-- Do what is asked. -/
def Tracker.perform (t : Tracker) : Operation → Outcome × Tracker
  | .issue =>
    match t.issue with
    | (.ok id, t') => (.issued id, t')
    | (.error error, t') => (.failed error, t')
  | .pair received =>
    match t.pair received with
    | (.ok (), t') => (.paired, t')
    | (.error error, t') => (.failed error, t')
  | .reset initial => (.cleared, t.reset initial)

/-- An operation and the tracker that it found. -/
structure Event where
  found : Tracker
  operation : Operation
  deriving DecidableEq

namespace Event

/-- What came of the operation. -/
def outcome (e : Event) : Outcome := (e.found.perform e.operation).1

/-- The tracker after the operation. -/
def left (e : Event) : Tracker := (e.found.perform e.operation).2

end Event

/-- Operations one after the other. -/
def Tracker.events : Tracker → List Operation → List Event
  | _, [] => []
  | t, operation :: rest => ⟨t, operation⟩ :: (t.perform operation).2.events rest

/-- One of the events reported that the two sides lost step, and by which ids. -/
def Reported (events : List Event) (expected received : UInt32) : Prop :=
  ∃ e ∈ events, e.outcome = .failed (.desynchronized expected received)

/-- One of the events reported that the two sides lost step. -/
def Lost (events : List Event) : Prop := ∃ expected received, Reported events expected received

/-! ## Commands and responses -/

/-- An operation that succeeded, with its id. -/
inductive Milestone where
  | issued (id : UInt32)
  | paired (id : UInt32)
  deriving DecidableEq

/-- The id, if it was issued. -/
def Milestone.issued? : Milestone → Option UInt32
  | issued id => some id
  | paired _ => none

/-- What an operation with such an outcome achieved, if anything. -/
def Operation.milestone? : Operation → Outcome → Option Milestone
  | .issue, .issued id => some (.issued id)
  | .pair received, .paired => some (.paired received)
  | _, _ => none

/-- What the event achieved, if anything. -/
def Event.milestone? (e : Event) : Option Milestone := e.operation.milestone? e.outcome

/-- The successes among the events. -/
def milestones (events : List Event) : List Milestone := events.filterMap Event.milestone?

/-- The ids that were issued. -/
def issuedIds (events : List Event) : List UInt32 :=
  (milestones events).filterMap Milestone.issued?

/-- The id issued last, or the initial value. -/
def lastIssued (initial : UInt32) (events : List Event) : UInt32 :=
  (issuedIds events).getLastD initial

/-- The command that still awaits its response, if there is one. -/
def awaited (events : List Event) : Option UInt32 :=
  (milestones events).getLast?.bind Milestone.issued?

/-- The id that is so far above the initial value. -/
def nthId (initial : UInt32) (n : Nat) : UInt32 := initial + UInt32.ofNat n

/-- So many commands, each with its response before the next. -/
def rounds (initial : UInt32) : Nat → List Milestone
  | 0 => []
  | n + 1 => rounds initial n ++ [.issued (nthId initial (n + 1)), .paired (nthId initial (n + 1))]

variable {initial id expected received : UInt32} {n : Nat} {t : Tracker} {seen : List Event}

theorem reported_concat {e : Event} : Reported (seen ++ [e]) expected received ↔
    Reported seen expected received ∨ e.outcome = .failed (.desynchronized expected received) := by
  simp only [Reported, List.mem_append, List.mem_singleton, or_and_right, exists_or, exists_eq_left]

theorem milestones_concat (seen : List Event) (e : Event) :
    milestones (seen ++ [e]) = milestones seen ++ e.milestone?.toList := by
  rw [milestones, List.filterMap_append]
  cases h : e.milestone? <;> simp [milestones, h]

theorem milestones_concat_failed {e : Event} {error : Error} (h : e.outcome = .failed error) :
    milestones (seen ++ [e]) = milestones seen := by
  have hnone : e.milestone? = none := by
    rw [Event.milestone?, h]
    cases e.operation <;> rfl
  rw [milestones_concat, hnone]
  exact List.append_nil _

theorem nthId_zero (initial : UInt32) : nthId initial 0 = initial := UInt32.add_zero _

theorem nthId_succ (initial : UInt32) (n : Nat) : nthId initial (n + 1) = nthId initial n + 1 := by
  rw [nthId, nthId, UInt32.ofNat_add, UInt32.add_assoc]
  rfl

theorem issued_rounds (initial : UInt32) (n : Nat) :
    (rounds initial n).filterMap Milestone.issued?
      = (List.range n).map fun k => nthId initial (k + 1) := by
  induction n with
  | zero => rfl
  | succ n ih =>
    rw [rounds, List.filterMap_append, ih, List.range_succ, List.map_append]
    rfl

theorem awaited_rounds (initial : UInt32) (n : Nat) :
    (rounds initial n).getLast?.bind Milestone.issued? = none := by
  cases n with
  | zero => rfl
  | succ n =>
    rw [rounds, List.getLast?_append]
    rfl

theorem getLastD_nthId (initial : UInt32) (n : Nat) :
    ((List.range n).map fun k => nthId initial (k + 1)).getLastD initial = nthId initial n := by
  cases n with
  | zero => exact (nthId_zero initial).symm
  | succ n => rw [List.range_succ, List.map_append, List.map_singleton, List.getLastD_concat]

/-! ## What an operation does -/

/-- An id trails the one issued last by more than one, and is not ahead of it. -/
def Trails (expected received : UInt32) : Prop :=
  2 ≤ (expected - received).toNat ∧ (expected - received).toNat ≤ 2 ^ 31 - 1

instance (expected received : UInt32) : Decidable (Trails expected received) :=
  inferInstanceAs (Decidable (_ ∧ _))

theorem Tracker.trails_iff (expected received : UInt32) :
    trails expected received = true ↔ Trails expected received := by
  simp only [trails, Trails, maxExpectedDrift, maxBehind, Bool.and_eq_true, decide_eq_true_eq,
    UInt32.lt_iff_toNat_lt, UInt32.le_iff_toNat_le]
  rfl

/-- Everything that an operation other than a reset can do to a tracker. -/
inductive Performed : Tracker → Operation → Outcome → Tracker → Prop
  /-- The two sides have lost step before. -/
  | stuck {last : UInt32} {outstanding : Bool} {operation : Operation}
      (expected received : UInt32) :
      Performed ⟨last, outstanding, some (expected, received)⟩ operation
        (.failed (.desynchronized expected received))
        ⟨last, outstanding, some (expected, received)⟩
  | issued (last : UInt32) :
      Performed ⟨last, false, none⟩ .issue (.issued (last + 1)) ⟨last + 1, true, none⟩
  | inFlight (last : UInt32) :
      Performed ⟨last, true, none⟩ .issue (.failed (.commandInFlight last)) ⟨last, true, none⟩
  | paired (last : UInt32) :
      Performed ⟨last, true, none⟩ (.pair last) .paired ⟨last, false, none⟩
  | trails {last received : UInt32} {outstanding : Bool}
      (hother : ¬ (outstanding = true ∧ received = last)) (htrails : Trails last received) :
      Performed ⟨last, outstanding, none⟩ (.pair received) (.failed (.desynchronized last received))
        ⟨last, outstanding, some (last, received)⟩
  | mismatch {last received : UInt32} {outstanding : Bool}
      (hother : ¬ (outstanding = true ∧ received = last)) (htrails : ¬ Trails last received) :
      Performed ⟨last, outstanding, none⟩ (.pair received) (.failed (.mismatch last received))
        ⟨last, outstanding, none⟩

theorem Event.performed_pair (last received : UInt32) (outstanding : Bool) :
    Performed ⟨last, outstanding, none⟩ (.pair received)
      (Event.outcome ⟨⟨last, outstanding, none⟩, .pair received⟩)
      (Event.left ⟨⟨last, outstanding, none⟩, .pair received⟩) := by
  simp only [outcome, left, Tracker.perform, Tracker.pair, Bool.and_eq_true, beq_iff_eq]
  by_cases hpairs : outstanding = true ∧ received = last
  · obtain ⟨rfl, rfl⟩ := hpairs
    simpa using Performed.paired received
  · by_cases htrails : Trails last received
    · rw [if_neg hpairs, if_pos ((Tracker.trails_iff last received).2 htrails)]
      exact .trails hpairs htrails
    · rw [if_neg hpairs, if_neg (mt (Tracker.trails_iff last received).1 htrails)]
      exact .mismatch hpairs htrails

theorem Event.performed (e : Event) (h : e.operation.isReset = false) :
    Performed e.found e.operation e.outcome e.left := by
  obtain ⟨⟨last, outstanding, desync⟩, operation⟩ := e
  cases desync with
  | some lost =>
    cases operation with
    | issue => exact .stuck lost.1 lost.2
    | pair received => exact .stuck lost.1 lost.2
    | reset initial => cases h
  | none =>
    cases operation with
    | issue =>
      cases outstanding with
      | false => exact .issued last
      | true => exact .inFlight last
    | pair received => exact performed_pair last received outstanding
    | reset initial => cases h

namespace Tracker

/-- The tracker after events of its own. -/
def after (t : Tracker) (events : List Event) : Tracker := events.foldl (fun _ e => e.left) t

theorem events_cons {operations : List Operation} {e : Event} {rest : List Event}
    (h : t.events operations = e :: rest) :
    e.found = t ∧ ∃ operations', rest = e.left.events operations' := by
  cases operations with
  | nil => cases h
  | cons operation operations =>
    cases h
    exact ⟨rfl, operations, rfl⟩

theorem events_append {operations : List Operation} {rest : List Event}
    (h : t.events operations = seen ++ rest) :
    ∃ operations', rest = (t.after seen).events operations' := by
  induction seen generalizing t operations with
  | nil => exact ⟨operations, h.symm⟩
  | cons e seen ih =>
    obtain ⟨-, operations', hrest⟩ := events_cons h
    exact ih hrest.symm

theorem found_eq {operations : List Operation} {e : Event} {rest : List Event}
    (h : t.events operations = seen ++ e :: rest) : e.found = t.after seen := by
  obtain ⟨operations', hrest⟩ := events_append h
  exact (events_cons hrest.symm).1

end Tracker

/-! ## What the events so far tell -/

/-- The successes so far are whole rounds, with one more command if the tracker awaits a response,
and the last of their ids is the one it issued last. -/
def Counted (initial : UInt32) (successes : List Milestone) (t : Tracker) : Prop :=
  ∃ n, t.lastIssued = nthId initial n ∧ t.outstanding = false ∧ successes = rounds initial n
    ∨ t.lastIssued = nthId initial (n + 1) ∧ t.outstanding = true
      ∧ successes = rounds initial n ++ [.issued (nthId initial (n + 1))]

/-- The tracker is as the events since it was new tell. -/
structure Standing (initial : UInt32) (seen : List Event) (t : Tracker) : Prop where
  counted : Counted initial (milestones seen) t
  desync : ∀ expected received,
    t.desync = some (expected, received) ↔ Reported seen expected received

namespace Standing

theorem start (initial : UInt32) : Standing initial [] (.fresh initial) where
  counted := ⟨0, .inl ⟨(nthId_zero initial).symm, rfl, rfl⟩⟩
  desync := fun expected received => by simp [Tracker.fresh, Reported]

theorem exists_issuedIds (h : Standing initial seen t) : ∃ n,
    issuedIds seen = ((List.range n).map fun k => nthId initial (k + 1))
      ∧ t.lastIssued = nthId initial n := by
  obtain ⟨n, ⟨hlast, -, hseen⟩ | ⟨hlast, -, hseen⟩⟩ := h.counted
  · exact ⟨n, by rw [issuedIds, hseen, issued_rounds], hlast⟩
  · refine ⟨n + 1, ?_, hlast⟩
    rw [issuedIds, hseen, List.filterMap_append, issued_rounds, List.range_succ, List.map_append]
    rfl

theorem lastIssued_eq (h : Standing initial seen t) : t.lastIssued = lastIssued initial seen := by
  obtain ⟨n, hids, hlast⟩ := h.exists_issuedIds
  rw [hlast, lastIssued, hids, getLastD_nthId]

theorem awaited_eq (h : Standing initial seen t) :
    awaited seen = if t.outstanding then some t.lastIssued else none := by
  obtain ⟨n, ⟨-, hrested, hseen⟩ | ⟨hlast, howing, hseen⟩⟩ := h.counted
  · rw [awaited, hseen, awaited_rounds, hrested]
    rfl
  · rw [awaited, hseen, howing, hlast, List.getLast?_concat]
    rfl

theorem awaited_eq_some (h : Standing initial seen t) :
    awaited seen = some id ↔ t.outstanding = true ∧ id = t.lastIssued := by
  rw [h.awaited_eq]
  cases t.outstanding <;> simp [eq_comm]

theorem desync_eq_none (h : Standing initial seen t) (hlost : ¬ Lost seen) : t.desync = none := by
  cases hdesync : t.desync with
  | none => rfl
  | some lost => exact absurd ⟨lost.1, lost.2, (h.desync lost.1 lost.2).1 hdesync⟩ hlost

/-- An event that succeeds reports no loss. -/
theorem desync_concat {e : Event} {t' : Tracker} (h : Standing initial seen t)
    (houtcome : ∀ error, e.outcome ≠ .failed error) (hdesync : t'.desync = t.desync)
    (expected received : UInt32) :
    t'.desync = some (expected, received) ↔ Reported (seen ++ [e]) expected received := by
  rw [reported_concat, hdesync, h.desync]
  exact ⟨.inl, fun hor => hor.resolve_right (houtcome _)⟩

/-- An event that fails achieves nothing. -/
theorem counted_concat {e : Event} {error : Error} {t' : Tracker} (h : Standing initial seen t)
    (houtcome : e.outcome = .failed error) (hlast : t'.lastIssued = t.lastIssued)
    (houtstanding : t'.outstanding = t.outstanding) :
    Counted initial (milestones (seen ++ [e])) t' := by
  rw [milestones_concat_failed houtcome, Counted, hlast, houtstanding]
  exact h.counted

/-- An event that fails without losing step leaves the tracker, and tells nothing new of it. -/
theorem failed {e : Event} {error : Error} (h : Standing initial seen t)
    (houtcome : e.outcome = .failed error)
    (herror : ∀ expected received, error = .desynchronized expected received →
      t.desync = some (expected, received)) : Standing initial (seen ++ [e]) t where
  counted := h.counted_concat houtcome rfl rfl
  desync := fun expected received => by
    rw [reported_concat, ← h.desync, houtcome, Outcome.failed.injEq]
    exact ⟨.inl, fun hor => hor.elim id (herror expected received)⟩

/-- One event more. -/
theorem step {e : Event} {t' : Tracker} (h : Standing initial seen t)
    (hstep : Performed t e.operation e.outcome t') : Standing initial (seen ++ [e]) t' := by
  generalize hoperation : e.operation = operation at hstep
  generalize houtcome : e.outcome = outcome at hstep
  cases hstep with
  | stuck expected received =>
    refine h.failed houtcome fun expected' received' herror => ?_
    cases herror
    rfl
  | inFlight last => exact h.failed houtcome fun _ _ herror => by cases herror
  | mismatch hother htrails => exact h.failed houtcome fun _ _ herror => by cases herror
  | trails hother htrails =>
    refine ⟨h.counted_concat houtcome rfl rfl, fun expected received => ?_⟩
    rw [reported_concat, ← h.desync, houtcome]
    simp
  | issued last =>
    refine ⟨?_, h.desync_concat (fun error herror => by cases houtcome.symm.trans herror) rfl⟩
    obtain ⟨n, ⟨hlast, -, hseen⟩ | ⟨-, howing, -⟩⟩ := h.counted
    · refine ⟨n, .inr ⟨?_, rfl, ?_⟩⟩
      · rw [nthId_succ, ← hlast]
      · rw [milestones_concat, hseen, Event.milestone?, hoperation, houtcome, nthId_succ, ← hlast]
        rfl
    · cases howing
  | paired last =>
    refine ⟨?_, h.desync_concat (fun error herror => by cases houtcome.symm.trans herror) rfl⟩
    obtain ⟨n, ⟨-, hrested, -⟩ | ⟨hlast, -, hseen⟩⟩ := h.counted
    · cases hrested
    · refine ⟨n + 1, .inl ⟨hlast, rfl, ?_⟩⟩
      rw [milestones_concat, hseen, Event.milestone?, hoperation, houtcome, rounds, ← hlast,
        List.append_assoc]
      rfl

/-- A stretch of events without a reset. -/
theorem run {operations : List Operation} {life rest : List Event} (h : Standing initial seen t)
    (hevents : t.events operations = life ++ rest)
    (hreset : ∀ e ∈ life, e.operation.isReset = false) :
    Standing initial (seen ++ life) (t.after life) := by
  induction life generalizing t seen operations with
  | nil => rwa [List.append_nil]
  | cons e life ih =>
    obtain ⟨hfound, operations', hlater⟩ := Tracker.events_cons hevents
    obtain ⟨hfirst, hothers⟩ := List.forall_mem_cons.1 hreset
    have hstep : Standing initial (seen ++ [e]) e.left :=
      step (hfound ▸ h) (e.performed hfirst)
    rw [List.append_cons]
    exact ih hstep hlater.symm hothers

/-! ### What an event can be told in advance -/

theorem granted {e : Event} (h : Standing initial seen e.found) (hlost : ¬ Lost seen)
    (hissue : e.operation = .issue) :
    e.outcome = match awaited seen with
      | none => .issued (lastIssued initial seen + 1)
      | some id => .failed (.commandInFlight id) := by
  have hawaited := h.awaited_eq
  have hlast := h.lastIssued_eq
  have hdesync := h.desync_eq_none hlost
  have hstep := e.performed (by rw [hissue]; rfl)
  rw [hawaited, ← hlast]
  generalize e.found = t, e.operation = operation, e.outcome = outcome, e.left = t' at *
  cases hstep with
  | stuck => cases hdesync
  | issued last => rfl
  | inFlight last => rfl
  | paired last => cases hissue
  | trails hother htrails => cases hissue
  | mismatch hother htrails => cases hissue

theorem accepted {e : Event} (h : Standing initial seen e.found) (hlost : ¬ Lost seen)
    (hawaited : awaited seen = some id) (hpair : e.operation = .pair id) :
    e.outcome = .paired := by
  have howes := h.awaited_eq_some.1 hawaited
  have hdesync := h.desync_eq_none hlost
  have hstep := e.performed (by rw [hpair]; rfl)
  generalize e.found = t, e.operation = operation, e.outcome = outcome, e.left = t' at *
  cases hstep with
  | stuck => cases hdesync
  | issued last => cases hpair
  | inFlight last => cases hpair
  | paired last => rfl
  | trails hother htrails => cases hpair; exact absurd howes hother
  | mismatch hother htrails => cases hpair; exact absurd howes hother

theorem refused {e : Event} (h : Standing initial seen e.found) (hlost : ¬ Lost seen)
    (hawaited : awaited seen ≠ some received) (hpair : e.operation = .pair received) :
    e.outcome = .failed (if Trails (lastIssued initial seen) received
      then .desynchronized (lastIssued initial seen) received
      else .mismatch (lastIssued initial seen) received) := by
  rw [Ne, h.awaited_eq_some] at hawaited
  have hlast := h.lastIssued_eq
  have hdesync := h.desync_eq_none hlost
  have hstep := e.performed (by rw [hpair]; rfl)
  rw [← hlast]
  generalize e.found = t, e.operation = operation, e.outcome = outcome, e.left = t' at *
  cases hstep with
  | stuck => cases hdesync
  | issued last => cases hpair
  | inFlight last => cases hpair
  | paired last => cases hpair; exact absurd ⟨rfl, rfl⟩ hawaited
  | trails hother htrails => cases hpair; rw [if_pos htrails]
  | mismatch hother htrails => cases hpair; rw [if_neg htrails]

theorem terminal {e : Event} (h : Standing initial seen e.found)
    (hreset : e.operation.isReset = false) (hreported : Reported seen expected received) :
    e.outcome = .failed (.desynchronized expected received) := by
  have hdesync := (h.desync expected received).2 hreported
  have hstep := e.performed hreset
  generalize e.found = t, e.operation = operation, e.outcome = outcome, e.left = t' at *
  cases hstep with
  | stuck => cases hdesync; rfl
  | issued last => cases hdesync
  | inFlight last => cases hdesync
  | paired last => cases hdesync
  | trails hother htrails => cases hdesync
  | mismatch hother htrails => cases hdesync

end Standing

/-- Only a failure that reports a loss of step can change a tracker. -/
theorem Event.left_eq_found {e : Event} {error : Error} (hreset : e.operation.isReset = false)
    (houtcome : e.outcome = .failed error) (herror : error.isFatal = false) :
    e.left = e.found := by
  have hstep := e.performed hreset
  generalize e.found = t, e.operation = operation, e.outcome = outcome, e.left = t' at *
  cases hstep with
  | stuck => rfl
  | issued last => cases houtcome
  | inFlight last => rfl
  | paired last => cases houtcome
  | trails hother htrails => cases houtcome; cases herror
  | mismatch hother htrails => rfl

/-! ## Between two resets -/

/-- What is seen of a tracker that started from an initial value and was not reset since. -/
structure Orderly (initial : UInt32) (life : List Event) : Prop where
  /-- The ids that are issued count up from the initial value. -/
  numbered : issuedIds life
    = (List.range (issuedIds life).length).map fun k => nthId initial (k + 1)
  /-- A command is issued, then its response is paired, then the next command is issued. -/
  alternate : ∃ n, milestones life = rounds initial n
    ∨ milestones life = rounds initial n ++ [.issued (nthId initial (n + 1))]
  /-- An id is issued unless the last one still awaits its response. -/
  granted : ∀ seen e rest, life = seen ++ e :: rest → ¬ Lost seen → e.operation = .issue →
    e.outcome = match awaited seen with
      | none => .issued (lastIssued initial seen + 1)
      | some id => .failed (.commandInFlight id)
  /-- The response that is awaited is accepted. -/
  accepted : ∀ seen e rest id, life = seen ++ e :: rest → ¬ Lost seen →
    awaited seen = some id → e.operation = .pair id → e.outcome = .paired
  /-- Any other is refused, and how far it trails decides on the error. -/
  refused : ∀ seen e rest received, life = seen ++ e :: rest → ¬ Lost seen →
    awaited seen ≠ some received → e.operation = .pair received →
    e.outcome = .failed (if Trails (lastIssued initial seen) received
      then .desynchronized (lastIssued initial seen) received
      else .mismatch (lastIssued initial seen) received)
  /-- A loss of step is reported from then on. -/
  terminal : ∀ seen e rest expected received, life = seen ++ e :: rest →
    Reported seen expected received → e.outcome = .failed (.desynchronized expected received)
  /-- Any other failure leaves the tracker as it was. -/
  unchanged : ∀ e ∈ life, ∀ error, e.outcome = .failed error → error.isFatal = false →
    e.left = e.found

/-- A new tracker is orderly until it is reset. -/
theorem orderly_fresh {operations : List Operation} {life rest : List Event}
    (hevents : (Tracker.fresh initial).events operations = life ++ rest)
    (hreset : ∀ e ∈ life, e.operation.isReset = false) : Orderly initial life := by
  have hstanding : ∀ {seen e later}, life = seen ++ e :: later →
      Standing initial seen e.found ∧ e.operation.isReset = false := by
    rintro seen e later rfl
    rw [List.append_assoc] at hevents
    rw [Tracker.found_eq hevents]
    exact ⟨(Standing.start initial).run hevents fun f hf => hreset f (List.mem_append_left _ hf),
      hreset e (List.mem_append_right _ List.mem_cons_self)⟩
  have hend : Standing initial life ((Tracker.fresh initial).after life) :=
    (Standing.start initial).run hevents hreset
  exact {
    numbered := by
      obtain ⟨n, hids, -⟩ := hend.exists_issuedIds
      rw [hids, List.length_map, List.length_range]
    alternate := by
      obtain ⟨n, ⟨-, -, hlife⟩ | ⟨-, -, hlife⟩⟩ := hend.counted
      · exact ⟨n, .inl hlife⟩
      · exact ⟨n, .inr hlife⟩
    granted := fun seen e later hlife hlost => (hstanding hlife).1.granted hlost
    accepted := fun seen e later id hlife hlost => (hstanding hlife).1.accepted hlost
    refused := fun seen e later received hlife hlost => (hstanding hlife).1.refused hlost
    terminal := fun seen e later expected received hlife =>
      (hstanding hlife).1.terminal (hstanding hlife).2
    unchanged := fun e he error => Event.left_eq_found (hreset e he) }

/-- Whatever was asked of a tracker before, it is orderly from its start, or from when it was reset,
until it is next reset. -/
theorem orderly_between_resets {first : UInt32} {operations : List Operation}
    {earlier life rest : List Event}
    (hevents : (Tracker.fresh first).events operations = earlier ++ (life ++ rest))
    (hstart : earlier = [] ∧ initial = first
      ∨ ∃ before e, earlier = before ++ [e] ∧ e.operation = .reset initial)
    (hreset : ∀ e ∈ life, e.operation.isReset = false) : Orderly initial life := by
  have hnew : (Tracker.fresh first).after earlier = .fresh initial := by
    obtain ⟨rfl, rfl⟩ | ⟨before, ⟨found, operation⟩, rfl, rfl⟩ := hstart
    · rfl
    · rw [Tracker.after, List.foldl_append]
      rfl
  obtain ⟨operations', hlife⟩ := Tracker.events_append hevents
  rw [hnew] at hlife
  exact orderly_fresh hlife.symm hreset

/-- A tracker that lost step and is reset starts again from the new initial value, here the last
one there is. -/
theorem orderly_between_resets_wrap :
    Orderly 0xffffffff [⟨.fresh 0xffffffff, .issue⟩, ⟨⟨0, true, none⟩, .pair 7⟩,
      ⟨⟨0, true, none⟩, .pair 0⟩] :=
  orderly_between_resets
    (show (Tracker.fresh 5).events
        [.issue, .pair 4, .reset 0xffffffff, .issue, .pair 7, .pair 0, .reset 3]
      = [⟨.fresh 5, .issue⟩, ⟨⟨6, true, none⟩, .pair 4⟩,
          ⟨⟨6, true, some (6, 4)⟩, .reset 0xffffffff⟩] ++ (_ ++ [⟨⟨0, false, none⟩, .reset 3⟩])
      by decide)
    (.inr ⟨[⟨.fresh 5, .issue⟩, ⟨⟨6, true, none⟩, .pair 4⟩], _, rfl, rfl⟩) (by decide)

end Sequence
end TokenBroker
