import TokenBroker.Metrics.Basic
/-!
# What the metrics count

Metrics are a fold over what handlers do.  Each of them is a count of events of one kind, whatever
the order in which the events came and however long the answers took.

* `noteAll` is the fold, with the time that each answer took; `noteAll_eq` says what it counts.
-/

set_option autoImplicit false

namespace TokenBroker

namespace Handler.Event

/-- The caller of a connection is known, and it is going to be served. -/
def isStart : Event → Bool
  | started => true
  | _ => false

/-- A connection that was served is closed. -/
def isEnd : Event → Bool
  | ended _ => true
  | _ => false

/-- A gap in the numbering of commands is noticed. -/
def isGap : Event → Bool
  | gap _ _ => true
  | _ => false

/-- A command is dispatched, and the storage fails. -/
def isFailure : Event → Bool
  | dispatched _ _ reply => reply.result = .storageError
  | _ => false

/-- The response that is written to its end. -/
def response? : Event → Option Response
  | answered response => some response
  | _ => none

end Handler.Event

namespace Metrics

open Handler

/-- What is noted of an event with the time it took. -/
def sample? (item : Nat × Event) : Option Sample :=
  item.2.response?.map fun r => ⟨r.label, r.result, r.received, item.1⟩

/-- Take in what handlers did, each event with the time that an answer took. -/
def noteAll (m : Metrics) (timed : List (Nat × Event)) : Metrics :=
  timed.foldl (fun m item => m.note item.1 item.2) m

/-- What one event counts for. -/
theorem note_eq (m : Metrics) (nanoseconds : Nat) (event : Event) :
    m.note nanoseconds event =
      { responses := m.responses ++ (sample? (nanoseconds, event)).toList
        sequenceGaps := m.sequenceGaps + if event.isGap then 1 else 0
        storageErrors := m.storageErrors + if event.isFailure then 1 else 0
        activeConnections := m.activeConnections + (if event.isStart then 1 else 0)
          - if event.isEnd then 1 else 0 } := by
  cases event with
  | dispatched command payload reply =>
    by_cases hfailed : reply.result = .storageError <;>
      simp [note, sample?, Event.isStart, Event.isEnd, Event.isGap, Event.isFailure,
        Event.response?, hfailed]
  | started | gap | sent | answered | ended | rejected =>
    simp [note, record, sample?, Event.isStart, Event.isEnd, Event.isGap, Event.isFailure,
      Event.response?]

/-- **What the metrics count.** -/
theorem noteAll_eq (m : Metrics) (timed : List (Nat × Event)) :
    m.noteAll timed =
      { responses := m.responses ++ timed.filterMap sample?
        sequenceGaps := m.sequenceGaps + timed.countP (·.2.isGap)
        storageErrors := m.storageErrors + timed.countP (·.2.isFailure)
        activeConnections := m.activeConnections + timed.countP (·.2.isStart)
          - timed.countP (·.2.isEnd) } := by
  induction timed generalizing m with
  | nil => simp [noteAll]
  | cons item rest ih =>
    obtain ⟨nanoseconds, event⟩ := item
    have hrest : m.noteAll ((nanoseconds, event) :: rest)
        = (m.note nanoseconds event).noteAll rest := rfl
    rw [hrest, ih, note_eq]
    simp only [List.countP_cons, List.append_assoc, mk.injEq]
    refine ⟨?_, ?_, ?_, ?_⟩
    · cases hsample : sample? (nanoseconds, event) <;> simp [hsample]
    · omega
    · omega
    · cases event.isStart <;> cases event.isEnd <;> simp <;> omega

theorem ofEvents_eq (events : List Event) :
    ofEvents events = noteAll {} (events.map fun event => (0, event)) := by
  rw [ofEvents, noteAll, List.foldl_map]

/-- The gauge of a series of events. -/
theorem activeConnections_ofEvents (events : List Event) :
    (ofEvents events).activeConnections
      = events.countP Event.isStart - events.countP Event.isEnd := by
  rw [ofEvents_eq, noteAll_eq]
  simp [List.countP_map, Function.comp_def]

end Metrics
end TokenBroker
