import TokenBroker.Daemon.Handler
/-!
# Metrics

What a daemon counts: responses by command and result, gaps in the numbering of commands, failures
of the storage, connections being served, and for each response the size of the payload it answers
and the time it took.

* `Metrics.record` notes one response; `Metrics.note` takes in one event of a handler, so that the
  metrics of a run are a fold over what its handlers do.
* `Histogram` is a list of samples with bounds; its counts are views of the samples.

A response counts at three instruments: the counter of its labels and the two histograms.  Nothing
stands between the three updates, so that one list of responses is held for all of them, and
`Metrics.count`, `Metrics.payloadSize` and `Metrics.requestDuration` are three views of it.
-/

set_option autoImplicit false

namespace TokenBroker

/-- Samples, counted by how they stand to fixed bounds. -/
structure Histogram where
  bounds : List Float
  /-- The samples in the order in which they were taken. -/
  samples : List Float

namespace Histogram

/-- The number of samples. -/
def count (h : Histogram) : Nat := h.samples.length

/-- The sum of all samples, added up in their order. -/
def sum (h : Histogram) : Float := h.samples.foldl (· + ·) 0

/-- The number of samples up to a bound, the bound included. -/
def upTo (h : Histogram) (bound : Float) : Nat := (h.samples.filter fun x => x ≤ bound).length

/-- For each bound, the number of samples up to it. -/
def cumulative (h : Histogram) : List Nat := h.bounds.map h.upTo

end Histogram

/-- A response that was counted. -/
structure Sample where
  /-- What the command is called. -/
  label : String
  result : ResultCode
  /-- The size of the payload that was answered. -/
  payloadSize : Nat
  /-- How long the answer took. -/
  nanoseconds : Nat
  deriving DecidableEq

/-- What has been counted. -/
structure Metrics where
  /-- The responses, the earliest first. -/
  responses : List Sample := []
  sequenceGaps : Nat := 0
  storageErrors : Nat := 0
  activeConnections : Int := 0

namespace Metrics

/-- The bounds for payload sizes, in bytes. -/
def payloadBounds : List Float := [0, 64, 256, 1024, 4096, 16384, 65536]

/-- The bounds for durations, in seconds. -/
def durationBounds : List Float := [0.005, 0.01, 0.025, 0.05, 0.1, 0.25, 0.5, 1, 2.5, 5, 10]

/-- Note a response. -/
def record (m : Metrics) (sample : Sample) : Metrics :=
  { m with responses := m.responses ++ [sample] }

/-- The labels under which a response is counted. -/
def labels (sample : Sample) : String × String := (sample.label, sample.result.label)

/-- How many responses have these labels. -/
def count (m : Metrics) (key : String × String) : Nat :=
  (m.responses.filter fun sample => labels sample = key).length

/-- All labels in use, in the order of their first use. -/
def keys (m : Metrics) : List (String × String) := (m.responses.map labels).eraseDups

/-- A number of bytes as a sample. -/
def bytesSample (n : Nat) : Float := (UInt64.ofNat n).toFloat

/-- A duration in seconds, the whole seconds and the rest added up. -/
def secondsSample (nanoseconds : Nat) : Float :=
  (UInt64.ofNat (nanoseconds / 1000000000)).toFloat
    + (UInt64.ofNat (nanoseconds % 1000000000)).toFloat / 1000000000

/-- The sizes of payloads. -/
def payloadSize (m : Metrics) : Histogram :=
  ⟨payloadBounds, m.responses.map fun sample => bytesSample sample.payloadSize⟩

/-- The durations of answers. -/
def requestDuration (m : Metrics) : Histogram :=
  ⟨durationBounds, m.responses.map fun sample => secondsSample sample.nanoseconds⟩

/-- Take in what a handler did, every answer taking the given time. -/
def note (nanoseconds : Nat) (m : Metrics) : Handler.Event → Metrics
  | .started => { m with activeConnections := m.activeConnections + 1 }
  | .gap _ _ => { m with sequenceGaps := m.sequenceGaps + 1 }
  | .dispatched _ _ reply =>
    if reply.result = .storageError then { m with storageErrors := m.storageErrors + 1 } else m
  | .sent _ => m
  | .answered r => m.record ⟨r.label, r.result, r.received, nanoseconds⟩
  | .ended _ => { m with activeConnections := m.activeConnections - 1 }
  | .rejected _ => m

/-- The metrics of a series of events. -/
def ofEvents (events : List Handler.Event) : Metrics := events.foldl (note 0) {}

end Metrics
end TokenBroker
