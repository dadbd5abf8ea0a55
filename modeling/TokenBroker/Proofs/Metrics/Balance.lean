import Mathlib.Algebra.BigOperators.Group.List.Lemmas
import Mathlib.Data.List.Dedup
import TokenBroker.Proofs.Daemon.Chronicle
/-!
# The metrics balance

Six instruments are moved at different points of a connection, and every one of them can be told
from the commands that the connections read.

* `Metrics.sum_count_keys` adds up counters with different labels.
* `Balance` says how the metrics stand to the commands of some connections, and `balance_of_run`
  that they do so for all connections of a server.
-/

set_option autoImplicit false

namespace TokenBroker

/-! ## Adding up counters -/

/-- Among those with duplicates erased each element occurs once. -/
theorem nodup_eraseDups {α : Type} [BEq α] [LawfulBEq α] (items : List α) :
    items.eraseDups.Nodup := by
  induction hlength : items.length using Nat.strongRecOn generalizing items with
  | _ n ih =>
  cases items with
  | nil => exact List.nodup_nil
  | cons first rest =>
    rw [List.eraseDups_cons, List.nodup_cons, List.mem_eraseDups]
    have hshort : (rest.filter fun item => !item == first).length < n := by
      rw [← hlength, List.length_cons]
      exact Nat.lt_succ_of_le (List.length_filter_le ..)
    exact ⟨by simp, ih _ hshort _ rfl⟩

namespace Metrics

open Handler

theorem count_eq (m : Metrics) (key : String × String) :
    m.count key = (m.responses.map labels).countP fun other => decide (other = key) := by
  rw [count, List.countP_map, List.countP_eq_length_filter]
  rfl

theorem keys_perm (m : Metrics) : m.keys.Perm (m.responses.map labels).dedup := by
  rw [keys, List.perm_ext_iff_of_nodup (nodup_eraseDups _) (List.nodup_dedup _)]
  intro key
  rw [List.mem_eraseDups, List.mem_dedup]

/-- The counters of some labels, added up, are the responses with these labels. -/
theorem sum_count_keys (m : Metrics) (p : String × String → Bool) :
    ((m.keys.filter p).map m.count).sum = m.responses.countP fun sample => p (labels sample) := by
  calc ((m.keys.filter p).map m.count).sum
    _ = (((m.responses.map labels).dedup.filter p).map m.count).sum :=
        (((keys_perm m).filter p).map m.count).sum_nat
    _ = (m.responses.map labels).countP p := by
        rw [funext (count_eq m)]
        exact List.sum_map_count_dedup_filter_eq_countP p _
    _ = m.responses.countP fun sample => p (labels sample) := List.countP_map

end Metrics

/-! ## What is to be counted -/

theorem ResultCode.label_inj {a b : ResultCode} : a.label = b.label ↔ a = b := by
  cases a <;> cases b <;> decide

theorem Command.name_inj {a b : Command} : a.name = b.name ↔ a = b := by
  cases a <;> cases b <;> decide

namespace Handler

theorem name_ne_refusedLabel (command : Command) : command.name ≠ refusedLabel := by
  cases command <;> decide

namespace Received

/-- The command was refused with this result. -/
def isRefused (result : ResultCode) (e : Received) : Bool :=
  match e.fate with
  | .refused reason => reason.resultCode = result
  | _ => false

/-- The command was this one, and was dispatched with this result. -/
def isReplied (command : Command) (result : ResultCode) (e : Received) : Bool :=
  match e.fate with
  | .dispatched other reply => other = command && reply.result = result
  | _ => false

/-- The command was dispatched, and the storage failed. -/
def isFailure (e : Received) : Bool :=
  match e.fate with
  | .dispatched _ reply => reply.result = .storageError
  | _ => false

end Received

/-- The responses that were written to their end on some connections. -/
def responses (connections : List (List Received)) : List Response :=
  connections.flatten.filterMap Received.answer?

/-- Metrics stand to the commands that were read on some connections as they should. -/
structure Balance (m : Metrics) (connections : List (List Received)) : Prop where
  /-- Each response is sampled once, with the size of the payload that it answers. -/
  samples : (m.responses.map fun sample => (sample.label, sample.result, sample.payloadSize)).Perm
    ((responses connections).map fun r => (r.label, r.result, r.received))
  /-- The counters of all labels add up to the responses. -/
  total : (m.keys.map m.count).sum = (responses connections).length
  sizes : m.payloadSize.count = (responses connections).length
  durations : m.requestDuration.count = (responses connections).length
  /-- The counters with one result add up to the responses with that result. -/
  results (result : ResultCode) : ((m.keys.filter (·.2 = result.label)).map m.count).sum
    = (responses connections).countP (·.result = result)
  refused (result : ResultCode) : m.count (refusedLabel, result.label)
    = connections.flatten.countP fun e => e.isAnswered && e.isRefused result
  replied (command : Command) (result : ResultCode) : m.count (command.name, result.label)
    = connections.flatten.countP fun e => e.isAnswered && e.isReplied command result
  /-- What is counted as refused is counted without a payload. -/
  empty : ∀ sample ∈ m.responses, sample.label = refusedLabel → sample.payloadSize = 0
  failures : m.storageErrors = connections.flatten.countP Received.isFailure
  reported : (responses connections).countP (·.result = .storageError) ≤ m.storageErrors
  /-- No failure of the storage goes unreported if no response is kept from being written. -/
  allReported : (∀ e ∈ connections.flatten, e.response?.isSome = true → e.isAnswered = true) →
    (responses connections).countP (·.result = .storageError) = m.storageErrors
  gaps : m.sequenceGaps = (connections.map fun commands => breaks (ids commands)).sum

variable {limit : Nat} {events : List Event} {commands : List Received} {part : Bytes}
  {e : Received} {connections : List (List Received)}

/-- Responses are counted by the events of writing them. -/
theorem Log.countP_answers (hlog : Log limit events commands part) (q : Response → Bool) :
    (events.countP fun event => (event.response?.map q).getD false)
      = (commands.filterMap Received.answer?).countP q := by
  rw [← hlog.answers, List.countP_filterMap]

/-- Failures of the storage are counted by the calls of the dispatcher. -/
theorem Log.countP_failures (hlog : Log limit events commands part) :
    events.countP Event.isFailure = commands.countP Received.isFailure := by
  have hcalls := congrArg (List.countP fun call => decide (call.2.2.result = .storageError))
    hlog.calls
  rw [Handler.calls, List.countP_filterMap, List.countP_filterMap] at hcalls
  refine (List.countP_congr fun event _ => ?_).trans
    (hcalls.trans (List.countP_congr fun e _ => ?_))
  · cases event <;> exact Iff.rfl
  · obtain ⟨header, payload, fate, isAnswered⟩ := e
    cases fate <;> exact Iff.rfl

theorem countP_answered (connections : List (List Received)) (q : Response → Bool) :
    (responses connections).countP q
      = connections.flatten.countP fun e => (e.answer?.map q).getD false := by
  rw [responses, List.countP_filterMap]

namespace Received

/-- A response is counted as that to a refused command if it is one. -/
theorem counted_refused (e : Received) (result : ResultCode) :
    (e.answer?.map fun r =>
        decide (r.label = refusedLabel) && decide (r.result = result)).getD false
      = (e.isAnswered && e.isRefused result) := by
  obtain ⟨header, payload, fate, isAnswered⟩ := e
  cases isAnswered <;> cases fate <;>
    simp [answer?, response?, isRefused, name_ne_refusedLabel]

/-- A response is counted as the reply to a command if it is one. -/
theorem counted_replied (e : Received) (command : Command) (result : ResultCode) :
    (e.answer?.map fun r =>
        decide (r.label = command.name) && decide (r.result = result)).getD false
      = (e.isAnswered && e.isReplied command result) := by
  obtain ⟨header, payload, fate, isAnswered⟩ := e
  cases isAnswered <;> cases fate <;>
    simp [answer?, response?, isReplied, Command.name_inj, (name_ne_refusedLabel command).symm]

/-- Only the dispatcher reports failures of the storage. -/
theorem reported_eq (e : Received) :
    (e.answer?.map fun r => decide (r.result = .storageError)).getD false
      = (e.isAnswered && e.isFailure) := by
  obtain ⟨header, payload, fate, isAnswered⟩ := e
  cases fate with
  | unread => cases isAnswered <;> rfl
  | refused reason => cases isAnswered <;> cases reason <;> rfl
  | dispatched => cases isAnswered <;> rfl

theorem response?_of_isFailure (e : Received) (hfails : e.isFailure = true) :
    e.response?.isSome = true := by
  obtain ⟨header, payload, fate, isAnswered⟩ := e
  cases fate with
  | unread | refused => cases hfails
  | dispatched => rfl

/-- What is counted as refused is counted without a payload. -/
theorem received_eq_zero {e : Received} {r : Response} (hanswer : e.answer? = some r)
    (hlabel : r.label = refusedLabel) : r.received = 0 := by
  obtain ⟨header, payload, fate, isAnswered⟩ := e
  cases isAnswered with
  | false => cases hanswer
  | true =>
    cases fate with
    | unread => cases hanswer
    | refused reason =>
      obtain rfl := Option.some.inj hanswer
      rfl
    | dispatched command reply =>
      obtain rfl := Option.some.inj hanswer
      exact absurd hlabel (name_ne_refusedLabel command)

end Received

end Handler

/-! ## All connections of a server -/

namespace Server

open Handler

variable {σ : Type} {limit : Nat} {inputs : List (Nat × Input)} {happenings : List Happening}
  {clients : List Nat} {commands : Nat → List Received}

/-- What happened, the `n`-th happening with a time that it took. -/
def timed (duration : Nat → Nat) (happenings : List Happening) : List (Nat × Event) :=
  happenings.mapIdx fun n happening => (duration n, happening.2)

/-- The metrics after some happenings, of which every answer took a time of its own. -/
def metrics (duration : Nat → Nat) (happenings : List Happening) : Metrics :=
  Metrics.noteAll {} (timed duration happenings)

theorem countP_timed (duration : Nat → Nat) (happenings : List Happening) (p : Event → Bool) :
    ((timed duration happenings).countP fun item => p item.2)
      = happenings.countP fun happening => p happening.2 := by
  have hevents : (timed duration happenings).map (·.2) = happenings.map (·.2) :=
    List.ext_getElem (by simp [timed]) fun n _ _ => by simp [timed]
  have hcount := congrArg (List.countP p) hevents
  rwa [List.countP_map, List.countP_map] at hcount

/-- Responses are counted by the events of writing them, whatever time they took. -/
theorem countP_metrics (duration : Nat → Nat) (happenings : List Happening)
    (q : String → ResultCode → Nat → Bool) :
    ((metrics duration happenings).responses.countP fun sample =>
        q sample.label sample.result sample.payloadSize)
      = happenings.countP fun happening =>
        (happening.2.response?.map fun r => q r.label r.result r.received).getD false := by
  rw [metrics, Metrics.noteAll_eq]
  simp only [List.nil_append, List.countP_filterMap, Metrics.sample?, Option.map_map,
    Function.comp_def]
  exact countP_timed duration happenings fun event =>
    (event.response?.map fun r => q r.label r.result r.received).getD false

/-- Everything happens on one of some connections, and a chronicle was kept of each. -/
structure Kept (limit : Nat) (past : Nat → Heard) (happenings : List Happening)
    (clients : List Nat) (commands : Nat → List Received) : Prop where
  distinct : clients.Nodup
  all : ∀ happening ∈ happenings, happening.1 ∈ clients
  chronicle : ∀ client ∈ clients,
    Chronicle limit (past client) (eventsOf client happenings) (commands client)

variable {past : Nat → Heard}

/-- What can be told from the commands of each connection is counted by adding up. -/
theorem Kept.countP (hkept : Kept limit past happenings clients commands) (p : Event → Bool)
    (f : List Received → Nat)
    (hcount : ∀ {events : List Event} {commands : List Received} {part : Bytes},
      Log limit events commands part → events.countP p = f commands) :
    (happenings.countP fun happening => p happening.2) = ((clients.map commands).map f).sum := by
  rw [← sum_countP_eventsOf hkept.distinct hkept.all p, List.map_map]
  refine congrArg List.sum (List.map_congr_left fun client hmem => ?_)
  obtain ⟨part, hlog, -⟩ := (hkept.chronicle client hmem).log
  exact hcount hlog

/-- Every response that was written is counted, and nothing else. -/
theorem Kept.countP_samples (hkept : Kept limit past happenings clients commands)
    (duration : Nat → Nat) (q : String → ResultCode → Nat → Bool) :
    ((metrics duration happenings).responses.countP fun sample =>
        q sample.label sample.result sample.payloadSize)
      = (responses (clients.map commands)).countP fun r => q r.label r.result r.received := by
  rw [countP_metrics, hkept.countP
    (fun event => (event.response?.map fun r => q r.label r.result r.received).getD false)
    (fun commands => (commands.filterMap Received.answer?).countP
      fun r => q r.label r.result r.received) fun hlog => hlog.countP_answers _]
  rw [responses, List.filterMap_flatten, List.countP_flatten, List.map_map (l := clients.map _)]
  rfl

theorem Kept.samples (hkept : Kept limit past happenings clients commands)
    (duration : Nat → Nat) :
    ((metrics duration happenings).responses.map fun sample =>
        (sample.label, sample.result, sample.payloadSize)).Perm
      ((responses (clients.map commands)).map fun r => (r.label, r.result, r.received)) := by
  rw [List.perm_iff_count]
  intro entry
  simp only [List.count_eq_countP, List.countP_map]
  exact hkept.countP_samples duration fun label result size => (label, result, size) == entry

/-- The counter of a label and a result. -/
theorem Kept.count_eq (hkept : Kept limit past happenings clients commands)
    (duration : Nat → Nat) (label : String) (result : ResultCode) :
    (metrics duration happenings).count (label, result.label)
      = (responses (clients.map commands)).countP fun r =>
        r.label = label && r.result = result := by
  rw [← hkept.countP_samples duration fun other code _ => other = label && code = result,
    Metrics.count, ← List.countP_eq_length_filter]
  refine List.countP_congr fun sample _ => ?_
  simp [Metrics.labels, ResultCode.label_inj]

theorem Kept.storageErrors_eq (hkept : Kept limit past happenings clients commands)
    (duration : Nat → Nat) : (metrics duration happenings).storageErrors
      = (clients.map commands).flatten.countP Received.isFailure := by
  rw [metrics, Metrics.noteAll_eq, List.countP_flatten]
  exact (Nat.zero_add _).trans ((countP_timed duration happenings Event.isFailure).trans
    (hkept.countP Event.isFailure (List.countP Received.isFailure)
      fun hlog => hlog.countP_failures))

theorem Kept.sequenceGaps_eq (hkept : Kept limit past happenings clients commands)
    (duration : Nat → Nat) : (metrics duration happenings).sequenceGaps
      = ((clients.map commands).map fun commands => breaks (ids commands)).sum := by
  rw [metrics, Metrics.noteAll_eq]
  exact (Nat.zero_add _).trans ((countP_timed duration happenings Event.isGap).trans
    (hkept.countP Event.isGap (fun commands => breaks (ids commands)) fun hlog => hlog.gaps))

/-- What is counted follows from the chronicles. -/
theorem Kept.balance (hkept : Kept limit past happenings clients commands)
    (duration : Nat → Nat) :
    Balance (metrics duration happenings) (clients.map commands) := by
  have hsamples := hkept.samples duration
  have hlength : (metrics duration happenings).responses.length
      = (responses (clients.map commands)).length := by
    simpa using hsamples.length_eq
  have hreported : (responses (clients.map commands)).countP (·.result = .storageError)
      = (clients.map commands).flatten.countP fun e => e.isAnswered && e.isFailure := by
    rw [countP_answered]
    exact List.countP_congr fun e _ => by rw [e.reported_eq]
  exact {
    samples := hsamples
    total := by
      have hsum := (metrics duration happenings).sum_count_keys fun _ => true
      simp only [List.filter_true, List.countP_true] at hsum
      rw [hsum, hlength]
    sizes := by rw [Histogram.count, Metrics.payloadSize, List.length_map, hlength]
    durations := by rw [Histogram.count, Metrics.requestDuration, List.length_map, hlength]
    results := fun result => by
      rw [Metrics.sum_count_keys]
      simp only [Metrics.labels, ResultCode.label_inj]
      exact hkept.countP_samples duration fun _ other _ => other = result
    refused := fun result => by
      rw [hkept.count_eq, countP_answered]
      exact List.countP_congr fun e _ => by rw [e.counted_refused]
    replied := fun command result => by
      rw [hkept.count_eq, countP_answered]
      exact List.countP_congr fun e _ => by rw [e.counted_replied]
    empty := fun sample hsample hlabel => by
      obtain ⟨r, hr, heq⟩ := List.mem_map.1 (hsamples.mem_iff.1 (List.mem_map_of_mem hsample))
      obtain ⟨hown, -, hsize⟩ : r.label = sample.label ∧ r.result = sample.result
        ∧ r.received = sample.payloadSize := by simpa using heq
      obtain ⟨e, -, hanswer⟩ := List.mem_filterMap.1 hr
      rw [← hsize, Received.received_eq_zero hanswer (hown.trans hlabel)]
    failures := hkept.storageErrors_eq duration
    reported := by
      rw [hreported, hkept.storageErrors_eq]
      exact List.countP_mono_left fun e _ hreport => (Bool.and_eq_true_iff.1 hreport).2
    allReported := fun hall => by
      rw [hreported, hkept.storageErrors_eq]
      refine List.countP_congr fun e hmem => ?_
      rw [Bool.and_eq_true]
      exact and_iff_right_of_imp fun hfails => hall e hmem (e.response?_of_isFailure hfails)
    gaps := hkept.sequenceGaps_eq duration }

/-- **The metrics balance.**  Each connection has a chronicle, and whatever time the answers take,
the metrics that all of them share are what follows from the commands in those chronicles. -/
theorem balance_of_run (hdistinct : (connecting inputs).Nodup) (service : Service σ)
    (maxConnections : Nat) (w : σ) (duration : Nat → Nat) :
    let happenings := ((ofLimit maxConnections).run service w inputs).1
    let told (client : Nat) (commands : List Received) : Prop :=
      Chronicle service.limit (heard service maxConnections w inputs client)
        (eventsOf client happenings) commands
    (∀ client ∈ connecting inputs, ∃ commands, told client commands)
      ∧ ∀ commands : Nat → List Received,
        (∀ client ∈ connecting inputs, told client (commands client)) →
          Balance (metrics duration happenings) ((connecting inputs).map commands) := by
  intro happenings told
  refine ⟨fun client hmem => chronicle_of_run hdistinct hmem service maxConnections w, ?_⟩
  intro commands hchronicle
  have hkept : Kept service.limit (heard service maxConnections w inputs) happenings
      (connecting inputs) commands :=
    ⟨hdistinct, fun happening hmem => client_mem_connecting hmem, hchronicle⟩
  exact hkept.balance duration

/-- A service whose storage is out of order. -/
def outage : Service Unit := ⟨64, none, .caller, fun _ => Dispatcher.returning .storageError⟩

/-- Of two clients one has two commands fail and leaves out an id between them; the other sends a
command that nobody knows, and a part of a header. -/
def strain : List (Nat × Input) :=
  [(3, .connect 7 (some 1000) .flowing), (4, .connect 8 (some 1001) .flowing),
    (5, .deliver 7 (.bytes [1, 0, 0, 0, 1, 0, 0, 0, 1, 0, 0, 0, 42])),
    (6, .deliver 8 (.bytes [2, 0, 0, 0, 7, 0, 0, 0, 0, 0, 0, 0, 3])),
    (7, .deliver 7 (.bytes [3, 0, 0, 0, 0, 0, 0, 0, 0, 0, 0, 0]))]

theorem balance_of_run_outage :
    let happenings := ((ofLimit 4).run outage () strain).1
    (connecting strain).Nodup
      ∧ (∃ commands : Nat → List Received,
        (∀ client ∈ connecting strain, Chronicle 64 (heard outage 4 () strain client)
          (eventsOf client happenings) (commands client))
        ∧ Balance (metrics id happenings) ((connecting strain).map commands))
      ∧ (metrics id happenings).responses.map Metrics.labels
        = [("write_auth_token", "storage_error"), ("invalid", "unknown_command"),
          ("read_auth_token", "storage_error")]
      ∧ (metrics id happenings).storageErrors = 2 ∧ (metrics id happenings).sequenceGaps = 1 := by
  have hdistinct : (connecting strain).Nodup := by decide
  obtain ⟨htold, hbalance⟩ := balance_of_run hdistinct outage 4 () id
  choose! commands hcommands using htold
  exact ⟨hdistinct, ⟨commands, hcommands, hbalance commands hcommands⟩, by decide +kernel,
    by decide +kernel, by decide +kernel⟩

end Server
end TokenBroker
