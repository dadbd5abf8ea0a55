import TokenBroker.Proofs.Daemon.Clients
import TokenBroker.Proofs.Metrics.Counts
/-!
# What comes of commands

Whatever a client sends, and however it reads or leaves, its connection reads one command after the
other and comes to the next only when the response to the one before is written.  So what happens
on the connection can be told command by command.

* `Received` is a command whose header was read, with what became of it.
* `Log` says that some events are what comes of some commands: the calls of the dispatcher, the
  responses, the bytes written and the gaps in the numbering.  It is kept up by each thing that can
  happen.
* `Chronicle` is all that can be said of a connection.
-/

set_option autoImplicit false

namespace TokenBroker
namespace Handler

/-! ## Commands -/

/-- What became of a command whose header was read. -/
inductive Fate where
  /-- Its payload was not read, or not yet. -/
  | unread
  | refused (reason : ValidationError)
  | dispatched (command : Command) (reply : Reply)

/-- A command whose header was read. -/
structure Received where
  header : CommandHeader
  /-- What was read of its payload. -/
  payload : Bytes
  fate : Fate
  /-- Its response was written to its end. -/
  isAnswered : Bool

namespace Received

/-- The bytes that were read of a command. -/
def bytes (e : Received) : Bytes := e.header.encode ++ e.payload

/-- The response to a command. -/
def response? (e : Received) : Option Response :=
  match e.fate with
  | .unread => none
  | .refused reason => some ⟨refusedLabel, 0, reason.resultCode,
      answer e.header.id (.status reason.resultCode)⟩
  | .dispatched command reply =>
    some ⟨command.name, e.payload.length, reply.result, answer e.header.id reply⟩

/-- The response to a command, if it was written to its end. -/
def answer? (e : Received) : Option Response := if e.isAnswered then e.response? else none

/-- The call of the dispatcher that a command led to. -/
def call? (e : Received) : Option (Command × Bytes × Reply) :=
  match e.fate with
  | .dispatched command reply => some (command, e.payload, reply)
  | _ => none

/-- A command was read, judged and answered as its header asks. -/
def Lawful (limit : Nat) (e : Received) : Prop :=
  match e.fate with
  | .unread => e.header.dataSize.toNat ≤ limit ∧ e.payload = [] ∧ e.isAnswered = false
  | .refused reason => validateCommand e.header limit = .error reason
      ∧ e.payload.length = if limit < e.header.dataSize.toNat then 0 else e.header.dataSize.toNat
  | .dispatched command reply => validateCommand e.header limit = .ok command
      ∧ e.payload.length = e.header.dataSize.toNat
      ∧ (e.isAnswered = true → reply.payload.length ≤ limit)

/-- A command after which the connection goes on: it was answered, and did not declare too much. -/
def GoesOn (limit : Nat) (e : Received) : Prop :=
  e.isAnswered = true ∧ e.header.dataSize.toNat ≤ limit

/-- A command after which nothing more is read: its response was not written to its end, or it
declared too much. -/
def Blocks (limit : Nat) (e : Received) : Prop :=
  (e.isAnswered = false ∧ e.response?.isSome = true) ∨ limit < e.header.dataSize.toNat

/-- A command that is not answered yet. -/
def unanswered (header : CommandHeader) (payload : Bytes) (fate : Fate) : Received :=
  ⟨header, payload, fate, false⟩

/-- A command whose header was just read. -/
def opened (header : CommandHeader) : Received := .unanswered header [] .unread

end Received

/-! ## What comes of commands -/

/-- How often an id is not the successor of the one before it. -/
def breaks : List UInt32 → Nat
  | [] => 0
  | [_] => 0
  | previous :: id :: rest => (if id - previous = 1 then 0 else 1) + breaks (id :: rest)

theorem breaks_concat (ids : List UInt32) (id : UInt32) :
    breaks (ids ++ [id]) = breaks ids + match ids.getLast? with
      | none => 0
      | some previous => if id - previous = 1 then 0 else 1 := by
  induction ids with
  | nil => rfl
  | cons first rest ih =>
    cases rest with
    | nil => simp [breaks]
    | cons second rest =>
      rw [List.cons_append, List.cons_append, breaks, ← List.cons_append, ih, breaks,
        List.getLast?_cons_cons, Nat.add_assoc]

/-- The ids of commands. -/
def ids (commands : List Received) : List UInt32 := commands.map (·.header.id)

/-- The bytes of the responses that were written to their end. -/
def frames (commands : List Received) : Bytes :=
  (commands.filterMap Received.answer?).flatMap (·.frame)

theorem filterMap_concat {α β : Type} (f : α → Option β) (items : List α) (item : α) :
    (items ++ [item]).filterMap f = items.filterMap f ++ (f item).toList := by
  rw [List.filterMap_append, List.filterMap_cons]
  cases f item <;> rfl

theorem ids_concat (commands : List Received) (e : Received) :
    ids (commands ++ [e]) = ids commands ++ [e.header.id] := List.map_append

theorem frames_concat (commands : List Received) (e : Received) :
    frames (commands ++ [e]) = frames commands ++ e.answer?.toList.flatMap (·.frame) := by
  rw [frames, filterMap_concat, List.flatMap_append]
  rfl

/-- Some events are what came of some commands; `part` was written of a response under way. -/
structure Log (limit : Nat) (events : List Event) (commands : List Received) (part : Bytes) :
    Prop where
  lawful : ∀ e ∈ commands, e.Lawful limit
  orderly : ∀ e ∈ commands.dropLast, e.GoesOn limit
  calls : calls events = commands.filterMap Received.call?
  answers : events.filterMap Event.response? = commands.filterMap Received.answer?
  written : written events = frames commands ++ part
  gaps : events.countP Event.isGap = breaks (ids commands)

variable {limit : Nat} {events more : List Event} {commands former : List Received}
  {e e' : Received} {part left : Bytes} {observer : Sequence.Observer}

/-- Some events do not tell of commands. -/
structure Silent (events : List Event) : Prop where
  calls : calls events = []
  answers : events.filterMap Event.response? = []
  written : written events = []
  gaps : events.countP Event.isGap = 0

theorem silent_nil : Silent [] := ⟨rfl, rfl, rfl, rfl⟩

theorem silent_started : Silent [.started] := ⟨rfl, rfl, rfl, rfl⟩

theorem silent_finish (h : Handler) : Silent h.finish.1 := ⟨rfl, rfl, rfl, rfl⟩

theorem silent_rejected (reset : Bool) : Silent [.rejected reset] := ⟨rfl, rfl, rfl, rfl⟩

theorem Log.silent (hlog : Log limit events commands part) (hmore : Silent more) :
    Log limit (events ++ more) commands part where
  lawful := hlog.lawful
  orderly := hlog.orderly
  calls := by rw [calls_append, hlog.calls, hmore.calls, List.append_nil]
  answers := by rw [List.filterMap_append, hlog.answers, hmore.answers, List.append_nil]
  written := by rw [written_append, hlog.written, hmore.written, List.append_nil]
  gaps := by rw [List.countP_append, hlog.gaps, hmore.gaps, Nat.add_zero]

theorem log_nil (limit : Nat) : Log limit [] [] [] where
  lawful := nofun
  orderly := nofun
  calls := rfl
  answers := rfl
  written := rfl
  gaps := rfl

/-- What an observer notes is a break in the numbering. -/
theorem countP_noteId (hobserver : observer.previous = (ids commands).getLast?) (id : UInt32) :
    breaks (ids commands) + (noteId observer id).1.countP Event.isGap
        = breaks (ids commands ++ [id])
      ∧ (noteId observer id).2.previous = some id := by
  rw [breaks_concat, ← hobserver, noteId, Sequence.Observer.observe]
  cases observer.previous with
  | none => exact ⟨rfl, rfl⟩
  | some previous =>
    dsimp only
    by_cases hnext : id - previous = 1
    · simp [hnext]
    · simp [hnext, Event.isGap]

theorem answers_noteId (observer : Sequence.Observer) (id : UInt32) :
    (noteId observer id).1.filterMap Event.response? = [] := by
  rw [noteId]
  split <;> rfl

/-- A header is read. -/
theorem Log.opened (hlog : Log limit events commands []) (hall : ∀ e ∈ commands, e.GoesOn limit)
    (hobserver : observer.previous = (ids commands).getLast?) (hlawful : e.Lawful limit)
    (hcall : e.call? = none) (hanswer : e.answer? = none) :
    Log limit (events ++ (noteId observer e.header.id).1) (commands ++ [e]) [] where
  lawful := List.forall_mem_append.2 ⟨hlog.lawful, List.forall_mem_singleton.2 hlawful⟩
  orderly := by rwa [List.dropLast_concat]
  calls := by rw [calls_append, calls_noteId, hlog.calls, filterMap_concat, hcall]; rfl
  answers := by
    rw [List.filterMap_append, answers_noteId, hlog.answers, filterMap_concat, hanswer]
    rfl
  written := by
    rw [written_append, written_noteId, hlog.written, frames_concat, hanswer]
    rfl
  gaps := by
    rw [List.countP_append, hlog.gaps, (countP_noteId hobserver e.header.id).1, ids_concat]

/-- Something becomes of the command that was read last: it is judged, or answered. -/
theorem Log.revised (hlog : Log limit events (former ++ [e]) part)
    (hlawful : e'.Lawful limit) (hheader : e'.header = e.header)
    (hcalls : e.call?.toList ++ Handler.calls more = e'.call?.toList)
    (hanswers : e.answer?.toList ++ more.filterMap Event.response? = e'.answer?.toList)
    (hwritten : e.answer?.toList.flatMap (·.frame) ++ (part ++ Handler.written more)
      = e'.answer?.toList.flatMap (·.frame) ++ left)
    (hgaps : more.countP Event.isGap = 0) :
    Log limit (events ++ more) (former ++ [e']) left where
  lawful := List.forall_mem_append.2
    ⟨(List.forall_mem_append.1 hlog.lawful).1, List.forall_mem_singleton.2 hlawful⟩
  orderly := by
    have horderly := hlog.orderly
    rwa [List.dropLast_concat] at horderly ⊢
  calls := by
    rw [calls_append, hlog.calls, filterMap_concat, filterMap_concat, List.append_assoc, hcalls]
  answers := by
    rw [List.filterMap_append, hlog.answers, filterMap_concat, filterMap_concat,
      List.append_assoc, hanswers]
  written := by
    rw [written_append, hlog.written, frames_concat, frames_concat, List.append_assoc,
      List.append_assoc, List.append_assoc, hwritten]
  gaps := by
    rw [List.countP_append, hlog.gaps, hgaps, Nat.add_zero, ids_concat, ids_concat, hheader]

/-- Some more of a response is written. -/
theorem Log.sent (hlog : Log limit events commands part) (bytes : Bytes) :
    Log limit (events ++ [.sent bytes]) commands (part ++ bytes) where
  lawful := hlog.lawful
  orderly := hlog.orderly
  calls := by
    rw [calls_append, hlog.calls]
    exact List.append_nil _
  answers := by simp [hlog.answers, Event.response?]
  written := by
    rw [written_append, hlog.written, List.append_assoc]
    exact congrArg (frames commands ++ ·) (congrArg (part ++ ·) (List.append_nil bytes))
  gaps := by simp [hlog.gaps, Event.isGap]

/-- A command with its response written. -/
def Received.answered (e : Received) : Received := { e with isAnswered := true }

/-- The response to a command is written to its end. -/
theorem Log.answered (hlog : Log limit events (former ++ [e]) part) {response : Response}
    (hresponse : e.response? = some response) (hunanswered : e.isAnswered = false)
    (hframe : response.frame = part) (hlawful : e.answered.Lawful limit) :
    Log limit (events ++ [.answered response]) (former ++ [e.answered]) [] := by
  have hbefore : e.answer? = none := by
    rw [Received.answer?, hunanswered]
    rfl
  have hafter : e.answered.answer? = some response := hresponse
  refine hlog.revised hlawful rfl (List.append_nil _) ?_ ?_ rfl
  · rw [hbefore, hafter]
    rfl
  · simp [hbefore, hafter, hframe, Handler.written]

/-! ## All of a connection -/

/-- Of a response that is not written to its end, a proper part was written. -/
def Unfinished (commands : List Received) (part : Bytes) : Prop :=
  part = [] ∨ ∃ e response rest, commands.getLast? = some e ∧ e.isAnswered = false
    ∧ e.response? = some response ∧ response.frame = part ++ rest ∧ rest ≠ []

/-- The number of bytes that are to be read after some commands. -/
def need (commands : List Received) : Nat :=
  match commands.getLast? with
  | some ⟨header, _, .unread, _⟩ => header.dataSize.toNat
  | _ => Header.size

/-- All that can be said of a connection: what happened on it is what came of the commands that it
read, one after the other, from the bytes of its client.  If it was served, and the daemon is not
stopping, nothing more could be read. -/
structure Chronicle (limit : Nat) (past : Heard) (events : List Event)
    (commands : List Received) : Prop where
  log : ∃ part, Log limit events commands part ∧ Unfinished commands part
  begun : commands ≠ [] → .started ∈ events
  read : ∃ rest, past.bytes = commands.flatMap Received.bytes ++ rest
    ∧ (.started ∈ events → past.told = none →
      (∃ e, commands.getLast? = some e ∧ e.Blocks limit) ∨ rest.length < need commands)

theorem need_of_goesOn (hlawful : ∀ e ∈ commands, e.Lawful limit)
    (hall : ∀ e ∈ commands, e.GoesOn limit) : need commands = Header.size := by
  rw [need]
  split
  · next header payload isAnswered hlast =>
    have hmem := List.mem_of_getLast? hlast
    have hanswered := (hall _ hmem).1
    have hnever := (hlawful _ hmem).2.2
    simp_all
  · rfl

/-- Of a connection that is not served nothing is read. -/
theorem chronicle_of_silent (hsilent : Silent events) (hstart : .started ∉ events) (limit : Nat)
    (past : Heard) : Chronicle limit past events [] where
  log := ⟨[], (log_nil limit).silent hsilent, .inl rfl⟩
  begun := fun hnone => absurd rfl hnone
  read := ⟨past.bytes, rfl, fun hstarted => absurd hstarted hstart⟩

end Handler
end TokenBroker
