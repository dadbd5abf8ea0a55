import TokenBroker.Proofs.Daemon.Oversized
import TokenBroker.Proofs.Daemon.Permits
import TokenBroker.Proofs.Record.Readable
import TokenBroker.Proofs.Settings.Overlays
/-!
# What a daemon demands of what it runs on

Numbers from the settings end up in a semaphore, in timers, in buffers, in 32-bit lengths and in the
pointers of an archive.  Each of these takes numbers up to some bound, and the daemon aborts, or the
task does that serves a command, where it is given a larger one.

* `Demand` is what is asked for, and `Demand.isMet` says whether it can be had.
* `Server.Rule` is something that handlers keep to whatever comes, with what is known then of each
  call of the dispatcher; `Rule.run` says so of a whole run of a server.
* `Daemon.Aborts` is a daemon that is allowed more connections than can be counted.
* `Daemon.Endures` says of settings which demands are met.  `Daemon.endures_of_load` says it of all
  settings that can be loaded: only the permits of the semaphore, and pointers across a token of two
  gigabytes, are ever asked for in vain.
-/

set_option autoImplicit false

namespace TokenBroker

/-! ## Demands -/

/-- Something that is asked for, which cannot be had in any size. -/
inductive Demand where
  /-- A semaphore with so many permits. -/
  | permits (count : Nat)
  /-- A timer over so many milliseconds. -/
  | timer (ms : Nat)
  /-- A buffer of so many bytes. -/
  | buffer (size : Nat)
  /-- A length that is noted in 32 bits. -/
  | noted (length : Nat)
  /-- A pointer in an archive, from a field back over so many bytes. -/
  | pointer (distance : Nat)
  deriving DecidableEq

namespace Demand

/-- The largest size of a buffer. -/
def maxBuffer : Nat := (1 <<< 63) - 1

/-- Whether there is such a thing. -/
def isMet : Demand → Bool
  | permits count => count ≤ Daemon.maxPermits
  | timer ms => ms ≤ Settings.max64
  | buffer size => size ≤ maxBuffer
  | noted length => length ≤ Settings.max32
  | pointer distance => distance ≤ Record.maxDistance

/-- What a handler asks for while it waits for a header or payload. -/
def ofWait (idle : Option Nat) (wanted : Handler.Wanted) : List Demand :=
  buffer wanted.need :: idle.toList.map timer

/-- What the record of a blob of `n` bytes asks for. -/
def ofRecord (n : Nat) : List Demand :=
  [noted n, buffer (Record.paddedLength n + Record.rootSize),
    pointer (Record.paddedLength n + Record.distanceOffset)]

/-- What a call of the dispatcher asks for, and the response to it. -/
def ofCall : Command × Bytes × Reply → List Demand
  | (command, payload, reply) =>
    (if command = .writeAuthToken then ofRecord payload.length else [])
      ++ [noted reply.payload.length, buffer (Header.size + reply.payload.length)]

/-- A buffer for what 32 bits can count, and a little more. -/
theorem isMet_buffer {size : Nat} (hle : size ≤ 2 * UInt32.size) : (buffer size).isMet = true := by
  have hbound : 2 * UInt32.size ≤ maxBuffer := by decide
  exact decide_eq_true (Nat.le_trans hle hbound)

theorem isMet_noted {length : Nat} (hlt : length < UInt32.size) : (noted length).isMet = true :=
  decide_eq_true (Nat.le_sub_one_of_lt hlt)

end Demand

theorem Handler.Wanted.need_lt (wanted : Wanted) : wanted.need < UInt32.size := by
  cases wanted with
  | header => exact (by decide : Header.size < UInt32.size)
  | payload header command => exact header.dataSize.toNat_lt
  | refused header reason => exact header.dataSize.toNat_lt

/-- Whatever a handler waits for, it can, if its timer is one of 64 bits. -/
theorem Demand.isMet_of_mem_ofWait {idle : Option Nat} (hidle : ∀ ms ∈ idle, ms ≤ Settings.max64)
    {wanted : Handler.Wanted} {demand : Demand} (hmem : demand ∈ ofWait idle wanted) :
    demand.isMet = true := by
  rcases List.mem_cons.1 hmem with rfl | htimer
  · have hneed := wanted.need_lt
    exact isMet_buffer (by omega)
  · obtain ⟨ms, hms, rfl⟩ := List.mem_map.1 htimer
    exact decide_eq_true (hidle ms (Option.mem_toList.1 hms))

/-! ## Calls of the storage -/

namespace Registry

variable {r : Registry} {t : Tree} {key : IdentityKey}

/-- A token that is too long for an archive is not stored, and nothing else happens either. -/
theorem store_of_not_representable {blob : Bytes} (hlong : ¬ Record.Representable blob)
    (hfits : blob.length ≤ r.maxObjectSize) (t : Tree) (key : IdentityKey) (now : UInt64) :
    r.store t key blob now = (.error (.serialization Record.unrepresentable), t) := by
  rw [store, if_neg (Nat.not_lt.2 hfits), Record.encode_ofBlob_of_not hlong]

/-- A token that was read is as long as its record says, in 32 bits. -/
theorem length_lt_of_read {blob : Bytes} (hread : r.read t key = .ok blob) :
    blob.length < UInt32.size := by
  obtain ⟨-, content, record, -, hdecode, rfl⟩ := of_read_ok hread
  obtain ⟨-, hsize, -⟩ := Record.sound_of_verify (Record.sound_of_decode hdecode).2
  exact hsize ▸ record.size.toNat_lt

theorem length_reply_lt (r : Registry) (now : Nat) (key : IdentityKey) (command : Command)
    (payload : Bytes) (t : Tree) :
    (r.dispatch now key command payload t).1.payload.length < UInt32.size := by
  have houtcome : ∀ result, (Reply.ofOutcome result).payload.length < UInt32.size := by
    intro result
    rw [payload_ofOutcome]
    decide
  cases command with
  | readAuthToken =>
    rw [dispatch]
    split
    · next hread => exact length_lt_of_read hread
    · exact (by decide : 0 < UInt32.size)
  | writeAuthToken => exact houtcome _
  | deleteAuthToken => exact houtcome _

end Registry

/-- A call of the dispatcher that asks for nothing in vain but, to store a token within the limit, a
pointer across it.  The reply is then that the storage failed. -/
def Endurable (limit : Nat) (call : Command × Bytes × Reply) : Prop :=
  ∀ demand ∈ Demand.ofCall call, demand.isMet = true
    ∨ ((∃ distance, demand = .pointer distance) ∧ call.1 = .writeAuthToken
      ∧ call.2.1.length ≤ limit ∧ call.2.2 = .status .storageError)

theorem Registry.endurable_dispatch {r : Registry} {payload : Bytes}
    (hlt : payload.length < UInt32.size) (hfits : payload.length ≤ r.maxObjectSize) (now : Nat)
    (key : IdentityKey) (command : Command) (t : Tree) :
    Endurable r.maxObjectSize (command, payload, (r.dispatch now key command payload t).1) := by
  have hpadded : Record.paddedLength payload.length ≤ payload.length + 7 :=
    Nat.div_mul_le_self _ _
  have hroom : Record.rootSize + 7 ≤ UInt32.size := by decide
  have hheader : Header.size ≤ UInt32.size := by decide
  have hreply := r.length_reply_lt now key command payload t
  intro demand hmem
  rcases List.mem_append.1 hmem with hrecord | hresponse
  · split at hrecord
    · next hwrite =>
      subst hwrite
      simp only [Demand.ofRecord, List.mem_cons, List.not_mem_nil, or_false] at hrecord
      rcases hrecord with rfl | rfl | rfl
      · exact .inl (Demand.isMet_noted hlt)
      · exact .inl (Demand.isMet_buffer (by omega))
      · by_cases hshort : Record.Representable payload
        · exact .inl (decide_eq_true hshort)
        · refine .inr ⟨⟨_, rfl⟩, rfl, hfits, ?_⟩
          rw [dispatch, store_of_not_representable hshort hfits]
          rfl
    · cases hrecord
  · simp only [List.mem_cons, List.not_mem_nil, or_false] at hresponse
    rcases hresponse with rfl | rfl
    · exact .inl (Demand.isMet_noted hreply)
    · exact .inl (Demand.isMet_buffer (by omega))

/-! ## Rules of a server -/

namespace Server

open Handler

variable {σ : Type} {service : Service σ} {kept : Handler → Prop}
  {fair : Command × Bytes × Reply → Prop} {happenings more : List Happening}
  {active others : List (Nat × Handler)} {s : Server} {w : σ}

/-- Something that handlers keep to, whatever arrives and whatever room there is, and as long as
they do, what is known of the calls that they make. -/
structure Rule (service : Service σ) (kept : Handler → Prop)
    (fair : Command × Bytes × Reply → Prop) : Prop where
  begins : ∀ {h : Handler}, h.phase = .reading .header → h.soFar = [] → kept h
  same : ∀ {h next : Handler}, kept h → next.phase = h.phase → next.soFar = h.soFar → kept next
  goOn : ∀ {h : Handler} (now : Nat) (stopping : Bool) (w : σ), kept h →
    let result := h.run service now stopping w
    (∀ call ∈ calls result.1, fair call) ∧ (result.2.1.isEnded = false → kept result.2.1)

/-- The calls of all clients are as they should be, and the connections that are left keep to the
rule. -/
structure Abides (kept : Handler → Prop) (fair : Command × Bytes × Reply → Prop)
    (happenings : List Happening) (active : List (Nat × Handler)) : Prop where
  made : ∀ call ∈ calls (happenings.map (·.2)), fair call
  kept : ∀ item ∈ active, kept item.2

theorem Abides.append (hfirst : Abides kept fair happenings active)
    (hmore : Abides kept fair more others) :
    Abides kept fair (happenings ++ more) (active ++ others) where
  made := by
    rw [List.map_append, calls_append]
    exact List.forall_mem_append.2 ⟨hfirst.made, hmore.made⟩
  kept := List.forall_mem_append.2 ⟨hfirst.kept, hmore.kept⟩

/-- Happenings without a call go before others. -/
theorem Abides.after (habides : Abides kept fair more active)
    (hsilent : calls (happenings.map (·.2)) = []) :
    Abides kept fair (happenings ++ more) active where
  made := by
    rw [List.map_append, calls_append, hsilent]
    exact habides.made
  kept := habides.kept

/-- One connection is run. -/
theorem Rule.one (hrule : Rule service kept fair) {h : Handler} (hkept : kept h)
    (now client : Nat) (stopping : Bool) (w : σ) :
    let result := h.run service now stopping w
    Abides kept fair (tagged client result.1)
      (if result.2.1.isEnded then [] else [(client, result.2.1)]) := by
  obtain ⟨hcalls, hleft⟩ := hrule.goOn now stopping w hkept
  refine ⟨?_, fun item hitem => ?_⟩
  · rw [map_tagged]
    exact hcalls
  · split at hitem
    · cases hitem
    · next hgoing =>
      rw [List.mem_singleton.1 hitem]
      exact hleft (Bool.eq_false_iff.2 hgoing)

theorem Rule.runActive (hrule : Rule service kept fair) (hkept : ∀ item ∈ active, kept item.2)
    (now : Nat) (stopping : Bool) (w : σ) :
    let p := Server.runActive service now stopping active w
    Abides kept fair p.happenings p.active := by
  induction active generalizing w with
  | nil => exact ⟨List.forall_mem_nil _, List.forall_mem_nil _⟩
  | cons item rest ih =>
    obtain ⟨client, h⟩ := item
    obtain ⟨hfirst, hrest⟩ := List.forall_mem_cons.1 hkept
    rw [runActive_cons]
    exact (hrule.one hfirst now client stopping w).append (ih hrest _)

/-- One more client is accepted. -/
theorem Rule.acceptOne (hrule : Rule service kept fair) {p : Progress σ}
    (habides : Abides kept fair p.happenings p.active) (now : Nat) (c : Waiting) :
    let accepted := Server.acceptOne service now p c
    Abides kept fair accepted.happenings accepted.active := by
  have hquiet : ∀ event : Event, calls [event] = [] →
      Abides kept fair (p.happenings ++ tagged c.client [event]) p.active := by
    intro event hsilent
    refine ⟨?_, habides.kept⟩
    rw [List.map_append, calls_append, map_tagged, hsilent, List.append_nil]
    exact habides.made
  rw [Server.acceptOne]
  split
  · next hstart =>
    obtain rfl := events_of_start_none hstart
    exact hquiet _ rfl
  · next h hstart =>
    obtain ⟨rfl, -, -, hphase, hsoFar, -⟩ := of_start_some hstart
    rw [runNext_eq]
    exact (hquiet .started rfl).append
      (hrule.one (hrule.begins hphase hsoFar) now c.client false p.state)

theorem Rule.acceptWaiting (hrule : Rule service kept fair) {p : Progress σ}
    (habides : Abides kept fair p.happenings p.active) (now permits : Nat)
    (waiting : List Waiting) :
    let accepted := (Server.acceptWaiting service now permits p waiting).1
    Abides kept fair accepted.happenings accepted.active := by
  induction waiting generalizing p with
  | nil => exact habides
  | cons c rest ih =>
    rw [acceptWaiting_cons]
    split
    · exact ih (hrule.acceptOne habides now c)
    · exact habides

theorem Rule.resume (hrule : Rule service kept fair) (hkept : ∀ item ∈ s.active, kept item.2)
    (now : Nat) (w : σ) :
    let result := s.resume service now w
    Abides kept fair result.1 result.2.1.active := by
  have hran := hrule.runActive hkept now s.stopping w
  rw [Server.resume]
  dsimp only
  split
  · exact hran
  · exact hrule.acceptWaiting hran now s.permits s.waiting

theorem calls_dropOverdue (idle : Option Nat) (now : Nat) (active : List (Nat × Handler)) :
    calls ((dropOverdue idle now active).1.map (·.2)) = [] := by
  induction active with
  | nil => rfl
  | cons item rest ih =>
    obtain ⟨client, h⟩ := item
    rw [dropOverdue_cons]
    dsimp only
    split
    · rw [List.map_append, calls_append, map_tagged, ih]
      rfl
    · exact ih

theorem calls_refused (waiting : List Waiting) :
    calls ((waiting.flatMap fun c => tagged c.client [.rejected true]).map (·.2)) = [] := by
  induction waiting with
  | nil => rfl
  | cons c rest ih => exact ih

/-- What one input does. -/
theorem Rule.next (hrule : Rule service kept fair) (hkept : ∀ item ∈ s.active, kept item.2)
    (now : Nat) (input : Input) (w : σ) :
    let result := s.next service now input w
    Abides kept fair result.1 result.2.1.active := by
  have hidle : Abides kept fair [] s.active := ⟨List.forall_mem_nil _, hkept⟩
  cases input with
  | connect client uid outlet =>
    rw [Server.next]
    split
    · exact hidle
    · exact hrule.resume (s := { s with waiting := s.waiting ++ [⟨client, uid, {}, outlet⟩] }) hkept
        now w
  | deliver client arrival =>
    exact hrule.resume (s := s.receive client arrival)
      (forall_mem_touch (f := fun h => { h with socket := h.socket.receive arrival }) hkept client
        fun _ hbefore => hrule.same hbefore rfl rfl) now w
  | consume client count =>
    exact hrule.resume (s := s.makeRoom client count)
      (forall_mem_touch (f := fun h => { h with outlet := h.outlet.consume count }) hkept client
        fun _ hbefore => hrule.same hbefore rfl rfl) now w
  | acceptFailed => exact hidle
  | tick =>
    exact (hrule.resume (s := { s with active := (dropOverdue service.idle now s.active).2 })
      (fun item hitem => hkept item (List.mem_of_mem_filter hitem)) now w).after
      (calls_dropOverdue _ _ _)
  | stop =>
    exact (hrule.resume (s := { s with stopping := true, waiting := [] }) hkept now w).after
      (calls_refused _)

/-- **Where handlers keep to a rule, all their calls are as they should be**, in any run of a
server. -/
theorem Rule.run (hrule : Rule service kept fair) (hkept : ∀ item ∈ s.active, kept item.2)
    (inputs : List (Nat × Input)) (w : σ) :
    let result := s.run service w inputs
    Abides kept fair result.1 result.2.1.active := by
  induction inputs generalizing s w with
  | nil => exact ⟨List.forall_mem_nil _, hkept⟩
  | cons input rest ih =>
    obtain ⟨now, input⟩ := input
    have hnext := hrule.next hkept now input w
    have hrest := ih hnext.kept (s.next service now input w).2.2
    refine ⟨?_, hrest.kept⟩
    rw [Server.run, List.map_append, calls_append]
    exact List.forall_mem_append.2 ⟨hnext.made, hrest.made⟩

end Server

/-! ## Calls of a handler -/

namespace Handler

variable {σ : Type} {service : Service σ} {fair : Command × Bytes × Reply → Prop} {h : Handler}

theorem calls_respond (limit : Nat) (socket : Socket) (label : String) (received : Nat)
    (id : UInt32) (reply : Reply) (last : Bool) :
    calls (respond limit socket label received id reply last).1 = [] := by
  rw [respond]
  split <;> rfl

theorem calls_writeOn (now : Nat) (h : Handler) (response : Response) (rest : Bytes)
    (last : Bool) : calls (h.writeOn now response rest last).1 = [] := by
  rw [writeOn]
  split
  · rfl
  · split
    · rfl
    · dsimp only
      split
      · split <;> rfl
      · rw [calls_append, conclude]
        split <;> split <;> rfl

/-- What is known of the calls for payloads that a header may declare. -/
def Fair (service : Service σ) (fair : Command × Bytes × Reply → Prop) : Prop :=
  ∀ now identity command (payload : Bytes) w, payload.length < UInt32.size →
    payload.length ≤ service.limit →
    fair (command, payload, (service.dispatch now identity command payload w).1)

/-- Acting on a part leads to a call with that part, or to none. -/
theorem Fair.act (hfair : Fair service fair) {wanted : Wanted}
    (hjudged : wanted.Judged service.limit) {part : Bytes} (hlength : part.length = wanted.need)
    (now : Nat) (identity : IdentityKey) (observer : Sequence.Observer) (socket : Socket)
    (w : σ) :
    ∀ call ∈ calls (act service now identity observer socket wanted part w).events, fair call := by
  cases wanted with
  | header =>
    rw [Handler.act]
    split
    · exact List.forall_mem_nil _
    · next header _ =>
      have hsilent : calls (judge service.limit socket header).1 = [] := by
        rw [judge]
        split
        · rfl
        · exact calls_respond _ _ _ _ _ _ _
        · rfl
      dsimp only
      rw [calls_append, calls_noteId, hsilent]
      exact List.forall_mem_nil _
  | payload header command =>
    refine List.forall_mem_cons.2 ⟨?_, ?_⟩
    · exact hfair now identity command part w (hlength ▸ Wanted.need_lt _)
        (hlength.trans_le hjudged.1)
    · rw [← calls, calls_respond]
      exact List.forall_mem_nil _
  | refused header reason =>
    rw [Handler.act, calls_respond]
    exact List.forall_mem_nil _

/-- A handler that has ended makes no more calls. -/
theorem Behaves.calls_run {limit : Nat} {first : List Event} {now : Nat} {stopping : Bool} {w : σ}
    (hfirst : Behaves limit first h)
    (hgoing : h.Heeds limit → ∀ call ∈ calls (h.run service now stopping w).1, fair call) :
    ∀ call ∈ calls (h.run service now stopping w).1, fair call := by
  cases hfirst with
  | going hheeds => exact hgoing hheeds
  | finished hended =>
    rw [run_ended (phase_of_isEnded hended)]
    exact List.forall_mem_nil _

/-- A handler calls the dispatcher only with payloads that were announced within the limit. -/
theorem Heeds.calls_run (hheeds : h.Heeds service.limit) (htakes : service.TakesAll)
    (hfair : Fair service fair) (now : Nat) (stopping : Bool) (w : σ) :
    ∀ call ∈ calls (h.run service now stopping w).1, fair call := by
  fun_induction Handler.run service now stopping h w with
  | case1 => exact List.forall_mem_nil _
  | case2 h w response rest last hphase wrote hdone more ih =>
    rw [calls_append, calls_writeOn]
    exact (hheeds.writeOn hphase now).calls_run ih
  | case3 h w response rest last hphase wrote hwrites =>
    rw [calls_writeOn]
    exact List.forall_mem_nil _
  | case4 => exact List.forall_mem_nil _
  | case5 => exact List.forall_mem_nil _
  | case6 => exact List.forall_mem_nil _
  | case7 h w wanted hphase hgo part socket hread turn next rest ih =>
    cases hheeds with
    | reading hreading hjudged hwithin =>
      obtain rfl := Phase.reading.inj (hphase.symm.trans hreading)
      obtain ⟨henough, rfl, -⟩ := of_fill_finished hread
      have hlength := length_part hwithin henough
      rw [calls_append]
      refine List.forall_mem_append.2 ⟨hfair.act hjudged hlength now _ _ _ w, ?_⟩
      exact (behaves_act (h := next) htakes hjudged hlength rfl now _ _ _ w).calls_run ih
    | writing hwriting => cases hphase.symm.trans hwriting

/-- Handlers that heed the limit make such calls only. -/
theorem rule_of_fair (htakes : service.TakesAll) (hfair : Fair service fair) :
    Server.Rule service (Heeds service.limit) fair where
  begins := fun hphase hsoFar => .reading hphase trivial (hsoFar ▸ Nat.zero_le _)
  same := Heeds.same
  goOn := fun now stopping w hheeds => by
    refine ⟨hheeds.calls_run htakes hfair now stopping w, fun hgoing => ?_⟩
    cases Heeds.run htakes now stopping _ w hheeds with
    | going hnext => exact hnext
    | finished hended =>
      rw [hgoing] at hended
      cases hended

end Handler

/-! ## Numbers in settings -/

namespace Settings

theorem le_of_field {s : Section} {index max missing n : Nat} {name : String}
    (hmissing : missing ≤ max)
    (hfield : s.field index name (naturalOf? max) missing = some n) : n ≤ max := by
  rw [Section.field] at hfield
  split at hfield
  · exact Option.some.inj hfield ▸ hmissing
  · unfold naturalOf? at hfield
    split at hfield
    · split at hfield
      · next hrange =>
        rw [← Option.some.inj hfield]
        omega
      · cases hfield
    · cases hfield

end Settings

theorem DaemonSettings.load_of_toOption {file : Except IoError Bytes} {s : DaemonSettings}
    (hload : (load file).toOption = some s) : load file = .ok s := by
  cases hresult : load file with
  | error e =>
    rw [hresult] at hload
    cases hload
  | ok other =>
    rw [hresult] at hload
    rw [Option.some.inj hload]

/-- A timeout that was loaded is a number of 64 bits. -/
theorem DaemonSettings.idleTimeoutMs_le {file : Except IoError Bytes} {s : DaemonSettings}
    (hload : load file = .ok s) : s.server.idleTimeoutMs ≤ Settings.max64 := by
  obtain ⟨-, text, -, -, hdecode⟩ := load_eq_ok_iff.1 hload
  obtain ⟨entries, -, hentries⟩ := Option.bind_eq_some_iff.1 hdecode
  rw [ofEntries] at hentries
  simp only [Option.bind_eq_bind, Option.bind_eq_some_iff, Option.pure_def,
    Option.some.injEq] at hentries
  obtain ⟨section', -, server, hserver, -, -, registry, -, -, -, monitoring, -, rfl⟩ := hentries
  rw [ServerSettings.ofSection] at hserver
  simp only [Option.bind_eq_bind, Option.bind_eq_some_iff, Option.pure_def,
    Option.some.injEq] at hserver
  obtain ⟨endpoint, -, maxConnections, -, idleTimeoutMs, hidle, rfl⟩ := hserver
  exact Settings.le_of_field (Nat.zero_le _) hidle

theorem DaemonSettings.idleTimeout_le {file : Except IoError Bytes} {s : DaemonSettings}
    (hload : load file = .ok s) : ∀ ms ∈ s.server.idleTimeout, ms ≤ Settings.max64 := by
  intro ms hms
  rw [ServerSettings.idleTimeout, timeoutOfMs] at hms
  split at hms
  · cases hms
  · rw [← Option.some.inj hms]
    exact idleTimeoutMs_le hload

/-! ## Starting and serving -/

namespace Daemon

open Handler Server

variable {host host' : Host} {plan : DaemonPlan} {file : Except IoError Bytes}
  {settings : DaemonSettings}

/-- The daemon is allowed more connections than can be counted, and aborts. -/
def Aborts (host : Host) (plan : DaemonPlan) : Prop :=
  ∃ limit host', start host plan = (.error (.tooManyConnections limit), host')

/-- A daemon aborts exactly if it would start with a single connection, but is allowed too many. -/
theorem aborts_iff (host : Host) (plan : DaemonPlan) : Aborts host plan
    ↔ maxPermits < plan.maxConnections
      ∧ ∃ running host', start host { plan with maxConnections := 1 } = (.ok running, host') := by
  have hone : ¬ 1 > maxPermits := by decide
  simp only [Aborts, start, serve]
  cases Registry.open host.tree plan.root plan.maxObjectSize with
  | mk opened t =>
    cases opened with
    | error e => simp
    | ok r =>
      dsimp only
      cases Endpoint.parse plan.endpoint with
      | error e => simp
      | ok endpoint =>
        dsimp only
        cases Host.bind { host with tree := t } endpoint with
        | mk bound host₁ =>
          cases bound with
          | error e => simp
          | ok listener =>
            by_cases hmany : plan.maxConnections > maxPermits <;> simp [hmany, hone]

/-- A daemon that does not start and does not abort says why. -/
theorem chain_ne_nil {e : StartError} (hstart : start host plan = (.error e, host'))
    (hgoing : ¬ Aborts host plan) : e.chain ≠ [] := by
  cases e with
  | registry root cause => cases cause <;> simp [StartError.chain]
  | endpoint cause => simp [StartError.chain]
  | binding place cause => simp [StartError.chain]
  | tooManyConnections limit => exact absurd ⟨limit, host', hstart⟩ hgoing

/-- Whatever clients do, the daemon makes only calls that it can endure. -/
theorem endurable_of_start {running : Running Tree}
    (hstart : start host plan = (.ok running, host')) (inputs : List (Nat × Server.Input)) :
    ∀ call ∈ calls ((running.server.run running.service host'.tree inputs).1.map (·.2)),
      Endurable plan.maxObjectSize call := by
  obtain ⟨r, hmax, hservice, hserver⟩ := service_of_start hstart
  have htakes : running.service.TakesAll := by
    rw [hservice]
    exact Registry.takesAll (Nat.le_of_eq hmax.symm) _ _
  have hfair : Fair running.service (Endurable plan.maxObjectSize) := by
    rw [hservice, ← hmax]
    exact fun now identity command payload t hlt hfits =>
      Registry.endurable_dispatch hlt hfits now identity command t
  have hnobody : ∀ item ∈ running.server.active, item.2.Heeds running.service.limit := by
    rw [hserver]
    exact List.forall_mem_nil _
  exact ((rule_of_fair htakes hfair).run hnobody inputs host'.tree).made

/-- Whatever a daemon with some settings is asked to do, on some host. -/
structure Endures (settings : DaemonSettings) (host : Host) : Prop where
  /-- The daemon aborts for the permits of its semaphore alone, where nothing else keeps it from
  starting. -/
  start : Aborts host settings.plan
    ↔ (Demand.permits (max 1 settings.server.maxConnections)).isMet = false
      ∧ ∃ running host', start host { settings.plan with maxConnections := 1 }
        = (.ok running, host')
  /-- If it does not, it serves or says why it cannot. -/
  reports : ¬ Aborts host settings.plan → ∀ e host',
    Daemon.start host settings.plan = (.error e, host') → e.chain ≠ []
  /-- Waiting for a client is never asked for in vain. -/
  waits : ∀ wanted, ∀ demand ∈ Demand.ofWait settings.server.idleTimeout wanted,
    demand.isMet = true
  /-- Nor is anything else, whatever clients do, but for pointers across tokens that are within the
  limit and too long for an archive. -/
  serves : ∀ running host', Daemon.start host settings.plan = (.ok running, host') →
    running.service.idle = settings.server.idleTimeout
      ∧ ∀ inputs, ∀ call ∈ calls
        ((running.server.run running.service host'.tree inputs).1.map (·.2)),
        Endurable settings.registry.maxObjectSize call

/-- **No settings that can be loaded make the daemon ask for anything in vain, but for the permits
of its semaphore and for pointers across the longest tokens.** -/
theorem endures_of_load (hload : DaemonSettings.load file = .ok settings) (host : Host) :
    Endures settings host where
  start := by
    have hone : 1 ≤ maxPermits := by decide
    have hunmet : (Demand.permits (max 1 settings.server.maxConnections)).isMet = false
        ↔ maxPermits < settings.server.maxConnections := by
      simp only [Demand.isMet, decide_eq_false_iff_not]
      omega
    rw [hunmet]
    exact aborts_iff host settings.plan
  reports := fun hgoing _ _ hstart => chain_ne_nil hstart hgoing
  waits := fun _ _ hmem =>
    Demand.isMet_of_mem_ofWait (DaemonSettings.idleTimeout_le hload) hmem
  serves := fun running host' hstart => by
    obtain ⟨r, -, hservice, -⟩ := service_of_start hstart
    refine ⟨?_, endurable_of_start hstart⟩
    rw [hservice]
    rfl

/-- A file with the settings under which tokens have no more than four bytes. -/
def tightText : String :=
  "[server]\nendpoint = \"@a\"\nmax_connections = 4\n"
    ++ "[registry]\nroot = \"r\"\nmax_object_size = 4\n"

theorem endures_tight :
    DaemonSettings.load (.ok tightText.toUTF8.toList) = .ok tight
      ∧ Endures tight (.ofTree .empty)
      ∧ ∃ running host', Daemon.start (.ofTree .empty) tight.plan = (.ok running, host')
        ∧ calls ((running.server.run running.service host'.tree overdoing).1.map (·.2))
          = [(.writeAuthToken, [65, 66, 67, 68], ⟨.ok, []⟩)] := by
  have hload : DaemonSettings.load (.ok tightText.toUTF8.toList) = .ok tight :=
    DaemonSettings.load_of_toOption (by decide +kernel)
  exact ⟨hload, endures_of_load hload _, exists_start (by decide +kernel)⟩

/-- Settings that allow one connection more than can be counted. -/
def boundless : DaemonSettings where
  server := { maxConnections := 2305843009213693952 }

/-- A file with these settings. -/
def boundlessText : String := "[server]\nmax_connections = 2305843009213693952\n"

/-- Settings that can be loaded make the daemon abort. -/
theorem aborts_boundless :
    DaemonSettings.load (.ok boundlessText.toUTF8.toList) = .ok boundless
      ∧ Aborts (.ofTree .empty) boundless.plan := by
  refine ⟨DaemonSettings.load_of_toOption (by decide +kernel), ?_⟩
  refine (aborts_iff _ _).2 ⟨by decide +kernel, ?_⟩
  obtain ⟨running, host', hstart, -⟩ : ∃ running host',
      Daemon.start (.ofTree .empty) { boundless.plan with maxConnections := 1 }
        = (.ok running, host') ∧ True := exists_start (by decide +kernel)
  exact ⟨running, host', hstart⟩

end Daemon
end TokenBroker
