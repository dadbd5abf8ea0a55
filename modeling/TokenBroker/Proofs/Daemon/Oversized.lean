import TokenBroker.Proofs.Client.Direct
import TokenBroker.Proofs.Daemon.Chronicle
import TokenBroker.Proofs.Daemon.Lifetime
import TokenBroker.Proofs.Daemon.Shifts
import TokenBroker.Settings.Daemon
/-!
# What is too large

A client that is told that something is too large is told so once, in the last response on its
connection.  It is told so for a header that declares too much, and never by the storage.

* `Registry.Agrees` says that the three checks of a size, of a header, of a payload to come and of a
  token to store, draw the same line.  `Registry.takesAll` says that therefore the storage refuses
  no payload for its size that a handler lets through.
* `Handler.Fitting` is some of what happens on a connection as long as everything fits, and
  `Handler.Heeds` a handler that will keep to that; `Heeds.run` is a run of it.
* `Handler.Dismisses` tells it by the commands that were read, and `Server.dismisses_of_run` says it
  of every connection of a server.
* `Daemon.tooLarge_is_last` is about a daemon with any settings.
-/

set_option autoImplicit false

namespace TokenBroker

/-! ## The three checks -/

/-- A header is refused for its size exactly if it declares more than the limit. -/
theorem resultCode_eq_tooLarge_iff {header : CommandHeader} {limit : Nat} {reason : ValidationError}
    (hrefused : validateCommand header limit = .error reason) :
    reason.resultCode = .payloadTooLarge ↔ limit < header.dataSize.toNat := by
  rcases Nat.lt_or_ge limit header.dataSize.toNat with hlarge | hfits
  · rw [Handler.validateCommand_of_gt hlarge] at hrefused
    obtain rfl := Except.error.inj hrefused
    exact iff_of_true rfl hlarge
  · refine iff_of_false (fun hresult => ?_) (Nat.not_lt.2 hfits)
    rw [Handler.validateCommand_of_le hfits] at hrefused
    split at hrefused
    · obtain rfl := Except.error.inj hrefused
      cases hresult
    · split at hrefused
      · obtain rfl := Except.error.inj hrefused
        cases hresult
      · cases hrefused

/-- A header that is accepted declares no more than the limit. -/
theorem dataSize_le_of_ok {header : CommandHeader} {limit : Nat} {command : Command}
    (hvalid : validateCommand header limit = .ok command) : header.dataSize.toNat ≤ limit := by
  by_contra hlarge
  rw [Handler.validateCommand_of_gt (Nat.not_le.1 hlarge)] at hvalid
  cases hvalid

/-- An error that tells of an absent entry or of a failure does not tell of a size. -/
theorem Client.Told.result_ne {e : StorageError} (htold : Client.Told e) :
    e.resultCode ≠ .payloadTooLarge := by
  rcases htold with hcode | hcode <;> rw [hcode] <;> exact ResultCode.noConfusion

/-- Whatever is within its limit is not too large for the dispatcher of a service. -/
def Service.TakesAll {σ : Type} (service : Service σ) : Prop :=
  service.Replies (fun _ => True) fun _ reply => reply.result ≠ .payloadTooLarge

namespace Registry

variable {r : Registry} {limit : Nat}

/-- A token is too large for the storage exactly if it is larger than the limit. -/
theorem store_eq_tooLarge_iff (t : Tree) (key : IdentityKey) (blob : Bytes) (now : UInt64) :
    (∃ size max, (r.store t key blob now).1 = .error (.tooLarge size max))
      ↔ r.maxObjectSize < blob.length := by
  rcases Nat.lt_or_ge r.maxObjectSize blob.length with hlarge | hfits
  · rw [Client.store_tooLarge hlarge]
    exact iff_of_true ⟨_, _, rfl⟩ hlarge
  · refine iff_of_false ?_ (Nat.not_lt.2 hfits)
    rintro ⟨size, max, hstored⟩
    exact (Client.store_told hfits hstored).result_ne rfl

/-- A payload of a declared size is too large in the same cases for the check of its header, for the
receiving codec and for the storage. -/
def Agrees (r : Registry) (limit : Nat) : Prop :=
  ∀ (header : CommandHeader) (payload : Bytes) (t : Tree) (key : IdentityKey) (now : UInt64),
    payload.length = header.dataSize.toNat →
      ((∃ size max, validateCommand header limit = .error (.payloadTooLarge size max))
          ↔ limit < payload.length)
        ∧ ((∃ e, Frame.payloadNeed limit header.dataSize = .error e) ↔ limit < payload.length)
        ∧ ((∃ size max, (r.store t key payload now).1 = .error (.tooLarge size max))
          ↔ limit < payload.length)

theorem agrees (hmax : r.maxObjectSize = limit) : r.Agrees limit := by
  intro header payload t key now hsize
  refine ⟨?_, ?_, hmax ▸ store_eq_tooLarge_iff t key payload now⟩
  · rw [hsize]
    constructor
    · rintro ⟨size, max, hrefused⟩
      exact (resultCode_eq_tooLarge_iff hrefused).1 rfl
    · intro hlarge
      exact ⟨_, _, Handler.validateCommand_of_gt hlarge⟩
  · rw [hsize, Frame.payloadNeed]
    split
    · next hlarge => exact iff_of_true ⟨_, rfl⟩ hlarge
    · next hfits =>
      refine iff_of_false ?_ hfits
      rintro ⟨e, herror⟩
      cases herror

theorem ofOutcome_result_ne {result : Except StorageError Unit}
    (htold : ∀ e, result = .error e → Client.Told e) :
    (Reply.ofOutcome result).result ≠ .payloadTooLarge := by
  cases result with
  | ok => exact ResultCode.noConfusion
  | error e => exact (htold e rfl).result_ne

/-- The storage refuses nothing for its size that is within the limit of the service. -/
theorem takesAll (hmax : limit ≤ r.maxObjectSize) (idle : Option Nat) (scope : IdentityScope) :
    (r.service limit idle scope).TakesAll := by
  intro now key command payload t _ hfits
  cases command with
  | readAuthToken =>
    simp only [service, dispatch]
    split
    · exact ResultCode.noConfusion
    · next hread => exact (Client.read_told hread).result_ne
  | writeAuthToken =>
    exact ofOutcome_result_ne fun _ => Client.store_told (Nat.le_trans hfits hmax)
  | deleteAuthToken => exact ofOutcome_result_ne fun _ => Client.delete_told

end Registry

namespace Handler

/-! ## Events -/

/-- The result that an event tells of: that of a reply, or of a response written to its end. -/
def Event.result? : Event → Option ResultCode
  | .dispatched _ _ reply => some reply.result
  | .answered response => some response.result
  | _ => none

/-- Some of what happens on a connection as long as everything fits.  What does not is answered in
the end; `ends` says that it has come to that, or that the connection ends for another reason. -/
inductive Fitting : List Event → Bool → Prop
  | nothing : Fitting [] false
  | ended (reset : Bool) : Fitting [.ended reset] true
  | dismissed {response : Response} (hresult : response.result = .payloadTooLarge) (reset : Bool) :
      Fitting [.answered response, .ended reset] true
  | cons {event : Event} {events : List Event} {ends : Bool}
      (hfits : event.result? ≠ some .payloadTooLarge) (hrest : Fitting events ends) :
      Fitting (event :: events) ends

variable {a b events before after : List Event} {ends : Bool} {response : Response}

theorem Fitting.append (ha : Fitting a false) (hb : Fitting b ends) : Fitting (a ++ b) ends := by
  generalize hgoing : false = going at ha
  induction ha with
  | nothing => exact hb
  | ended | dismissed => cases hgoing
  | cons hfits _ ih => exact .cons hfits (ih hgoing)

/-- An event that tells of no result. -/
theorem fitting_silent {event : Event} (hsilent : event.result? = none) :
    Fitting [event] false := by
  refine .cons ?_ .nothing
  rw [hsilent]
  exact (Option.some_ne_none _).symm

/-- After a response that something is too large there is nothing but the end. -/
theorem Fitting.last (hfitting : Fitting events ends)
    (hevents : events = before ++ .answered response :: after)
    (hresult : response.result = .payloadTooLarge) : ∃ reset, after = [.ended reset] := by
  induction hfitting generalizing before with
  | nothing => simp at hevents
  | ended reset =>
    cases before with
    | nil => cases hevents
    | cons first before => simp at hevents
  | dismissed _ reset =>
    -- the response that is asked about comes first, for after it there is only the end
    rcases before with _ | ⟨first, _ | ⟨second, before⟩⟩
    · exact ⟨reset, (List.cons.inj hevents).2.symm⟩
    · cases hevents
    · simp at hevents
  | cons hfits _ ih =>
    cases before with
    | nil =>
      obtain ⟨rfl, -⟩ := List.cons.inj hevents
      exact absurd (congrArg some hresult) hfits
    | cons first before => exact ih (List.cons.inj hevents).2

/-- No reply of the dispatcher is that something is too large. -/
theorem Fitting.result_ne (hfitting : Fitting events ends) {call : Command × Bytes × Reply}
    (hcall : call ∈ calls events) : call.2.2.result ≠ .payloadTooLarge := by
  induction hfitting with
  | nothing | ended | dismissed => cases hcall
  | @cons event events ends hfits _ ih =>
    cases event with
    | dispatched command payload reply =>
      rcases List.mem_cons.1 hcall with rfl | hrest
      · exact fun hresult => hfits (congrArg some hresult)
      · exact ih hrest
    | started | gap | sent | answered | ended | rejected => exact ih hcall

/-! ## Handlers -/

/-- A handler at work that will say only in the end that something is too large. -/
inductive Heeds (limit : Nat) (h : Handler) : Prop
  | reading {wanted : Wanted} (hphase : h.phase = .reading wanted) (hjudged : wanted.Judged limit)
      (hwithin : h.soFar.length ≤ wanted.need) : Heeds limit h
  | writing {response : Response} {rest : Bytes} {last : Bool}
      (hphase : h.phase = .writing response rest last)
      (hlast : response.result = .payloadTooLarge → last = true) (hnothing : h.soFar = []) :
      Heeds limit h

/-- What a handler did fits, and it has ended or will keep to that. -/
inductive Behaves (limit : Nat) (events : List Event) (h : Handler) : Prop
  | finished (hended : h.isEnded = true) (hfitting : Fitting events true) : Behaves limit events h
  | going (hheeds : h.Heeds limit) (hfitting : Fitting events false) : Behaves limit events h

variable {σ : Type} {service : Service σ} {limit now : Nat} {stopping : Bool} {h next : Handler}
  {w : σ}

theorem Heeds.going (hheeds : h.Heeds limit) : h.isEnded = false := by
  cases hheeds with
  | reading hphase | writing hphase => rw [isEnded, hphase]

/-- It does not matter what arrives, or what room there is. -/
theorem Heeds.same (hheeds : h.Heeds limit) (hphase : next.phase = h.phase)
    (hsoFar : next.soFar = h.soFar) : next.Heeds limit := by
  cases hheeds with
  | reading hreading hjudged hwithin =>
    exact .reading (hphase.trans hreading) hjudged (hsoFar ▸ hwithin)
  | writing hwriting hlast hnothing =>
    exact .writing (hphase.trans hwriting) hlast (hsoFar.trans hnothing)

theorem Behaves.prepend (ha : Fitting a false) (hb : Behaves limit b h) :
    Behaves limit (a ++ b) h := by
  cases hb with
  | finished hended hfitting => exact .finished hended (ha.append hfitting)
  | going hheeds hfitting => exact .going hheeds (ha.append hfitting)

theorem behaves_finish (limit : Nat) (h : Handler) : Behaves limit h.finish.1 h.finish.2 :=
  .finished rfl (.ended _)

theorem fitting_noteId (observer : Sequence.Observer) (id : UInt32) :
    Fitting (noteId observer id).1 false := by
  rw [noteId]
  split
  · exact fitting_silent rfl
  · exact .nothing

/-- Beginning to write a response does nothing yet, or ends the connection. -/
theorem behaves_respond {reply : Reply} {last : Bool}
    (hlast : reply.result = .payloadTooLarge → last = true) (hnothing : h.soFar = [])
    (limit : Nat) (socket : Socket) (label : String) (received : Nat) (id : UInt32) :
    let answer := respond limit socket label received id reply last
    Behaves limit answer.1 { h with phase := answer.2 } := by
  simp only [respond]
  split
  · exact .finished rfl (.ended _)
  · exact .going (.writing rfl hlast hnothing) .nothing

/-- What is done with a part that was read. -/
theorem behaves_act (htakes : service.TakesAll) {wanted : Wanted}
    (hjudged : wanted.Judged service.limit) {part : Bytes} (hlength : part.length = wanted.need)
    (hnothing : h.soFar = []) (now : Nat) (identity : IdentityKey) (observer : Sequence.Observer)
    (socket : Socket) (w : σ) :
    let turn := act service now identity observer socket wanted part w
    Behaves service.limit turn.events { h with phase := turn.phase } := by
  cases wanted with
  | header =>
    simp only [act]
    split
    · exact .finished rfl (.ended _)
    · next header _ =>
      rcases Nat.lt_or_ge service.limit header.dataSize.toNat with hlarge | hfits
      · rw [judge_of_gt hlarge, List.append_nil]
        exact .going (.writing rfl (fun _ => rfl) hnothing) (fitting_noteId _ _)
      · rw [judge_of_le hfits, List.append_nil]
        refine .going (.reading rfl (Wanted.judged_after hfits) ?_) (fitting_noteId _ _)
        rw [hnothing]
        exact Nat.zero_le _
  | payload header command =>
    have hfits : part.length ≤ service.limit := hlength.trans_le hjudged.1
    have hresult := htakes now identity command part w trivial hfits
    have hdispatched : Fitting
        [.dispatched command part (service.dispatch now identity command part w).1] false :=
      .cons (fun hlarge => hresult (Option.some.inj hlarge)) .nothing
    have hlast : (service.dispatch now identity command part w).1.result = .payloadTooLarge →
        false = true := fun hlarge => absurd hlarge hresult
    exact (behaves_respond hlast hnothing service.limit socket command.name part.length
      header.id).prepend hdispatched
  | refused header reason =>
    refine behaves_respond (fun hlarge => ?_) hnothing _ _ _ _ _
    exact absurd ((resultCode_eq_tooLarge_iff hjudged.2).1 hlarge) (Nat.not_lt.2 hjudged.1)

/-- A response was written to its end.  If it says that something is too large, the connection ends
with it. -/
theorem behaves_conclude {last : Bool} (hlast : response.result = .payloadTooLarge → last = true)
    (hnothing : h.soFar = []) (limit now : Nat) :
    Behaves limit (h.conclude now response last).1 (h.conclude now response last).2 := by
  by_cases hlarge : response.result = .payloadTooLarge
  · rw [hlast hlarge]
    exact .finished rfl (.dismissed hlarge _)
  · have hfits : (Event.answered response).result? ≠ some .payloadTooLarge :=
      fun hresult => hlarge (Option.some.inj hresult)
    cases last with
    | true => exact .finished rfl (.cons hfits (.ended _))
    | false =>
      refine .going (.reading rfl trivial ?_) (.cons hfits .nothing)
      exact hnothing ▸ Nat.zero_le _

theorem behaves_writeOn {rest : Bytes} {last : Bool}
    (hphase : h.phase = .writing response rest last)
    (hlast : response.result = .payloadTooLarge → last = true) (hnothing : h.soFar = [])
    (limit now : Nat) :
    Behaves limit (h.writeOn now response rest last).1 (h.writeOn now response rest last).2 := by
  have hsent : ∀ n, Fitting (if n = 0 then [] else [.sent (rest.take n)]) false := by
    intro n
    split
    · exact .nothing
    · exact fitting_silent rfl
  rw [writeOn]
  split
  · exact behaves_finish limit h
  · split
    · exact .going (.writing hphase hlast hnothing) .nothing
    · obtain ⟨n, outlet⟩ := h.outlet.offer rest.length
      dsimp only
      split
      · exact .going (.writing rfl hlast hnothing) (hsent n)
      · have hconcluded :=
          behaves_conclude (h := { h with outlet := outlet }) hlast hnothing limit now
        exact hconcluded.prepend (hsent n)

theorem Heeds.writeOn {rest : Bytes} {last : Bool} (hheeds : h.Heeds limit)
    (hphase : h.phase = .writing response rest last) (now : Nat) :
    Behaves limit (h.writeOn now response rest last).1 (h.writeOn now response rest last).2 := by
  cases hheeds with
  | reading hreading => cases hphase.symm.trans hreading
  | writing hwriting hlast hnothing =>
    obtain ⟨rfl, rfl, rfl⟩ := Phase.writing.inj (hphase.symm.trans hwriting)
    exact behaves_writeOn hphase hlast hnothing limit now

/-- What comes first either ends the connection, or the rest goes on from there. -/
theorem Behaves.run {first : List Event} (hfirst : Behaves limit first next)
    (hrest : next.Heeds limit → Behaves limit (Handler.run service now stopping next w).1
      (Handler.run service now stopping next w).2.1) :
    Behaves limit (first ++ (Handler.run service now stopping next w).1)
      (Handler.run service now stopping next w).2.1 := by
  cases hfirst with
  | going hheeds hfitting => exact (hrest hheeds).prepend hfitting
  | finished hended hfitting =>
    rw [run_ended (phase_of_isEnded hended), List.append_nil]
    exact .finished hended hfitting

/-- **A handler says that something is too large only in the end.** -/
theorem Heeds.run (htakes : service.TakesAll) (now : Nat) (stopping : Bool) (h : Handler) (w : σ)
    (hheeds : h.Heeds service.limit) :
    Behaves service.limit (Handler.run service now stopping h w).1
      (Handler.run service now stopping h w).2.1 := by
  fun_induction Handler.run service now stopping h w with
  | case1 h w hphase =>
    have hgoing := hheeds.going
    rw [isEnded, hphase] at hgoing
    cases hgoing
  | case2 h w response rest last hphase wrote hdone more ih =>
    exact (hheeds.writeOn hphase now).run ih
  | case3 h w response rest last hphase wrote hwrites => exact hheeds.writeOn hphase now
  | case4 h w => exact behaves_finish _ h
  | case5 h w wanted hphase hgo got socket hread =>
    obtain ⟨rfl, -⟩ := Socket.of_fill_waiting hread
    have hshort := Socket.lt_of_fill hread (by simp)
    rw [← List.length_append] at hshort
    cases hheeds with
    | reading hreading hjudged =>
      obtain rfl := Phase.reading.inj (hphase.symm.trans hreading)
      exact .going (.reading hphase hjudged (Nat.le_of_lt hshort)) .nothing
    | writing hwriting => cases hphase.symm.trans hwriting
  | case6 => exact behaves_finish _ _
  | case7 h w wanted hphase hgo part socket hread turn next rest ih =>
    cases hheeds with
    | reading hreading hjudged hwithin =>
      obtain rfl := Phase.reading.inj (hphase.symm.trans hreading)
      obtain ⟨henough, rfl, -⟩ := of_fill_finished hread
      have hlength := length_part hwithin henough
      exact (behaves_act (h := next) htakes hjudged hlength rfl now _ _ _ w).run ih
    | writing hwriting => cases hphase.symm.trans hwriting

/-! ## Commands -/

/-- Of some commands those that declare too much, and no others, are answered to be too large.  That
is the end: such a command is the last one, and its response is the last of all that is written.
None of its payload is read, and it leads to no call of the dispatcher. -/
structure Dismisses (limit : Nat) (events : List Event) (commands : List Received) : Prop where
  declared : ∀ e ∈ commands, ∀ response, e.response? = some response →
    (response.result = .payloadTooLarge ↔ limit < e.header.dataSize.toNat)
  /-- However much of its response was written. -/
  last : ∀ e ∈ commands, limit < e.header.dataSize.toNat → ∃ former part,
    commands = former ++ [e] ∧ e.payload = [] ∧ e.call? = none
      ∧ written events = frames former ++ part
      ∧ part <+: answer e.header.id (.status .payloadTooLarge)
  /-- When it was written to its end, the connection is closed. -/
  closes : ∀ before response after, events = before ++ .answered response :: after →
    response.result = .payloadTooLarge →
      (∃ reset, after = [.ended reset])
        ∧ ∃ former e, commands = former ++ [e] ∧ limit < e.header.dataSize.toNat
          ∧ e.response? = some response ∧ written before = frames former ++ response.frame
  /-- The dispatcher is given no more than the limit, and never replies that it is too large. -/
  taken : ∀ call ∈ calls events, call.2.1.length ≤ limit ∧ call.2.2.result ≠ .payloadTooLarge

variable {commands former : List Received} {e : Received} {part : Bytes}

/-- A command that declares too much is refused, and none of its payload is read. -/
theorem Received.Lawful.refused (hlawful : e.Lawful limit)
    (hlarge : limit < e.header.dataSize.toNat) :
    e.payload = []
      ∧ e.fate = .refused (.payloadTooLarge e.header.dataSize.toNat limit) := by
  rw [Received.Lawful] at hlawful
  split at hlawful
  · exact absurd hlarge (Nat.not_lt.2 hlawful.1)
  · next reason hfate =>
    obtain ⟨hrefused, hlength⟩ := hlawful
    rw [validateCommand_of_gt hlarge] at hrefused
    rw [if_pos hlarge] at hlength
    exact ⟨List.length_eq_zero_iff.1 hlength, by rw [hfate, Except.error.inj hrefused]⟩
  · exact absurd hlarge (Nat.not_lt.2 (dataSize_le_of_ok hlawful.1))

/-- What a command is answered, if its call is not answered to be too large. -/
theorem Received.Lawful.declared (hlawful : e.Lawful limit)
    (htaken : ∀ call, e.call? = some call → call.2.2.result ≠ .payloadTooLarge)
    (hresponse : e.response? = some response) :
    response.result = .payloadTooLarge ↔ limit < e.header.dataSize.toNat := by
  obtain ⟨header, payload, fate, isAnswered⟩ := e
  cases fate with
  | unread => cases hresponse
  | refused reason =>
    obtain rfl := Option.some.inj hresponse
    exact resultCode_eq_tooLarge_iff hlawful.1
  | dispatched command reply =>
    obtain rfl := Option.some.inj hresponse
    exact iff_of_false (htaken _ rfl) (Nat.not_lt.2 (dataSize_le_of_ok hlawful.1))

/-- The payload of a call is that of an accepted command. -/
theorem Received.Lawful.length_le (hlawful : e.Lawful limit) {call : Command × Bytes × Reply}
    (hcall : e.call? = some call) : call.2.1.length ≤ limit := by
  obtain ⟨header, payload, fate, isAnswered⟩ := e
  cases fate with
  | unread | refused => cases hcall
  | dispatched command reply =>
    obtain rfl := Option.some.inj hcall
    exact hlawful.2.1.trans_le (dataSize_le_of_ok hlawful.1)

/-- A command after which the connection does not go on is the last one. -/
theorem Log.last (hlog : Log limit events commands part) (hmem : e ∈ commands)
    (hstays : ¬ e.GoesOn limit) : ∃ former, commands = former ++ [e] := by
  rcases List.eq_nil_or_concat commands with rfl | ⟨former, final, rfl⟩
  · cases hmem
  · have horderly := hlog.orderly
    rw [List.concat_eq_append] at hmem horderly ⊢
    rw [List.dropLast_concat] at horderly
    rcases List.mem_append.1 hmem with hformer | hfinal
    · exact absurd (horderly e hformer) hstays
    · exact ⟨former, by rw [List.mem_singleton.1 hfinal]⟩

/-- Nothing of a response is under way after a command that was answered. -/
theorem Unfinished.eq_nil (hunfinished : Unfinished (former ++ [e]) part)
    (hanswered : e.isAnswered = true) : part = [] := by
  rcases hunfinished with hnone | ⟨e', _, _, hlast, hunanswered, -⟩
  · exact hnone
  · rw [List.getLast?_concat] at hlast
    obtain rfl := Option.some.inj hlast
    rw [hanswered] at hunanswered
    cases hunanswered

/-- What was written for the last command. -/
theorem Unfinished.prefix_frame (hunfinished : Unfinished (former ++ [e]) part)
    (hresponse : e.response? = some response) :
    e.answer?.toList.flatMap (·.frame) ++ part <+: response.frame := by
  cases hanswered : e.isAnswered with
  | true =>
    rw [hunfinished.eq_nil hanswered, Received.answer?, hanswered, if_pos rfl, hresponse]
    simp
  | false =>
    rw [Received.answer?, hanswered]
    rcases hunfinished with rfl | ⟨e', response', rest, hlast, -, hresponse', hframe, -⟩
    · exact List.nil_prefix
    · rw [List.getLast?_concat] at hlast
      obtain rfl := Option.some.inj hlast
      obtain rfl := Option.some.inj (hresponse.symm.trans hresponse')
      exact ⟨rest, hframe.symm⟩

/-- Where what happened fits, a chronicle tells only in the end of something that is too large. -/
theorem Chronicle.dismisses {past : Heard} (hchronicle : Chronicle limit past events commands)
    (hfitting : Fitting events ends) : Dismisses limit events commands := by
  obtain ⟨part, hlog, hunfinished⟩ := hchronicle.log
  have hcalls : ∀ e ∈ commands, ∀ call, e.call? = some call → call ∈ calls events := by
    intro e hmem call hcall
    rw [hlog.calls]
    exact List.mem_filterMap.2 ⟨e, hmem, hcall⟩
  have hdeclared : ∀ e ∈ commands, ∀ response, e.response? = some response →
      (response.result = .payloadTooLarge ↔ limit < e.header.dataSize.toNat) :=
    fun e hmem _ hresponse => (hlog.lawful e hmem).declared
      (fun call hcall => hfitting.result_ne (hcalls e hmem call hcall)) hresponse
  exact {
    declared := hdeclared
    last := fun e hmem hlarge => by
      obtain ⟨hnothing, hfate⟩ := (hlog.lawful e hmem).refused hlarge
      obtain ⟨former, rfl⟩ := hlog.last hmem fun hgoes => Nat.not_lt.2 hgoes.2 hlarge
      have hresponse : e.response? = some ⟨refusedLabel, 0, .payloadTooLarge,
          answer e.header.id (.status .payloadTooLarge)⟩ := by
        rw [Received.response?, hfate]
        rfl
      refine ⟨former, _, rfl, hnothing, by rw [Received.call?, hfate], ?_,
        hunfinished.prefix_frame hresponse⟩
      rw [hlog.written, frames_concat, List.append_assoc]
    closes := fun before response after hevents hresult => by
      obtain ⟨reset, rfl⟩ := hfitting.last hevents hresult
      have hanswered : response ∈ commands.filterMap Received.answer? := by
        rw [← hlog.answers, hevents]
        exact List.mem_filterMap.2 ⟨.answered response, by simp, rfl⟩
      obtain ⟨e, hmem, hanswer⟩ := List.mem_filterMap.1 hanswered
      obtain ⟨hisAnswered, hresponse⟩ : e.isAnswered = true ∧ e.response? = some response := by
        rw [Received.answer?] at hanswer
        split at hanswer
        · next hisAnswered => exact ⟨hisAnswered, hanswer⟩
        · cases hanswer
      have hlarge := (hdeclared e hmem response hresponse).1 hresult
      obtain ⟨former, rfl⟩ := hlog.last hmem fun hgoes => Nat.not_lt.2 hgoes.2 hlarge
      refine ⟨⟨reset, rfl⟩, former, e, rfl, hlarge, hresponse, ?_⟩
      have hwritten := hlog.written
      rw [hunfinished.eq_nil hisAnswered, frames_concat, hanswer, hevents,
        written_append] at hwritten
      simpa [written] using hwritten
    taken := fun call hcall => by
      refine ⟨?_, hfitting.result_ne hcall⟩
      rw [hlog.calls] at hcall
      obtain ⟨e, hmem, hcall⟩ := List.mem_filterMap.1 hcall
      exact (hlog.lawful e hmem).length_le hcall }

end Handler

/-! ## Every connection -/

namespace Server

open Handler

variable {σ : Type} {service : Service σ} {client : Nat} {inputs : List (Nat × Input)}

/-- Of every connection it can be said that what happens on it fits, up to the end. -/
def Course.fitting (htakes : service.TakesAll) :
    Course service (fun _ => True) (fun _ => True) where
  waiting := fun _ _ => True
  busy := fun _ events h => h.Heeds service.limit ∧ Fitting events false
  resting := fun _ events h => h.Heeds service.limit ∧ Fitting events false
  closed := fun _ events => ∃ ends, Fitting events ends
  queue := fun _ _ => trivial
  refuse := fun _ hstart => events_of_start_none hstart ▸ ⟨_, fitting_silent rfl⟩
  begin := fun _ _ hstart => by
    obtain ⟨rfl, -, -, hphase, hsoFar, -⟩ := of_start_some hstart
    exact ⟨.reading hphase trivial (hsoFar ▸ Nat.zero_le _), fitting_silent rfl⟩
  turnAway := fun _ => ⟨_, fitting_silent rfl⟩
  wake := fun hresting => hresting
  hear := fun hresting _ => hresting.imp_left fun hheeds => hheeds.same rfl rfl
  makeRoom := fun _ hresting => hresting.imp_left fun hheeds => hheeds.same rfl rfl
  run := fun {past events h w} now hbusy _ => by
    obtain ⟨hheeds, hfitting⟩ := hbusy
    dsimp only
    cases hheeds.run htakes now past.told.isSome h w with
    | finished hended hmore =>
      rw [if_pos hended]
      exact ⟨_, hfitting.append hmore⟩
    | going hheeds' hmore =>
      rw [if_neg (Bool.eq_false_iff.1 hheeds'.going)]
      exact ⟨hheeds', hfitting.append hmore⟩
  expire := fun now hresting _ => ⟨_, hresting.2.append (.ended _)⟩
  tell := fun hresting => hresting
  conclude := fun hclosed => hclosed

/-- **On every connection what is too large is the end.** -/
theorem dismisses_of_run (hdistinct : (connecting inputs).Nodup) (hmem : client ∈ connecting inputs)
    (htakes : service.TakesAll) (maxConnections : Nat) (w : σ) :
    let events := eventsOf client ((ofLimit maxConnections).run service w inputs).1
    ∃ commands,
      Chronicle service.limit (heard service maxConnections w inputs client) events commands
        ∧ Dismisses service.limit events commands := by
  intro events
  have hat := (Course.fitting htakes).at_of_ofLimit (fun _ _ => trivial) ⟨_, .nothing⟩
    (fun _ _ _ _ _ _ => trivial) trivial (fun input _ => by cases input.2 <;> trivial)
    hdistinct hmem maxConnections (w := w)
  have hfitting : ∃ ends, Fitting events ends := by
    cases hat.stands with
    | waits _ _ _ hnone _ =>
      have hnothing : events = [] := hnone
      exact ⟨false, hnothing ▸ .nothing⟩
    | serves _ _ hresting => exact ⟨false, hresting.2⟩
    | closed _ _ hclosed => exact hclosed
  obtain ⟨ends, hfitting⟩ := hfitting
  obtain ⟨commands, hchronicle⟩ := chronicle_of_run hdistinct hmem service maxConnections w
  exact ⟨commands, hchronicle, hchronicle.dismisses hfitting⟩

end Server

/-! ## A daemon with any settings -/

namespace Daemon

open Handler Server

variable {host host' : Host} {running : Running Tree} {settings : DaemonSettings} {client : Nat}
  {inputs : List (Nat × Server.Input)}

/-- **Of a daemon with any settings, what is too large is the last that a client hears.**  It is
answered for a header that declares more than the limit, with no call of the dispatcher, and the
storage never refuses a token for its size, because the checks agree. -/
theorem tooLarge_is_last (hstart : start host settings.plan = (.ok running, host'))
    (hdistinct : (connecting inputs).Nodup) (hmem : client ∈ connecting inputs) :
    let limit := settings.registry.maxObjectSize
    let result := running.server.run running.service host'.tree inputs
    let events := eventsOf client result.1
    let past := heard running.service settings.server.maxConnections host'.tree inputs client
    (∃ commands, Chronicle limit past events commands ∧ Dismisses limit events commands)
      ∧ ∃ r : Registry,
        running.service = r.service limit settings.server.idleTimeout settings.registry.scope
          ∧ r.Agrees limit
          ∧ ∀ call ∈ calls events, ∀ t key now size max,
            (r.store t key call.2.1 now).1 ≠ .error (.tooLarge size max) := by
  intro limit result events past
  obtain ⟨r, hmax, hservice, hserver⟩ := service_of_start hstart
  have hlimit : running.service.limit = limit := by
    rw [hservice]
    rfl
  have htakes : running.service.TakesAll := by
    rw [hservice]
    exact Registry.takesAll (Nat.le_of_eq hmax.symm) _ _
  have hdismisses := dismisses_of_run hdistinct hmem htakes settings.server.maxConnections
    host'.tree
  rw [hlimit] at hdismisses
  have hevents : events = eventsOf client
      ((ofLimit settings.server.maxConnections).run running.service host'.tree inputs).1 :=
    congrArg (fun s : Server => eventsOf client (s.run running.service host'.tree inputs).1) hserver
  rw [hevents]
  obtain ⟨commands, hchronicle, hdismissed⟩ := hdismisses
  refine ⟨⟨commands, hchronicle, hdismissed⟩, r, hservice, Registry.agrees hmax, ?_⟩
  intro call hcall t key now size max hstored
  have hlarge := (Registry.store_eq_tooLarge_iff t key call.2.1 now).1 ⟨size, max, hstored⟩
  rw [hmax] at hlarge
  exact Nat.not_lt.2 (hdismissed.taken call hcall).1 hlarge

/-- Settings under which tokens have no more than four bytes. -/
def tight : DaemonSettings where
  server := { endpoint := "@a", maxConnections := 4 }
  registry := { root := "r", maxObjectSize := 4 }

/-- A token of four bytes is stored, and then one of five is announced, and sent with more. -/
def overdoing : List (Nat × Server.Input) :=
  [(1, .connect 0 (some 1000) .flowing),
    (2, .deliver 0 (.bytes ((⟨1, 1, 4⟩ : CommandHeader).encode ++ [65, 66, 67, 68]))),
    (3, .deliver 0 (.bytes ((⟨2, 1, 5⟩ : CommandHeader).encode ++ [65, 66, 67, 68, 69]))),
    (4, .deliver 0 (.bytes (⟨3, 0, 0⟩ : CommandHeader).encode))]

theorem tooLarge_is_last_tight :
    ∃ running host', start (.ofTree .empty) tight.plan = (.ok running, host')
      ∧ (let events := eventsOf 0 (running.server.run running.service host'.tree overdoing).1
        calls events = [(.writeAuthToken, [65, 66, 67, 68], ⟨.ok, []⟩)]
          ∧ written events
            = answer 1 (.status .ok) ++ answer 2 (.status .payloadTooLarge))
      ∧ (connecting overdoing).Nodup ∧ 0 ∈ connecting overdoing
      ∧ let events := eventsOf 0 (running.server.run running.service host'.tree overdoing).1
        (∃ commands,
          Chronicle 4 (heard running.service 4 host'.tree overdoing 0) events commands
            ∧ Dismisses 4 events commands)
          ∧ ∃ r : Registry, running.service = r.service 4 none .caller ∧ r.Agrees 4
            ∧ ∀ call ∈ calls events, ∀ t key now size max,
              (r.store t key call.2.1 now).1 ≠ .error (.tooLarge size max) := by
  obtain ⟨running, host', hstart, hruns⟩ : ∃ running host',
      start (.ofTree .empty) tight.plan = (.ok running, host')
        ∧ (let events := eventsOf 0 (running.server.run running.service host'.tree overdoing).1
          calls events = [(.writeAuthToken, [65, 66, 67, 68], ⟨.ok, []⟩)]
            ∧ written events
              = answer 1 (.status .ok) ++ answer 2 (.status .payloadTooLarge)) :=
    exists_start (by decide +kernel)
  have hdistinct : (connecting overdoing).Nodup := by decide
  have hmem : 0 ∈ connecting overdoing := by decide
  exact ⟨running, host', hstart, hruns, hdistinct, hmem, tooLarge_is_last hstart hdistinct hmem⟩

end Daemon
end TokenBroker
