import Mathlib.Algebra.Order.BigOperators.Group.Finset
import TokenBroker.Proofs.Client.Answers
import TokenBroker.Proofs.Client.Refusal
import TokenBroker.Proofs.Client.Transparency
/-!
# What an answer leaves of a connection

Clients and a daemon of different limits.  As long as no payload is above the limit of the daemon,
an answer leaves a connection that is good for the next call.  A payload that only the client takes
is refused, and that answer is the last one on its connection: the client keeps the connection, and
loses the next call with it.

* `Meets` says what becomes of a call by the size of its payload, and whether the connection is dead
  then.
* `Fleet` is a daemon with its clients between two calls; `Fleet.step` is one call, and `Fleet.run`
  any number of them.
* `usable_after_answer` compares two calls of a client, one after the other.
-/

set_option autoImplicit false

namespace TokenBroker
namespace Client

open Simulation Simulation.Deployment

/-! ## By size -/

/-- The client keeps a connection that the daemon has closed. -/
def isDead (c : Client) : Bool := c.socket.any Socket.gone

/-- What becomes of a call with a payload of some size, on a connection that may be dead, between a
client that takes so much at `most` and a daemon of some limit; and whether the connection is dead
then. -/
inductive Meets (most limit : Nat) (size : Nat) : Bool → Answer → Bool → Prop where
  | tooLarge {dead : Bool} {answer : Answer} : most < size →
      answer.error? = some (.tooLarge size most) → Meets most limit size dead answer dead
  | served {answer : Answer} : size ≤ most → size ≤ limit → answer.isAnswer = true →
      answer.error? ≠ some (.rejected .payloadTooLarge) → Meets most limit size false answer false
  | refused {answer : Answer} : size ≤ most → limit < size → Buffer.Takes (Header.size + size) →
      answer.error? = some (.rejected .payloadTooLarge) → Meets most limit size false answer true
  | cut {answer : Answer} : size ≤ most → limit < size → ¬ Buffer.Takes (Header.size + size) →
      answer.error? = some (.transport (.io (.os .brokenPipe))) →
      Meets most limit size false answer false
  | lost {answer : Answer} : size ≤ most →
      answer.error? = some (.transport (.io (.os .brokenPipe))) →
      Meets most limit size true answer false

section
variable {most limit size : Nat} {dead dead' : Bool} {answer : Answer}

theorem Answer.not_isAnswer_of_error? {e : RegistryError} (herror : answer.error? = some e)
    (hnot : e.isAnswer = false) : answer.isAnswer = false :=
  (isAnswer_of_error? herror).trans hnot

/-- An answer of the daemon kills the connection if it refuses a payload for its size. -/
theorem Meets.dead_of_isAnswer (h : Meets most limit size dead answer dead')
    (hanswer : answer.isAnswer = true) :
    (answer.error? = some (.rejected .payloadTooLarge) ∧ limit < size ∧ dead' = true)
      ∨ (answer.error? ≠ some (.rejected .payloadTooLarge) ∧ dead' = false) := by
  cases h with
  | tooLarge hlarge herror =>
    rw [Answer.not_isAnswer_of_error? herror rfl] at hanswer
    cases hanswer
  | served hfits hwithin hserved hother => exact .inr ⟨hother, rfl⟩
  | refused hfits hlarge hroom herror => exact .inl ⟨herror, hlarge, rfl⟩
  | cut hfits hlarge hroom herror =>
    rw [Answer.not_isAnswer_of_error? herror rfl] at hanswer
    cases hanswer
  | lost hfits herror =>
    rw [Answer.not_isAnswer_of_error? herror rfl] at hanswer
    cases hanswer

/-- On a connection that is not dead. -/
theorem Meets.of_usable (h : Meets most limit size false answer dead') :
    answer.isAnswer = true ∨ (most < size ∧ answer.error? = some (.tooLarge size most))
      ∨ (limit < size ∧ ¬ Buffer.Takes (Header.size + size)
        ∧ answer.error? = some (.transport (.io (.os .brokenPipe)))) := by
  cases h with
  | tooLarge hlarge herror => exact .inr (.inl ⟨hlarge, herror⟩)
  | served hfits hwithin hserved hother => exact .inl hserved
  | refused hfits hlarge hroom herror => exact .inl (Answer.isAnswer_of_error? herror)
  | cut hfits hlarge hroom herror => exact .inr (.inr ⟨hlarge, hroom, herror⟩)

/-- On a connection that is dead. -/
theorem Meets.of_dead (h : Meets most limit size true answer dead') :
    answer.error?
      = some (if most < size then .tooLarge size most else .transport (.io (.os .brokenPipe))) := by
  cases h with
  | tooLarge hlarge herror => rw [if_pos hlarge, herror]
  | lost hfits herror => rw [if_neg (Nat.not_lt.2 hfits), herror]

end

/-- What is plain is no refusal for size. -/
theorem Answer.Plain.error?_ne {answer : Answer} (h : answer.Plain) :
    answer.error? ≠ some (.rejected .payloadTooLarge) := by
  rcases answer with ⟨ended⟩ | ⟨ended⟩
  all_goals
    cases ended with
    | ok value => exact fun herror => by cases herror
    | abandoned => exact fun herror => by cases herror
    | failed e =>
      intro herror
      obtain rfl : e = .rejected .payloadTooLarge := Option.some.inj herror
      rcases h with he | he | ⟨size, max, he⟩ <;> cases he

section
variable {r : Registry} {t : Tree} {n : Nat} {parties : Fin n → Party} {clients : Fin n → Client}
  {d d' : Deployment} {i i' : Instance} {scope : IdentityScope} {endpoint : Endpoint}
  {most : Nat} {a : Fin n} {c' : Client}

/-! ## Connections that are served -/

theorem sum_live_update (clients : Fin n → Client) (a : Fin n) (c' : Client) :
    ∑ b, (Function.update clients a c' b).live + (clients a).live
      = ∑ b, (clients b).live + c'.live := by
  have hothers : ∑ b ∈ Finset.univ.erase a, (Function.update clients a c' b).live
      = ∑ b ∈ Finset.univ.erase a, (clients b).live :=
    Finset.sum_congr rfl fun b hb => by rw [Function.update_of_ne (Finset.ne_of_mem_erase hb)]
  rw [← Finset.add_sum_erase _ _ (Finset.mem_univ a), hothers, Function.update_self,
    ← Finset.add_sum_erase _ (fun b => (clients b).live) (Finset.mem_univ a)]
  omega

/-- A client that is not served leaves a permit. -/
theorem sum_live_lt (hlive : (clients a).live = 0) : ∑ b, (clients b).live < n := by
  have hlt : ∑ b, (clients b).live < ∑ _b : Fin n, 1 :=
    Finset.sum_lt_sum (fun b _ => (clients b).live_le_one)
      ⟨a, Finset.mem_univ a, by rw [hlive]; exact Nat.zero_lt_one⟩
  simpa using hlt

/-! ## One call -/

/-- A client between two calls, whatever its connection is good for. -/
def Standing (c : Client) (d : Deployment) (i : Instance) (name : String) (key : IdentityKey) :
    Prop :=
  c.Rested d i name key ∨ c.Spent d i name

theorem Rested.isDead {c : Client} {name : String} {key : IdentityKey}
    (hrested : c.Rested d i name key) : c.isDead = false := by
  rcases hrested.connection with ⟨hnone, -⟩ | ⟨socket, hsocket, hquiet, -⟩
  · rw [Client.isDead, hnone]
    rfl
  · rw [Client.isDead, hsocket]
    exact hquiet.gone

theorem Spent.isDead {c : Client} {name : String} (hspent : c.Spent d i name) :
    c.isDead = true := by
  obtain ⟨socket, hsocket, hgone⟩ := hspent.connection
  rw [Client.isDead, hsocket]
  exact hgone

/-- The size of the largest payload that both sides take, and that can be declared. -/
def common (most limit : Nat) : Nat := min (min most limit) (UInt32.size - 1)

theorem le_common {most limit size : Nat} (hfits : size ≤ most) (hwithin : size ≤ limit)
    (hdeclared : size < UInt32.size) : size ≤ common most limit :=
  Nat.le_min.2 ⟨Nat.le_min.2 ⟨hfits, hwithin⟩, Nat.le_sub_one_of_lt hdeclared⟩

/-- A daemon of some limit and its clients of another, between two calls. -/
structure Fleet (r : Registry) (scope : IdentityScope) (endpoint : Endpoint)
    (parties : Fin n → Party) (most : Nat) (clients : Fin n → Client) (d : Deployment)
    (i : Instance) : Prop extends Hosted r scope endpoint d i where
  company : Company parties endpoint most
  settings : ∀ a, (clients a).settings = (parties a).settings
  standing : ∀ a, (clients a).Standing d i (parties a).name (.resolve scope (parties a).uid)
  permits : n ≤ i.running.server.permits
  count : i.running.server.active.length = ∑ a, (clients a).live
  within : r.Within d.host.tree (common most r.maxObjectSize)

/-- Time that passes changes nothing. -/
theorem Fleet.later (hfleet : Fleet r scope endpoint parties most clients d i) (time : Nat) :
    Fleet r scope endpoint parties most clients { d with now := time } i where
  toHosted := hfleet.toHosted.later time
  company := hfleet.company
  settings := hfleet.settings
  standing := fun a => (hfleet.standing a).imp (·.later time) (·.later time)
  permits := hfleet.permits
  count := hfleet.count
  within := hfleet.within

theorem Fleet.most_eq (hfleet : Fleet r scope endpoint parties most clients d i) (a : Fin n) :
    (clients a).settings.maxPayload = most := by
  rw [hfleet.settings, hfleet.company.maxPayload]

theorem Fleet.parse_eq (hfleet : Fleet r scope endpoint parties most clients d i) (a : Fin n) :
    Endpoint.parse (clients a).settings.endpoint = .ok endpoint := by
  rw [hfleet.settings]
  exact hfleet.company.meets a

theorem Fleet.permit (hfleet : Fleet r scope endpoint parties most clients d i) (a : Fin n)
    (hlive : (clients a).live = 0) :
    i.running.server.active.length < i.running.server.permits := by
  rw [hfleet.count]
  exact Nat.lt_of_lt_of_le (sum_live_lt hlive) hfleet.permits

/-- What is common to both sides is carried. -/
theorem Fleet.carries (hfleet : Fleet r scope endpoint parties most clients d i) (a : Fin n)
    {payload : Bytes} (hcommon : payload.length ≤ common most r.maxObjectSize) :
    (clients a).Carries i payload := by
  have hsize : 0 < UInt32.size := by decide
  rw [common] at hcommon
  refine ⟨?_, ?_, by omega⟩
  · rw [hfleet.most_eq a]
    omega
  · rw [hfleet.toHosted.limit_eq]
    omega

/-- What a call leaves, if it comes down to a command or none. -/
theorem Fleet.next (hfleet : Fleet r scope endpoint parties most clients d i)
    (hstanding : c'.Standing d' i' (parties a).name (.resolve scope (parties a).uid))
    (hleaves : Leaves (parties a).name (clients a) d i c' d' i') {now : Nat} {key : IdentityKey}
    {command : Command} {payload : Bytes}
    (hcommon : payload.length ≤ r.maxObjectSize → payload.length ≤ common most r.maxObjectSize)
    (htree : d'.host.tree = (r.dispatch now key command payload d.host.tree).2) :
    Fleet r scope endpoint parties most (Function.update clients a c') d' i' where
  toHosted := hfleet.toHosted.dispatched hleaves.toKeeps hleaves.orderly htree
  company := hfleet.company
  settings := fun b => by
    by_cases hb : b = a
    · rw [hb, Function.update_self, hleaves.settings, hfleet.settings]
    · rw [Function.update_of_ne hb, hfleet.settings]
  standing := fun b => by
    by_cases hb : b = a
    · rw [hb, Function.update_self]
      exact hstanding
    · have hne : (parties b).name ≠ (parties a).name := fun heq => hb (hfleet.company.names heq)
      rw [Function.update_of_ne hb]
      exact (hfleet.standing b).imp (·.keep hleaves.toKeeps hne hleaves.orderly)
        (·.keep hleaves.toKeeps hne hleaves.orderly)
  permits := hleaves.permits ▸ hfleet.permits
  count := by
    have hbalance := hleaves.balance
    have hsum := sum_live_update clients a c'
    have hcount := hfleet.count
    omega
  within := by
    rw [htree]
    exact hfleet.within.dispatch hfleet.ready hcommon now key command

/-- What a call leaves that comes down to nothing. -/
theorem Fleet.next_same (hfleet : Fleet r scope endpoint parties most clients d i)
    (hstanding : c'.Standing d' i' (parties a).name (.resolve scope (parties a).uid))
    (hleaves : Leaves (parties a).name (clients a) d i c' d' i')
    (htree : d'.host.tree = d.host.tree) :
    Fleet r scope endpoint parties most (Function.update clients a c') d' i' := by
  have hread : (r.dispatch 0 (.resolve scope 0) .readAuthToken [] d.host.tree).2 = d.host.tree := by
    rw [Registry.dispatch]
    split <;> rfl
  exact hfleet.next hstanding hleaves (fun _ => Nat.zero_le _) (htree.trans hread.symm)

/-- A call that both sides take is answered. -/
theorem Fleet.step_served (hfleet : Fleet r scope endpoint parties most clients d i) (a : Fin n)
    (hrested : (clients a).Rested d i (parties a).name (.resolve scope (parties a).uid))
    {call : Call} (hfits : call.payload.length ≤ most)
    (hwithin : call.payload.length ≤ r.maxObjectSize)
    (hdeclared : call.payload.length < UInt32.size) :
    ∃ answer c' d' i', call.make (remote (parties a).name (parties a).uid) (clients a) d
        = (answer, c', d')
      ∧ Fleet r scope endpoint parties most (Function.update clients a c') d' i'
      ∧ Meets most r.maxObjectSize call.payload.length false answer c'.isDead := by
  let key : IdentityKey := .resolve scope (parties a).uid
  have hscope := hfleet.toHosted.scope_eq
  have hcommon := le_common hfits hwithin hdeclared
  have hagreed : (clients a).Agreed i call.command call.payload
      (r.dispatch d.now key call.command call.payload d.host.tree).1 :=
    ⟨hfleet.carries a hcommon, call.payload_bare,
      hfleet.carries a (hfleet.within.reply d.now key call.command call.payload)⟩
  have hreply : i.running.service.dispatch d.now (.resolve i.running.service.scope (parties a).uid)
      call.command call.payload d.host.tree
      = r.dispatch d.now key call.command call.payload d.host.tree := by
    rw [hscope, hfleet.service]
    rfl
  obtain ⟨c', d', i', hexecute, hrested', hleaves, htree⟩ :=
    execute_served hagreed hfleet.orderly (hscope ▸ hrested) (hfleet.parse_eq a)
      hfleet.toHosted.connect? (hfleet.permit a) hreply
  refine ⟨_, c', d', i', by rw [call.make_eq, hexecute],
    hfleet.next (.inl (hscope ▸ hrested')) hleaves (fun _ => hcommon) htree, ?_⟩
  rw [hrested'.isDead]
  refine .served hfits hwithin ?_ ?_
  · rw [call.isAnswer_wrap]
    exact isAnswer_ofExcept_interpret _ _
  · rw [(Call.wrap_dispatch hwithin key d.now d.host.tree).1]
    exact (call.plain_direct r key _ _).error?_ne

/-- **What becomes of a call is a matter of its size**, and of what the connection is good for. -/
theorem Fleet.step (hfleet : Fleet r scope endpoint parties most clients d i) (a : Fin n)
    (call : Call) (hdeclared : call.payload.length < UInt32.size) :
    ∃ answer c' d' i', call.make (remote (parties a).name (parties a).uid) (clients a) d
        = (answer, c', d')
      ∧ Fleet r scope endpoint parties most (Function.update clients a c') d' i'
      ∧ Meets most r.maxObjectSize call.payload.length (clients a).isDead answer c'.isDead := by
  have hmost := hfleet.most_eq a
  have hscope := hfleet.toHosted.scope_eq
  have herror : ∀ e, (call.wrap (.failed e)).error? = some e := fun e => call.error?_wrap _
  by_cases hlarge : most < call.payload.length
  · -- the client sends nothing
    have hexecute : (clients a).execute (remote (parties a).name (parties a).uid) none call.command
        call.payload d = (.failed (.tooLarge call.payload.length most), clients a, d) := by
      rw [execute, hmost, if_pos hlarge]
    refine ⟨_, clients a, d, i, by rw [call.make_eq, hexecute], ?_, .tooLarge hlarge (herror _)⟩
    rw [Function.update_eq_self]
    exact hfleet
  have hfits : call.payload.length ≤ most := Nat.not_lt.1 hlarge
  have hfits' : call.payload.length ≤ (clients a).settings.maxPayload := hmost ▸ hfits
  rcases hfleet.standing a with hrested | hspent
  · rw [hrested.isDead]
    by_cases hwithin : call.payload.length ≤ r.maxObjectSize
    · exact hfleet.step_served a hrested hfits hwithin hdeclared
    have habove : r.maxObjectSize < call.payload.length := Nat.not_le.1 hwithin
    have habove' : i.running.service.limit < call.payload.length :=
      hfleet.toHosted.limit_eq ▸ habove
    by_cases hroom : Buffer.Takes (Header.size + call.payload.length)
    · obtain ⟨c', d', i', hexecute, hspent', hleaves, htree⟩ :=
        execute_refused hfits' hfleet.orderly (hscope ▸ hrested) (hfleet.parse_eq a)
          hfleet.toHosted.connect? (hfleet.permit a) habove' hdeclared hroom call.command
      refine ⟨_, c', d', i', by rw [call.make_eq, hexecute],
        hfleet.next_same (.inr hspent') hleaves htree, ?_⟩
      rw [hspent'.isDead]
      exact .refused hfits habove hroom (herror _)
    · obtain ⟨c', d', i', hexecute, hrested', hleaves, htree⟩ :=
        execute_cut hfits' hfleet.orderly (hscope ▸ hrested) (hfleet.parse_eq a)
          hfleet.toHosted.connect? (hfleet.permit a) habove' hdeclared hroom call.command
      refine ⟨_, c', d', i', by rw [call.make_eq, hexecute],
        hfleet.next_same (.inl (hscope ▸ hrested')) hleaves htree, ?_⟩
      rw [hrested'.isDead]
      exact .cut hfits habove hroom (herror _)
  · rw [hspent.isDead]
    obtain ⟨c', d', hexecute, hrested', hleaves, htree⟩ :=
      execute_spent hspent hfits' (.resolve scope (parties a).uid) call.command (parties a).uid
    refine ⟨_, c', d', i, by rw [call.make_eq, hexecute],
      hfleet.next_same (.inl hrested') hleaves htree, ?_⟩
    rw [hrested'.isDead]
    exact .lost hfits (herror _)

/-! ## Any number of calls -/

theorem takeTurns_append (parties : Fin n → Party) (clients : Fin n → Client) (d : Deployment)
    (turns more : List (Turn n)) : takeTurns parties clients d (turns ++ more)
      = let first := takeTurns parties clients d turns
        let second := takeTurns parties first.2.1 first.2.2 more
        (first.1 ++ second.1, second.2) := by
  induction turns generalizing clients d with
  | nil => rfl
  | cons turn rest ih =>
    rw [List.cons_append, takeTurns]
    dsimp only
    rw [ih]
    rfl

/-- One turn. -/
theorem Fleet.turn (hfleet : Fleet r scope endpoint parties most clients d i) (turn : Turn n)
    (hdeclared : turn.call.payload.length < UInt32.size) :
    ∃ answer c' d' i', takeTurns parties clients d [turn]
        = ([answer], Function.update clients turn.caller c', d')
      ∧ Fleet r scope endpoint parties most (Function.update clients turn.caller c') d' i'
      ∧ Meets most r.maxObjectSize turn.call.payload.length (clients turn.caller).isDead answer
        c'.isDead := by
  obtain ⟨answer, c', d', i', hmake, hfleet', hmeets⟩ :=
    (hfleet.later (d.now + turn.pause)).step turn.caller turn.call hdeclared
  refine ⟨answer, c', d', i', ?_, hfleet', hmeets⟩
  rw [takeTurns, hfleet.orderly.sleep]
  dsimp only
  rw [hmake]
  rfl

/-- **Any number of calls is answered one by one**, and leaves those alone that make none. -/
theorem Fleet.run (hfleet : Fleet r scope endpoint parties most clients d i)
    (turns : List (Turn n))
    (hdeclared : ∀ turn ∈ turns, turn.call.payload.length < UInt32.size) :
    ∃ answers clients' d' i', takeTurns parties clients d turns = (answers, clients', d')
      ∧ answers.length = turns.length ∧ Fleet r scope endpoint parties most clients' d' i'
      ∧ ∀ a, (∀ turn ∈ turns, turn.caller ≠ a) → clients' a = clients a := by
  induction turns generalizing clients d i with
  | nil => exact ⟨[], clients, d, i, rfl, rfl, hfleet, fun _ _ => rfl⟩
  | cons turn rest ih =>
    obtain ⟨answer, c₁, d₁, i₁, hturn, hfleet₁, -⟩ :=
      hfleet.turn turn (hdeclared turn List.mem_cons_self)
    obtain ⟨answers, clients', d', i', hrest, hlength, hfleet', hothers⟩ :=
      ih hfleet₁ fun other hother => hdeclared other (List.mem_cons_of_mem _ hother)
    refine ⟨answer :: answers, clients', d', i', ?_, congrArg (· + 1) hlength, hfleet',
      fun a ha => ?_⟩
    · rw [← List.singleton_append, takeTurns_append, hturn]
      dsimp only
      rw [hrest]
      rfl
    · rw [hothers a fun other hother => ha other (List.mem_cons_of_mem _ hother),
        Function.update_of_ne (ha turn List.mem_cons_self).symm]

/-- Two calls of a client, between which it makes none. -/
theorem Fleet.pair (hfleet : Fleet r scope endpoint parties most clients d i)
    {turn next : Turn n} {between : List (Turn n)}
    (hdeclared : ∀ other ∈ turn :: (between ++ [next]),
      other.call.payload.length < UInt32.size)
    (hcaller : next.caller = turn.caller)
    (hothers : ∀ other ∈ between, other.caller ≠ turn.caller) :
    ∃ answer meanwhile answer' dead dead' dead'',
      (takeTurns parties clients d (turn :: (between ++ [next]))).1
          = answer :: (meanwhile ++ [answer'])
        ∧ meanwhile.length = between.length
        ∧ Meets most r.maxObjectSize turn.call.payload.length dead answer dead'
        ∧ Meets most r.maxObjectSize next.call.payload.length dead' answer' dead'' := by
  obtain ⟨answer, c₁, d₁, i₁, hturn, hfleet₁, hmeets⟩ :=
    hfleet.turn turn (hdeclared turn List.mem_cons_self)
  obtain ⟨meanwhile, clients₂, d₂, i₂, hbetween, hlength, hfleet₂, hsame⟩ :=
    hfleet₁.run between fun other hother =>
      hdeclared other (List.mem_cons_of_mem _ (List.mem_append_left _ hother))
  obtain ⟨answer', c₃, d₃, i₃, hnext, -, hmeets'⟩ := hfleet₂.turn next
    (hdeclared next (List.mem_cons_of_mem _ (List.mem_append_right _ (List.mem_singleton.2 rfl))))
  rw [hcaller, hsame turn.caller hothers, Function.update_self] at hmeets'
  refine ⟨answer, meanwhile, answer', _, _, _, ?_, hlength, hmeets, hmeets'⟩
  rw [← List.singleton_append, takeTurns_append, hturn]
  dsimp only
  rw [takeTurns_append, hbetween]
  dsimp only
  rw [hnext]
  rfl

/-! ## From the start -/

/-- A daemon that was just started, and clients that have not called it yet. -/
theorem fleet_start {opened : Tree} {plan : DaemonPlan} (ht : t.WellFormed)
    (hopen : Registry.open t plan.root plan.maxObjectSize = (.ok r, opened))
    (hstart : (Deployment.ofTree t).start plan = (.ok (), d)) (hidle : plan.idle = none)
    (hendpoint : Endpoint.parse plan.endpoint = .ok endpoint)
    (hapart : Apart r d.host.tree endpoint)
    (hwithin : r.Within d.host.tree (common most plan.maxObjectSize))
    (hcompany : Company parties endpoint most) (hfew : n ≤ max 1 plan.maxConnections) :
    r.maxObjectSize = plan.maxObjectSize ∧ ∃ i,
      Fleet r plan.scope endpoint parties most (fun a => .fresh (parties a).settings) d i := by
  obtain ⟨i, hhosted, hclients, hactive, hpermits, hmax⟩ :=
    hosted_start ht hopen hstart hidle hendpoint hapart
  refine ⟨hmax, i, ?_⟩
  exact {
    toHosted := hhosted
    company := hcompany
    settings := fun _ => rfl
    standing := fun a => .inl (rested_fresh (parties a).settings (by simp [hclients]))
    permits := hpermits ▸ hfew
    count := by
      rw [hactive]
      exact (Finset.sum_eq_zero fun a _ => live_of_none rfl).symm
    within := hmax ▸ hwithin }

/-- **What an answer leaves of a connection.**  A client calls a daemon that runs on, and is
answered; others may call in between.  Unless that answer refused a payload for its size, the next
call of the client is answered by the daemon as well, or refused by the client itself; the one
exception is a payload above the limit of the daemon that there is no room for at once.  After an
answer that refused a payload for its size, which was above the limit of the daemon then, the next
call is lost if the client sends it. -/
theorem usable_after_answer {opened : Tree} {plan : DaemonPlan} (ht : t.WellFormed)
    (hopen : Registry.open t plan.root plan.maxObjectSize = (.ok r, opened))
    (hstart : (Deployment.ofTree t).start plan = (.ok (), d)) (hidle : plan.idle = none)
    (hendpoint : Endpoint.parse plan.endpoint = .ok endpoint)
    (hapart : Apart r d.host.tree endpoint)
    (hwithin : r.Within d.host.tree (common most plan.maxObjectSize))
    (hcompany : Company parties endpoint most) (hfew : n ≤ max 1 plan.maxConnections)
    (before between : List (Turn n)) (turn next : Turn n)
    (hdeclared : ∀ other ∈ before ++ turn :: (between ++ [next]),
      other.call.payload.length < UInt32.size)
    (hcaller : next.caller = turn.caller)
    (hothers : ∀ other ∈ between, other.caller ≠ turn.caller) :
    let size := next.call.payload.length
    ∃ earlier answer meanwhile answer',
      (takeTurns parties (fun a => .fresh (parties a).settings) d
          (before ++ turn :: (between ++ [next]))).1
          = earlier ++ answer :: (meanwhile ++ [answer'])
        ∧ earlier.length = before.length ∧ meanwhile.length = between.length
        ∧ (answer.isAnswer = true → answer.error? ≠ some (.rejected .payloadTooLarge) →
          answer'.isAnswer = true ∨ (most < size ∧ answer'.error? = some (.tooLarge size most))
            ∨ (plan.maxObjectSize < size ∧ ¬ Buffer.Takes (Header.size + size)
              ∧ answer'.error? = some (.transport (.io (.os .brokenPipe)))))
        ∧ (answer.error? = some (.rejected .payloadTooLarge) →
          plan.maxObjectSize < turn.call.payload.length
            ∧ answer'.error? = some (if most < size then .tooLarge size most
              else .transport (.io (.os .brokenPipe)))) := by
  intro size
  obtain ⟨hmax, i, hfleet⟩ :=
    fleet_start ht hopen hstart hidle hendpoint hapart hwithin hcompany hfew
  obtain ⟨earlier, clients', d', i', hbefore, hlength, hfleet', -⟩ :=
    hfleet.run before fun other hother => hdeclared other (List.mem_append_left _ hother)
  obtain ⟨answer, meanwhile, answer', dead, dead', dead'', hpair, hlength', hfirst, hsecond⟩ :=
    hfleet'.pair (fun other hother => hdeclared other (List.mem_append_right _ hother)) hcaller
      hothers
  rw [hmax] at hfirst hsecond
  refine ⟨earlier, answer, meanwhile, answer', ?_, hlength, hlength', fun hanswer hother => ?_,
    fun herror => ?_⟩
  · rw [takeTurns_append, hbefore]
    exact congrArg (earlier ++ ·) hpair
  · rcases hfirst.dead_of_isAnswer hanswer with ⟨herror, -⟩ | ⟨-, rfl⟩
    · exact absurd herror hother
    · exact hsecond.of_usable
  · rcases hfirst.dead_of_isAnswer (Answer.isAnswer_of_error? herror) with
      ⟨-, hlarge, rfl⟩ | ⟨hother, -⟩
    · exact ⟨hlarge, hsecond.of_dead⟩
    · exact absurd herror hother

end

/-- Two clients that take larger tokens than the daemon that they call. -/
def eagerParties : Fin 2 → Party
  | 0 => ⟨"first", 1000, { endpoint := "#x", maxPayload := 8 }⟩
  | 1 => ⟨"second", 1001, { endpoint := "#x", maxPayload := 8 }⟩

/-- A client that was answered is answered again, and the refusal of the other one in between is
none of its business. -/
theorem usable_after_answer_beside_refusal :
    let turns : List (Turn 2) :=
      [⟨1, 0, .read, 0⟩, ⟨0, 5, .store [1, 2, 3, 4], 0⟩, ⟨1, 2, .store [1, 2, 3, 4, 5], 0⟩,
        ⟨0, 0, .read, 0⟩]
    ∃ d found, (Deployment.ofTree .empty).start smallPlan = (.ok (), d)
      ∧ (takeTurns eagerParties (fun a => .fresh (eagerParties a).settings) d turns).1
        = [.token (.failed .notFound), .outcome (.ok ()),
            .outcome (.failed (.rejected .payloadTooLarge)), found]
      ∧ found.isAnswer = true := by
  intro turns
  have hcompany : Company eagerParties (.name "x") 8 := ⟨by decide, by decide, by decide⟩
  obtain ⟨earlier, answer, meanwhile, answer', htaken, hearlier, hmeanwhile, husable, -⟩ :=
    usable_after_answer Tree.wellFormed_empty open_smallPlan start_smallPlan rfl rfl trivial
      (within_smallStart _) hcompany (by decide) [⟨1, 0, .read, 0⟩]
      [⟨1, 2, .store [1, 2, 3, 4, 5], 0⟩] ⟨0, 5, .store [1, 2, 3, 4], 0⟩ ⟨0, 0, .read, 0⟩
      (by decide) rfl (by decide)
  obtain ⟨first, rfl⟩ := List.length_eq_one_iff.1 hearlier
  obtain ⟨third, rfl⟩ := List.length_eq_one_iff.1 hmeanwhile
  have hall : (takeTurns eagerParties (fun a => .fresh (eagerParties a).settings) smallStart
      turns).1 = [first, answer, third, answer'] := htaken
  have hbegun : (takeTurns eagerParties (fun a => .fresh (eagerParties a).settings) smallStart
      turns).1.take 3 = [.token (.failed .notFound), .outcome (.ok ()),
        .outcome (.failed (.rejected .payloadTooLarge))] := by decide +kernel
  rw [hall] at hbegun
  obtain ⟨rfl, rfl, rfl⟩ : first = _ ∧ answer = _ ∧ third = _ := by simpa using hbegun
  refine ⟨smallStart, answer', start_smallPlan, hall, ?_⟩
  rcases husable rfl (by decide) with hanswer | ⟨hlarge, -⟩ | ⟨hlarge, -⟩
  · exact hanswer
  · exact absurd hlarge (by decide)
  · exact absurd hlarge (by decide)

/-- **A refusal costs the next call.**  The daemon answers that a token is too large, and the client
that was told so cannot read after that. -/
theorem lost_after_refusal :
    ∃ d, (Deployment.ofTree .empty).start smallPlan = (.ok (), d)
      ∧ (∀ limit, Registry.Within ⟨"r", ["r"], 4⟩ d.host.tree limit)
      ∧ ∃ refusal failure,
        (takeTurns eagerParties (fun a => .fresh (eagerParties a).settings) d
          [⟨0, 0, .store [0x00, 0x11, 0x22, 0x33, 0x44], 0⟩, ⟨0, 0, .read, 0⟩]).1
            = [refusal, failure]
          ∧ refusal.isAnswer = true ∧ failure.isAnswer = false
          ∧ failure.error? = some (.transport (.io (.os .brokenPipe))) :=
  ⟨smallStart, start_smallPlan, within_smallStart,
    .outcome (.failed (.rejected .payloadTooLarge)),
    .token (.failed (.transport (.io (.os .brokenPipe)))), by decide +kernel, rfl, rfl, rfl⟩

end Client
end TokenBroker
