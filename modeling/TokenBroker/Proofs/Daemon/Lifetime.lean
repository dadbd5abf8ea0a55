import TokenBroker.Proofs.Daemon.Roll
/-!
# The lifetime of a connection

A connection is turned away, or it begins once and ends at most once, and whatever else happens on
it happens in between.

* `Stretch` is some of what happens while a connection is served; `stretch_run` says that this is
  all that running a handler does.
* `Life` is all that happens on a connection, and `Course.lifetime` says so of every connection.
* `Life.balance` says when a connection is being served.
-/

set_option autoImplicit false

namespace TokenBroker
namespace Handler

/-- An event neither begins a connection nor ends it. -/
def Event.isInner : Event → Bool
  | .started | .ended _ | .rejected _ => false
  | _ => true

/-- Some of what happens while a connection is served; `ends` says that it ends with that. -/
inductive Stretch : List Event → Bool → Prop
  | nothing : Stretch [] false
  | ended (reset : Bool) : Stretch [.ended reset] true
  | cons {event : Event} {events : List Event} {ends : Bool} (hinner : event.isInner = true)
      (hrest : Stretch events ends) : Stretch (event :: events) ends

variable {σ : Type} {service : Service σ} {now : Nat} {w : σ} {h : Handler}
  {a b events past : List Event} {ends : Bool}

theorem Stretch.append (ha : Stretch a false) (hb : Stretch b ends) : Stretch (a ++ b) ends := by
  generalize hgoing : false = going at ha
  induction ha with
  | nothing => exact hb
  | ended => cases hgoing
  | cons hinner _ ih => exact .cons hinner (ih hgoing)

theorem Stretch.upTo (hstretch : Stretch events ends) (hpast : past <+: events) :
    ∃ ends, Stretch past ends := by
  induction hstretch generalizing past with
  | nothing => exact ⟨false, List.prefix_nil.1 hpast ▸ .nothing⟩
  | ended reset =>
    rcases List.prefix_cons_iff.1 hpast with rfl | ⟨rest, rfl, hrest⟩
    · exact ⟨false, .nothing⟩
    · exact ⟨true, List.prefix_nil.1 hrest ▸ .ended reset⟩
  | cons hinner _ ih =>
    rcases List.prefix_cons_iff.1 hpast with rfl | ⟨rest, rfl, hrest⟩
    · exact ⟨false, .nothing⟩
    · obtain ⟨ends, hstretch⟩ := ih hrest
      exact ⟨ends, .cons hinner hstretch⟩

/-- A stretch begins no connection, and ends one if it is said to. -/
theorem Stretch.counts (hstretch : Stretch events ends) :
    events.countP Event.isStart = 0 ∧ events.countP Event.isEnd = ends.toNat := by
  induction hstretch with
  | nothing => exact ⟨rfl, rfl⟩
  | ended => exact ⟨rfl, rfl⟩
  | @cons event events ends hinner _ ih =>
    cases event <;> simp_all [Event.isInner, Event.isStart, Event.isEnd]

/-! ## What running a handler does -/

theorem stretch_finish (h : Handler) : Stretch h.finish.1 h.finish.2.isEnded := .ended _

theorem stretch_noteId (observer : Sequence.Observer) (id : UInt32) :
    Stretch (noteId observer id).1 false := by
  rw [noteId]
  split
  · exact .cons rfl .nothing
  · exact .nothing

/-- Beginning to write a response does nothing yet, or ends the connection. -/
theorem stretch_respond (limit : Nat) (socket : Socket) (label : String) (received : Nat)
    (id : UInt32) (reply : Reply) (last : Bool) (h : Handler) :
    let answer := respond limit socket label received id reply last
    Stretch answer.1 { h with phase := answer.2 }.isEnded := by
  simp only [respond]
  split
  · exact .ended _
  · exact .nothing

theorem stretch_act (service : Service σ) (now : Nat) (identity : IdentityKey)
    (observer : Sequence.Observer) (socket : Socket) (wanted : Wanted) (part : Bytes) (w : σ)
    (h : Handler) :
    let turn := act service now identity observer socket wanted part w
    Stretch turn.events { h with phase := turn.phase }.isEnded := by
  cases wanted with
  | header =>
    simp only [act]
    split
    · exact .ended _
    · next header _ =>
      refine (stretch_noteId observer header.id).append ?_
      simp only [judge]
      split
      · exact .nothing
      · exact stretch_respond _ _ _ _ _ _ _ h
      · exact .nothing
  | payload header command => exact .cons rfl (stretch_respond _ _ _ _ _ _ _ h)
  | refused header reason => exact stretch_respond _ _ _ _ _ _ _ h

theorem stretch_writeOn (now : Nat) (h : Handler) (response : Response) (rest : Bytes)
    (last : Bool) (hgoing : h.isEnded = false) :
    Stretch (h.writeOn now response rest last).1
      (h.writeOn now response rest last).2.isEnded := by
  rw [writeOn]
  split
  · exact stretch_finish h
  · split
    · exact hgoing ▸ .nothing
    · have hsent : ∀ n, Stretch (if n = 0 then [] else [.sent (rest.take n)]) false := by
        intro n
        split
        · exact .nothing
        · exact .cons rfl .nothing
      dsimp only
      split
      · exact hsent _
      · refine (hsent _).append ?_
        cases last with
        | false => exact .cons rfl .nothing
        | true => exact .cons rfl (.ended _)

/-- What comes first either ends the connection, or the rest goes on from there. -/
theorem Stretch.run {next : Handler} {first : List Event} {stopping : Bool}
    (hfirst : Stretch first next.isEnded)
    (hrest : next.isEnded = false → Stretch (run service now stopping next w).1
      (run service now stopping next w).2.1.isEnded) :
    Stretch (first ++ (run service now stopping next w).1)
      (run service now stopping next w).2.1.isEnded := by
  cases hended : next.isEnded with
  | false => exact (hended ▸ hfirst).append (hrest hended)
  | true =>
    rw [run_ended (phase_of_isEnded hended), List.append_nil]
    exact hfirst

theorem stretch_run (service : Service σ) (now : Nat) (stopping : Bool) (h : Handler) (w : σ)
    (hgoing : h.isEnded = false) :
    Stretch (run service now stopping h w).1 (run service now stopping h w).2.1.isEnded := by
  fun_induction run service now stopping h w with
  | case1 h w hphase => simp [isEnded, hphase] at hgoing
  | case2 h w response rest last hphase wrote hdone more ih =>
    exact (stretch_writeOn now h response rest last hgoing).run ih
  | case3 h w response rest last hphase wrote hwrites =>
    exact stretch_writeOn now h response rest last hgoing
  | case4 h w => exact stretch_finish h
  | case5 h w => exact hgoing ▸ .nothing
  | case6 => exact stretch_finish _
  | case7 h w wanted hphase hgo part socket hread turn next rest ih =>
    exact (stretch_act service now h.identity h.observer socket wanted part w next).run ih

/-! ## All that happens on a connection -/

/-- All that happens on a connection. -/
inductive Life : List Event → Prop
  | nothing : Life []
  | rejected (reset : Bool) : Life [.rejected reset]
  | served {events : List Event} {ends : Bool} (hstretch : Stretch events ends) :
      Life (.started :: events)

theorem Life.upTo (hlife : Life events) (hpast : past <+: events) : Life past := by
  cases hlife with
  | nothing => exact List.prefix_nil.1 hpast ▸ .nothing
  | rejected reset =>
    rcases List.prefix_cons_iff.1 hpast with rfl | ⟨rest, rfl, hrest⟩
    · exact .nothing
    · exact List.prefix_nil.1 hrest ▸ .rejected reset
  | served hstretch =>
    rcases List.prefix_cons_iff.1 hpast with rfl | ⟨rest, rfl, hrest⟩
    · exact .nothing
    · exact (hstretch.upTo hrest).elim fun _ => .served

/-- What happened says that the caller is known, and that the connection has not ended. -/
def isServed (events : List Event) : Bool := events.any Event.isStart && !events.any Event.isEnd

theorem Stretch.isServed (hstretch : Stretch events ends) :
    Handler.isServed (.started :: events) = !ends := by
  obtain ⟨-, hend⟩ := hstretch.counts
  have hover : events.any Event.isEnd = ends := by
    cases ends with
    | false => simpa [List.countP_eq_zero] using hend
    | true =>
      have hsome : 0 < events.countP Event.isEnd := hend ▸ Nat.one_pos
      simpa [List.countP_pos_iff] using hsome
  simp [Handler.isServed, Event.isStart, Event.isEnd, hover]

/-- A connection that is being served has begun once more than it has ended, any other as often. -/
theorem Life.balance (hlife : Life events) :
    events.countP Event.isStart = events.countP Event.isEnd + (isServed events).toNat := by
  cases hlife with
  | nothing => rfl
  | rejected => rfl
  | @served rest ends hstretch =>
    obtain ⟨hstart, hend⟩ := hstretch.counts
    rw [hstretch.isServed, List.countP_cons, List.countP_cons, hstart, hend]
    cases ends <;> rfl

end Handler

namespace Server

open Handler

variable {σ : Type} {service : Service σ} {client maxConnections : Nat} {w : σ}
  {inputs : List (Nat × Input)} {events past : List Event} {ends : Bool}

/-- A connection has begun, and has ended if `ends` says so. -/
def Lived (events : List Event) (ends : Bool) : Prop :=
  ∃ inner, events = .started :: inner ∧ Stretch inner ends

theorem Lived.append {more : List Event} (hlived : Lived events false)
    (hmore : Stretch more ends) : Lived (events ++ more) ends := by
  obtain ⟨inner, rfl, hinner⟩ := hlived
  exact ⟨inner ++ more, rfl, hinner.append hmore⟩

theorem Lived.life (hlived : Lived events ends) : Life events ∧ isServed events = !ends := by
  obtain ⟨inner, rfl, hinner⟩ := hlived
  exact ⟨.served hinner, hinner.isServed⟩

/-- Of every connection it can be said that what happens on it is its life. -/
def Course.lifetime (service : Service σ) : Course service (fun _ => True) (fun _ => True) where
  waiting := fun _ _ => True
  busy := fun _ events h => h.isEnded = false ∧ Lived events false
  resting := fun _ events h => h.isEnded = false ∧ Lived events false
  closed := fun _ events => Life events ∧ isServed events = false
  queue := fun _ _ => trivial
  refuse := fun _ hstart => events_of_start_none hstart ▸ ⟨.rejected _, rfl⟩
  begin := fun _ _ hstart => by
    obtain ⟨rfl, -, -, hphase, -⟩ := of_start_some hstart
    exact ⟨by rw [isEnded, hphase], [], rfl, .nothing⟩
  turnAway := fun _ => ⟨.rejected _, rfl⟩
  wake := fun hresting => hresting
  hear := fun hresting _ => hresting
  makeRoom := fun _ hresting => hresting
  run := fun {past events h w} now hbusy _ => by
    have hlived := hbusy.2.append (stretch_run service now past.told.isSome h w hbusy.1)
    dsimp only
    split
    · next hended => exact (hended ▸ hlived).life
    · next hgoing =>
      rw [Bool.not_eq_true] at hgoing
      exact ⟨hgoing, hgoing ▸ hlived⟩
  expire := fun now hresting _ => (hresting.2.append (stretch_finish _)).life
  tell := fun hresting => hresting
  conclude := fun hclosed => hclosed

/-- What happens on a connection is its life, and those connections are served that a handler
serves. -/
theorem life_of_run (hdistinct : (connecting inputs).Nodup) (hmem : client ∈ connecting inputs)
    (service : Service σ) (maxConnections : Nat) (w : σ) :
    let result := (ofLimit maxConnections).run service w inputs
    Life (eventsOf client result.1)
      ∧ (handlersOf client result.2.1.active).length
        = (isServed (eventsOf client result.1)).toNat := by
  have hat := (Course.lifetime service).at_of_ofLimit (fun _ _ => trivial) ⟨.nothing, rfl⟩
    (fun _ _ _ _ _ _ => trivial) trivial (fun input _ => by cases input.2 <;> trivial)
    hdistinct hmem maxConnections (w := w)
  dsimp only at hat ⊢
  cases hat.stands with
  | waits _ habsent _ hnone _ =>
    rw [habsent, hnone]
    exact ⟨.nothing, rfl⟩
  | serves hserved _ hresting =>
    obtain ⟨hlife, hserves⟩ := hresting.2.life
    rw [hserved, hserves]
    exact ⟨hlife, rfl⟩
  | closed habsent _ hclosed =>
    rw [habsent, hclosed.2]
    exact ⟨hclosed.1, rfl⟩

end Server
end TokenBroker
