import TokenBroker.Proofs.Daemon.Connections
import TokenBroker.Proofs.Registry.Isolation
import TokenBroker.Proofs.Registry.Opening
/-!
# Callers do not see each other

A daemon that keeps an entry for each caller serves many connections of many callers.  What happens
on the connections of one caller, and what is stored for it, is as if no other caller had sent
anything.

* `Handler.run_congr` compares two runs of one handler, at different times and on states that its
  commands cannot tell apart.
* `Agree` compares the connections of two servers, where those of other callers may differ.
* `Abreast` is what two runs keep, and `isolated` says what becomes of it.
* `run_connects` is how the connections come about, and `isolated_since_connecting` takes the runs
  from there.
-/

set_option autoImplicit false

namespace TokenBroker

/-! ## Two runs of a handler -/

namespace Handler

variable {σ : Type} {service : Service σ} {now later : Nat} {h : Handler} {w w' : σ}

/-- A relation of states that no command of a key can tell apart at two times, and that every such
command keeps. -/
def Blind (service : Service σ) (key : IdentityKey) (now later : Nat) (R : σ → σ → Prop) : Prop :=
  ∀ command payload w w', R w w' →
    (service.dispatch now key command payload w).1
        = (service.dispatch later key command payload w').1
      ∧ R (service.dispatch now key command payload w).2
          (service.dispatch later key command payload w').2

theorem act_congr {R : σ → σ → Prop} (hblind : Blind service h.identity now later R) (hR : R w w')
    (socket : Socket) (wanted : Wanted) (part : Bytes) :
    let turn := act service now h.identity h.observer socket wanted part w
    let turn' := act service later h.identity h.observer socket wanted part w'
    turn.events = turn'.events ∧ turn.phase = turn'.phase ∧ turn.observer = turn'.observer
      ∧ R turn.state turn'.state := by
  cases wanted with
  | header =>
    simp only [act]
    split <;> exact ⟨rfl, rfl, rfl, hR⟩
  | refused header reason => exact ⟨rfl, rfl, rfl, hR⟩
  | payload header command =>
    obtain ⟨hreply, hR'⟩ := hblind command part w w' hR
    simp only [act, hreply]
    exact ⟨trivial, trivial, trivial, hR'⟩

/-- A handler that has waited since another time. -/
def waitingSince (h : Handler) (since : Nat) : Handler := { h with since := since }

@[simp] theorem waitingSince_phase (h : Handler) (since : Nat) :
    (h.waitingSince since).phase = h.phase := rfl

@[simp] theorem waitingSince_isEnded (h : Handler) (since : Nat) :
    (h.waitingSince since).isEnded = h.isEnded := rfl

/-- Writing does not depend on the time. -/
theorem writeOn_waitingSince (now later since : Nat) (h : Handler) (response : Response)
    (rest : Bytes) (last : Bool) :
    ∃ since', writeOn later (h.waitingSince since) response rest last
      = ((h.writeOn now response rest last).1,
          (h.writeOn now response rest last).2.waitingSince since') := by
  by_cases hgone : h.socket.gone = true
  · have hgone' : (h.waitingSince since).socket.gone = true := hgone
    rw [writeOn, writeOn, if_pos hgone, if_pos hgone']
    exact ⟨since, rfl⟩
  have hgone' : ¬ (h.waitingSince since).socket.gone = true := hgone
  by_cases hrefuses : h.outlet.refuses = true
  · have hrefuses' : (h.waitingSince since).outlet.refuses = true := hrefuses
    rw [writeOn, writeOn, if_neg hgone, if_neg hgone', if_pos hrefuses, if_pos hrefuses']
    exact ⟨since, rfl⟩
  have hrefuses' : ¬ (h.waitingSince since).outlet.refuses = true := hrefuses
  rw [writeOn, writeOn, if_neg hgone, if_neg hgone', if_neg hrefuses, if_neg hrefuses']
  have houtlet : (h.waitingSince since).outlet = h.outlet := rfl
  rw [houtlet]
  dsimp only
  by_cases hless : (h.outlet.offer rest.length).1 < rest.length
  · rw [if_pos hless, if_pos hless]
    exact ⟨since, rfl⟩
  · rw [if_neg hless, if_neg hless]
    cases last with
    | true => exact ⟨since, rfl⟩
    | false => exact ⟨later, rfl⟩

theorem writeOn_identity (now : Nat) (h : Handler) (response : Response) (rest : Bytes)
    (last : Bool) : (h.writeOn now response rest last).2.identity = h.identity := by
  simp only [writeOn]
  split
  · rfl
  · split
    · rfl
    · split
      · rfl
      · cases last <;> rfl

/-- What two runs of a handler have in common. -/
structure Alike (key : IdentityKey) (R : σ → σ → Prop) (one other : List Event × Handler × σ) :
    Prop where
  events : one.1 = other.1
  handler : ∃ since, other.2.1 = one.2.1.waitingSince since
  identity : one.2.1.identity = key
  state : R one.2.2 other.2.2

theorem Alike.prepend {key : IdentityKey} {R : σ → σ → Prop} {one other : List Event × Handler × σ}
    (halike : Alike key R one other) (events : List Event) :
    Alike key R (events ++ one.1, one.2) (events ++ other.1, other.2) :=
  ⟨congrArg (events ++ ·) halike.events, halike.handler, halike.identity, halike.state⟩

/-- **Two runs of one handler, at any times and on states that its commands cannot tell apart, do
the same.** -/
theorem run_congr {key : IdentityKey} {R : σ → σ → Prop} (hblind : Blind service key now later R)
    (hkey : h.identity = key) (hR : R w w') (since : Nat) :
    Alike key R (run service now false h w)
      (run service later false (h.waitingSince since) w') := by
  induction hmeasure : h.measure using Nat.strongRecOn generalizing h w w' since with
  | _ n ih =>
  subst hmeasure
  cases hphase : h.phase with
  | ended =>
    have hphase' : (h.waitingSince since).phase = .ended := hphase
    rw [run_ended hphase, run_ended hphase']
    exact ⟨rfl, ⟨since, rfl⟩, hkey, hR⟩
  | writing response rest last =>
    have hphase' : (h.waitingSince since).phase = .writing response rest last := hphase
    obtain ⟨since', hwrote⟩ := writeOn_waitingSince now later since h response rest last
    have hkey' := (writeOn_identity now h response rest last).trans hkey
    rw [run_writing hphase, run_writing hphase', hwrote]
    by_cases hdone : (h.writeOn now response rest last).2.phase.weight = 0
    · have hless : (h.writeOn now response rest last).2.measure < h.measure := by
        rw [measure_writeOn, hdone, measure, hphase, Phase.weight]
        omega
      simp only [waitingSince_phase, hdone, if_true]
      exact (ih _ hless hkey' hR since' rfl).prepend _
    · simp only [waitingSince_phase, hdone, if_false]
      exact ⟨rfl, ⟨since', rfl⟩, hkey', hR⟩
  | reading wanted =>
    have hphase' : (h.waitingSince since).phase = .reading wanted := hphase
    by_cases henough : wanted.need ≤ h.soFar.length + h.socket.unread.length
    · obtain ⟨hevents, hgo, hobserver, hR'⟩ :=
        act_congr (hkey ▸ hblind) hR (h.remaining wanted.need) wanted (h.part wanted.need)
      have hmore := ih _ (measure_goOn_act_lt service now hphase henough w) (h := h.goOn _ _ _ _)
        hkey hR' later rfl
      have hmore' := hmore.prepend (act service now h.identity h.observer (h.remaining wanted.need)
        wanted (h.part wanted.need) w).events
      rw [run_complete hphase rfl henough, run_complete hphase' rfl henough]
      rw [hevents, hgo, hobserver] at hmore'
      dsimp only
      rw [hevents, hgo, hobserver]
      exact hmore'
    · have hshort : h.soFar.length + h.socket.unread.length < wanted.need := Nat.not_le.1 henough
      rw [run_reading hphase rfl, run_reading hphase' rfl]
      by_cases halive : h.socket.ended = false ∧ h.socket.reset = false
      · have hfill := Socket.fill_of_lt halive.1 halive.2 hshort
        have hfill' : (h.waitingSince since).socket.fill wanted.need (h.waitingSince since).soFar
          = _ := hfill
        rw [hfill, hfill']
        exact ⟨rfl, ⟨since, rfl⟩, hkey, hR⟩
      · obtain ⟨error, socket, hfill⟩ := Socket.fill_of_over halive hshort
        have hfill' : (h.waitingSince since).socket.fill wanted.need (h.waitingSince since).soFar
          = _ := hfill
        rw [hfill, hfill']
        exact ⟨rfl, ⟨since, rfl⟩, hkey, hR⟩

/-- Whatever the commands of a key keep, a handler of that key keeps. -/
theorem run_keeps {key : IdentityKey} {P : σ → Prop}
    (hkeeps : ∀ command payload w, P w → P (service.dispatch now key command payload w).2)
    (hkey : h.identity = key) (hw : P w) :
    P (run service now false h w).2.2 ∧ (run service now false h w).2.1.identity = key := by
  have hblind : Blind service key now now fun w w' => w = w' ∧ P w := by
    rintro command payload w _ ⟨rfl, hw⟩
    exact ⟨rfl, rfl, hkeeps command payload w hw⟩
  have halike := run_congr hblind hkey (⟨rfl, hw⟩ : w = w ∧ P w) h.since
  exact ⟨halike.state.2, halike.identity⟩

end Handler

/-! ## Trees that serve a key alike -/

/-- Two trees that serve the commands of a key alike. -/
structure Registry.Matches (r : Registry) (key : IdentityKey) (t t' : Tree) : Prop where
  ready : r.Ready t
  ready' : r.Ready t'
  below : Tree.SameBelow (r.entryDirectory key) t t'

namespace Registry

variable {r : Registry} {key other : IdentityKey}

theorem blind_matches (r : Registry) (limit : Nat) (idle : Option Nat) (scope : IdentityScope)
    (key : IdentityKey) (now later : Nat) :
    Handler.Blind (r.service limit idle scope) key now later (r.Matches key) := by
  intro command payload t t' hmatch
  obtain ⟨hready, hready', hbelow⟩ := hmatch
  obtain ⟨hreply, hbelow'⟩ :=
    dispatch_congr hready hready' List.prefix_rfl hbelow now later command payload
  exact ⟨hreply, dispatch_ready hready now key command payload,
    dispatch_ready hready' later key command payload, hbelow'⟩

theorem Matches.symm {t t' : Tree} (hmatch : r.Matches key t t') : r.Matches key t' t :=
  ⟨hmatch.ready', hmatch.ready, hmatch.below.symm⟩

theorem matches_dispatch {t t' : Tree} (hne : key ≠ other) (hmatch : r.Matches key t t') (now : Nat)
    (command : Command) (payload : Bytes) :
    r.Matches key (r.dispatch now other command payload t).2 t' where
  ready := dispatch_ready hmatch.ready now other command payload
  ready' := hmatch.ready'
  below := (dispatch_frame hmatch.ready hne now command payload).trans hmatch.below

end Registry

/-! ## Two servers side by side -/

namespace Server

open Handler

variable {uid : Nat → UInt32} {u : UInt32} {r : Registry} {limit : Nat} {idle : Option Nat}
  {now later client : Nat} {a b : List (Nat × Handler)} {t t' : Tree}

/-- Two lists of connections that agree on those of one caller, but for the times since when they
wait.  Each connection has the key of its caller. -/
inductive Agree (uid : Nat → UInt32) (u : UInt32) :
    List (Nat × Handler) → List (Nat × Handler) → Prop
  | nil : Agree uid u [] []
  | left {client : Nat} {h : Handler} {a b : List (Nat × Handler)} (hother : uid client ≠ u)
      (hkey : h.identity = .forUid (uid client)) (hrest : Agree uid u a b) :
      Agree uid u ((client, h) :: a) b
  | right {client : Nat} {h : Handler} {a b : List (Nat × Handler)} (hother : uid client ≠ u)
      (hkey : h.identity = .forUid (uid client)) (hrest : Agree uid u a b) :
      Agree uid u a ((client, h) :: b)
  | both {client : Nat} {h : Handler} {since : Nat} {a b : List (Nat × Handler)}
      (hown : uid client = u) (hkey : h.identity = .forUid u) (hrest : Agree uid u a b) :
      Agree uid u ((client, h) :: a) ((client, h.waitingSince since) :: b)

/-- What happens on the connections of a caller. -/
def ownHappenings (uid : Nat → UInt32) (u : UInt32) (happenings : List Happening) :
    List Happening :=
  happenings.filter fun happening => uid happening.1 = u

@[simp] theorem ownHappenings_append (x y : List Happening) :
    ownHappenings uid u (x ++ y) = ownHappenings uid u x ++ ownHappenings uid u y :=
  List.filter_append x y

theorem ownHappenings_tagged (hother : uid client ≠ u) (events : List Event) :
    ownHappenings uid u (tagged client events) = [] := by
  rw [ownHappenings, List.filter_eq_nil_iff]
  intro happening hmem
  obtain ⟨event, -, rfl⟩ := List.mem_map.1 hmem
  simpa using hother

/-- What was run on one side only leaves the two sides in agreement. -/
theorem Agree.left_of (hother : uid client ≠ u) {h : Handler}
    (hkey : h.identity = .forUid (uid client)) (hrest : Agree uid u a b) :
    Agree uid u ((if h.isEnded then [] else [(client, h)]) ++ a) b := by
  split
  · exact hrest
  · exact .left hother hkey hrest

theorem Agree.right_of (hother : uid client ≠ u) {h : Handler}
    (hkey : h.identity = .forUid (uid client)) (hrest : Agree uid u a b) :
    Agree uid u a ((if h.isEnded then [] else [(client, h)]) ++ b) := by
  split
  · exact hrest
  · exact .right hother hkey hrest

/-- Another caller's key. -/
theorem forUid_ne (hother : uid client ≠ u) :
    IdentityKey.forUid u ≠ IdentityKey.forUid (uid client) :=
  fun heq => hother (IdentityKey.forUid_injective heq).symm

/-- A connection of another caller is run. -/
theorem matches_run (hother : uid client ≠ u) {h : Handler}
    (hkey : h.identity = .forUid (uid client)) (hmatch : r.Matches (.forUid u) t t') (limit : Nat)
    (idle : Option Nat) (now : Nat) :
    r.Matches (.forUid u) (h.run (r.service limit idle .caller) now false t).2.2 t'
      ∧ (h.run (r.service limit idle .caller) now false t).2.1.identity = .forUid (uid client) :=
  run_keeps (P := fun t => r.Matches (.forUid u) t t')
    (fun command payload _ hmatch =>
      Registry.matches_dispatch (forUid_ne hother) hmatch now command payload) hkey hmatch

/-- **Two servers that agree on the connections of a caller do the same on them.** -/
theorem runActive_agree (hagree : Agree uid u a b) (hmatch : r.Matches (.forUid u) t t')
    (limit : Nat) (idle : Option Nat) (now later : Nat) :
    let service := r.service limit idle .caller
    let p := runActive service now false a t
    let q := runActive service later false b t'
    ownHappenings uid u p.happenings = ownHappenings uid u q.happenings
      ∧ Agree uid u p.active q.active ∧ r.Matches (.forUid u) p.state q.state := by
  intro service
  induction hagree generalizing t t' with
  | nil => exact ⟨rfl, .nil, hmatch⟩
  | left hother hkey _ ih =>
    obtain ⟨hmatch', hkey'⟩ := matches_run hother hkey hmatch limit idle now
    obtain ⟨hown, hagree', hmatch''⟩ := ih hmatch'
    rw [runActive_cons]
    dsimp only
    rw [ownHappenings_append, ownHappenings_tagged hother, List.nil_append]
    exact ⟨hown, hagree'.left_of hother hkey', hmatch''⟩
  | right hother hkey _ ih =>
    obtain ⟨hmatch', hkey'⟩ := matches_run hother hkey hmatch.symm limit idle later
    obtain ⟨hown, hagree', hmatch''⟩ := ih hmatch'.symm
    rw [runActive_cons]
    dsimp only
    rw [ownHappenings_append, ownHappenings_tagged hother, List.nil_append]
    exact ⟨hown, hagree'.right_of hother hkey', hmatch''⟩
  | @both client h since a b hown hkey _ ih =>
    obtain ⟨hevents, ⟨since', hlike⟩, hkey', hmatch'⟩ :=
      run_congr (Registry.blind_matches r limit idle .caller _ now later) hkey hmatch since
    obtain ⟨hmore, hagree', hmatch''⟩ := ih hmatch'
    rw [runActive_cons, runActive_cons]
    dsimp only
    rw [ownHappenings_append, ownHappenings_append, hmore, hevents, hlike, waitingSince_isEnded]
    refine ⟨rfl, ?_, hmatch''⟩
    split
    · exact hagree'
    · exact .both hown hkey' hagree'

/-- A move of a client on both sides. -/
theorem Agree.touch (client : Nat) (move : Move) (hagree : Agree uid u a b) :
    Agree uid u (touch client move.apply a) (touch client move.apply b) := by
  have hident : ∀ (other : Nat) (h : Handler),
      (if other = client then move.apply h else h).identity = h.identity := by
    intro other h
    split
    · exact move.apply_identity h
    · rfl
  induction hagree with
  | nil => exact .nil
  | left hother hkey _ ih =>
    rw [touch_cons]
    exact .left hother ((hident _ _).trans hkey) ih
  | right hother hkey _ ih =>
    rw [touch_cons]
    exact .right hother ((hident _ _).trans hkey) ih
  | @both other h since a b hown hkey _ ih =>
    have hlike :
        (if other = client then move.apply (h.waitingSince since) else h.waitingSince since)
        = (if other = client then move.apply h else h).waitingSince since := by
      split
      · cases move <;> rfl
      · rfl
    rw [touch_cons, touch_cons, hlike]
    exact .both hown ((hident _ _).trans hkey) ih

/-- A move of a client of another caller, on one side only. -/
theorem Agree.touch_left (hother : uid client ≠ u) (move : Move) (hagree : Agree uid u a b) :
    Agree uid u (Server.touch client move.apply a) b := by
  induction hagree with
  | nil => exact .nil
  | left hother' hkey _ ih =>
    rw [touch_cons]
    refine .left hother' ?_ ih
    split
    · exact (move.apply_identity _).trans hkey
    · exact hkey
  | right hother' hkey _ ih => exact .right hother' hkey ih
  | @both other h since a b hown hkey _ ih =>
    have hne : other ≠ client := fun heq => hother (heq ▸ hown)
    rw [touch_cons, if_neg hne]
    exact .both hown hkey ih

/-! ## Side by side -/

/-- Two servers, each with its tree, that go on alike for a caller. -/
structure Abreast (r : Registry) (uid : Nat → UInt32) (u : UInt32) (s : Server) (t : Tree)
    (s' : Server) (t' : Tree) : Prop where
  settled : s.Settled
  settled' : s'.Settled
  agree : Agree uid u s.active s'.active
  trees : r.Matches (.forUid u) t t'

variable {s s' : Server}

/-- Both servers run what they can. -/
theorem resume_abreast (s s' : Server) (haccepted : s.waiting = []) (haccepted' : s'.waiting = [])
    (hrunning : s.stopping = false) (hrunning' : s'.stopping = false)
    (hagree : Agree uid u s.active s'.active) (hmatch : r.Matches (.forUid u) t t') (limit : Nat)
    (idle : Option Nat) (now later : Nat) :
    let step := s.resume (r.service limit idle .caller) now t
    let step' := s'.resume (r.service limit idle .caller) later t'
    ownHappenings uid u step.1 = ownHappenings uid u step'.1
      ∧ Abreast r uid u step.2.1 step.2.2 step'.2.1 step'.2.2 := by
  intro step step'
  have hsettled := settled_resume (r.service limit idle .caller) now haccepted hrunning t
  have hsettled' := settled_resume (r.service limit idle .caller) later haccepted' hrunning' t'
  obtain ⟨hown, hagree', hmatch'⟩ := runActive_agree hagree hmatch limit idle now later
  simp only [step, step']
  rw [resume_of_accepted haccepted hrunning] at hsettled ⊢
  rw [resume_of_accepted haccepted' hrunning'] at hsettled' ⊢
  exact ⟨hown, hsettled, hsettled', hagree', hmatch'⟩

/-- The caller makes a move in both runs. -/
theorem Abreast.both (habreast : Abreast r uid u s t s' t') (limit : Nat) (idle : Option Nat)
    (now later client : Nat) (move : Move) :
    let step := s.next (r.service limit idle .caller) now (move.input client) t
    let step' := s'.next (r.service limit idle .caller) later (move.input client) t'
    ownHappenings uid u step.1 = ownHappenings uid u step'.1
      ∧ Abreast r uid u step.2.1 step.2.2 step'.2.1 step'.2.2 := by
  intro step step'
  obtain ⟨hsettled, hsettled', hagree, hmatch⟩ := habreast
  simp only [step, step']
  rw [next_move hsettled, next_move hsettled']
  exact resume_abreast { s with active := touch client move.apply s.active }
    { s' with active := touch client move.apply s'.active } hsettled.accepted hsettled'.accepted
    hsettled.running hsettled'.running (hagree.touch client move) hmatch limit idle now later

/-- Another caller makes a move in the first run only. -/
theorem Abreast.left (habreast : Abreast r uid u s t s' t') (limit : Nat) (idle : Option Nat)
    (now : Nat) (hother : uid client ≠ u) (move : Move) :
    let step := s.next (r.service limit idle .caller) now (move.input client) t
    ownHappenings uid u step.1 = [] ∧ Abreast r uid u step.2.1 step.2.2 s' t' := by
  intro step
  obtain ⟨hsettled, hsettled', hagree, hmatch⟩ := habreast
  -- the other server is at rest, so nothing comes of running it once more
  have hstep := resume_abreast { s with active := touch client move.apply s.active } s'
    hsettled.accepted hsettled'.accepted hsettled.running hsettled'.running
    (hagree.touch_left hother move) hmatch limit idle now now
  rw [hsettled'.resume] at hstep
  simp only [step]
  rw [next_move hsettled]
  exact hstep

/-! ## Runs -/

/-- Moves of clients, each at its time, as inputs. -/
def inputs (moves : List (Nat × Nat × Move)) : List (Nat × Input) :=
  moves.map fun (now, client, move) => (now, move.input client)

/-- The moves of the clients of a caller. -/
def ownMoves (uid : Nat → UInt32) (u : UInt32) (moves : List (Nat × Nat × Move)) :
    List (Nat × Nat × Move) :=
  moves.filter fun (_, client, _) => uid client = u

/-- What one run and another have in common for a caller. -/
structure SameFor (r : Registry) (uid : Nat → UInt32) (u : UInt32)
    (one other : List Happening × Server × Tree) : Prop where
  happenings : ownHappenings uid u one.1 = ownHappenings uid u other.1
  below : Tree.SameBelow (r.entryDirectory (.forUid u)) one.2.2 other.2.2

theorem SameFor.symm {one other : List Happening × Server × Tree} (h : SameFor r uid u one other) :
    SameFor r uid u other one :=
  ⟨h.happenings.symm, h.below.symm⟩

theorem SameFor.trans {one other third : List Happening × Server × Tree}
    (h : SameFor r uid u one other) (h' : SameFor r uid u other third) :
    SameFor r uid u one third :=
  ⟨h.happenings.trans h'.happenings, h.below.trans h'.below⟩

/-- A run does for a caller what it does with the moves of that caller alone. -/
theorem Abreast.run_ownMoves (limit : Nat) (idle : Option Nat) (moves : List (Nat × Nat × Move))
    (habreast : Abreast r uid u s t s' t') :
    SameFor r uid u (Server.run (r.service limit idle .caller) s t (inputs moves))
      (Server.run (r.service limit idle .caller) s' t' (inputs (ownMoves uid u moves))) := by
  induction moves generalizing s t s' t' with
  | nil => exact ⟨rfl, habreast.trees.below⟩
  | cons first rest ih =>
    obtain ⟨now, client, move⟩ := first
    by_cases hown : uid client = u
    · obtain ⟨hhappen, hnext⟩ := habreast.both limit idle now now client move
      obtain ⟨hmore, hbelow⟩ := ih hnext
      have hkeep : ownMoves uid u ((now, client, move) :: rest)
          = (now, client, move) :: ownMoves uid u rest :=
        List.filter_cons_of_pos (by simpa using hown)
      rw [hkeep]
      refine ⟨?_, hbelow⟩
      simp only [inputs, List.map_cons, Server.run, ownHappenings_append] at hmore ⊢
      rw [hhappen, hmore]
    · obtain ⟨hhappen, hnext⟩ := habreast.left limit idle now hown move
      obtain ⟨hmore, hbelow⟩ := ih hnext
      have hdrop : ownMoves uid u ((now, client, move) :: rest) = ownMoves uid u rest :=
        List.filter_cons_of_neg (by simpa using hown)
      rw [hdrop]
      refine ⟨?_, hbelow⟩
      simp only [inputs, List.map_cons, Server.run, ownHappenings_append] at hmore ⊢
      rw [hhappen, hmore, List.nil_append]

/-- Runs on the same moves at different times do the same for a caller. -/
theorem Abreast.run_retimed (limit : Nat) (idle : Option Nat)
    {moves moves' : List (Nat × Nat × Move)} (hsame : moves.map (·.2) = moves'.map (·.2))
    (habreast : Abreast r uid u s t s' t') :
    SameFor r uid u (Server.run (r.service limit idle .caller) s t (inputs moves))
      (Server.run (r.service limit idle .caller) s' t' (inputs moves')) := by
  induction moves generalizing moves' s t s' t' with
  | nil =>
    obtain rfl := List.map_eq_nil_iff.1 hsame.symm
    exact ⟨rfl, habreast.trees.below⟩
  | cons first rest ih =>
    obtain ⟨now, client, move⟩ := first
    cases moves' with
    | nil => cases hsame
    | cons first' rest' =>
      obtain ⟨later, client', move'⟩ := first'
      obtain ⟨hfirst, hrest⟩ := List.cons.inj hsame
      obtain ⟨rfl, rfl⟩ := Prod.mk.inj hfirst
      obtain ⟨hhappen, hnext⟩ := habreast.both limit idle now later client move
      obtain ⟨hmore, hbelow⟩ := ih hrest hnext
      refine ⟨?_, hbelow⟩
      simp only [inputs, List.map_cons, Server.run, ownHappenings_append] at hmore ⊢
      rw [hhappen, hmore]

/-! ## Callers -/

/-- A client that is served. -/
structure Peer where
  client : Nat
  outlet : Outlet
  /-- When it connected. -/
  since : Nat

/-- A server that has begun to serve some clients of known callers. -/
def serving (permits : Nat) (uid : Nat → UInt32) (peers : List Peer) : Server :=
  ⟨permits, [], peers.map fun p => (p.client, newcomer .caller (uid p.client) p.outlet p.since),
    false⟩

theorem settled_serving (permits : Nat) (uid : Nat → UInt32) (peers : List Peer) :
    (serving permits uid peers).Settled where
  accepted := rfl
  running := rfl
  going := fun item hitem => by
    obtain ⟨p, -, rfl⟩ := List.mem_map.1 hitem
    rfl
  resting := fun item hitem => by
    obtain ⟨p, -, rfl⟩ := List.mem_map.1 hitem
    exact rests_newcomer _ _ _ _

/-- Such a server is what becomes of one that nobody has connected to, as long as there are
permits. -/
theorem run_connects {σ : Type} (service : Service σ) (hscope : service.scope = .caller)
    (uid : Nat → UInt32) {maxConnections : Nat} {peers : List Peer}
    (hpermits : peers.length ≤ max 1 maxConnections) (w : σ) :
    Server.run service (.ofLimit maxConnections) w
        (peers.map fun p => (p.since, .connect p.client (some (uid p.client)) p.outlet))
      = (peers.map fun p => (p.client, .started),
          serving (max 1 maxConnections) uid peers, w) := by
  have hall : ∀ before : List Peer, (before ++ peers).length ≤ max 1 maxConnections →
      Server.run service (serving (max 1 maxConnections) uid before) w
          (peers.map fun p => (p.since, .connect p.client (some (uid p.client)) p.outlet))
        = (peers.map fun p => (p.client, .started),
            serving (max 1 maxConnections) uid (before ++ peers), w) := by
    clear hpermits
    induction peers with
    | nil => intro before _; rw [List.append_nil]; rfl
    | cons first rest ih =>
      intro before hlen
      have hpermit : (serving (max 1 maxConnections) uid before).active.length
          < (serving (max 1 maxConnections) uid before).permits := by
        rw [List.length_append, List.length_cons] at hlen
        simp only [serving, List.length_map]
        omega
      have hnext : (serving (max 1 maxConnections) uid before).next service first.since
          (.connect first.client (some (uid first.client)) first.outlet) w
          = ([(first.client, .started)],
              serving (max 1 maxConnections) uid (before ++ [first]), w) := by
        rw [next_connect (settled_serving _ uid before) hpermit, hscope]
        simp only [serving, List.map_append, List.map_cons, List.map_nil]
      simp only [List.map_cons, Server.run, hnext]
      rw [ih (before ++ [first]) (by rwa [List.append_assoc]), List.append_assoc]
      rfl
  exact hall [] hpermits

/-- Whatever is served agrees with itself. -/
theorem agree_serving (uid : Nat → UInt32) (u : UInt32) (permits : Nat) (peers : List Peer) :
    Agree uid u (serving permits uid peers).active (serving permits uid peers).active := by
  induction peers with
  | nil => exact .nil
  | cons first rest ih =>
    by_cases hown : uid first.client = u
    · have hkey : IdentityKey.forUid (uid first.client) = .forUid u :=
        congrArg IdentityKey.forUid hown
      exact @Agree.both uid u first.client _ first.since _ _ hown hkey ih
    · exact .left hown rfl (.right hown rfl ih)

/-- Such a server, given the same moves of a caller, does the same for that caller. -/
theorem run_serving_alike (hready : r.Ready t) (limit : Nat) (idle : Option Nat) (permits : Nat)
    (uid : Nat → UInt32) (peers : List Peer) (u : UInt32) {moves moves' : List (Nat × Nat × Move)}
    (hown : (ownMoves uid u moves).map (·.2) = (ownMoves uid u moves').map (·.2)) :
    let run := fun moves =>
      Server.run (r.service limit idle .caller) (serving permits uid peers) t (inputs moves)
    SameFor r uid u (run moves) (run moves') := by
  have habreast : Abreast r uid u (serving permits uid peers) t (serving permits uid peers) t :=
    ⟨settled_serving permits uid peers, settled_serving permits uid peers,
      agree_serving uid u permits peers, hready, hready, .refl _ t⟩
  -- both runs are compared with those in which nobody else makes a move
  exact (habreast.run_ownMoves limit idle moves).trans ((habreast.run_retimed limit idle hown).trans
    (habreast.run_ownMoves limit idle moves').symm)

/-- The bytes that are written to a client. -/
def sentTo (client : Nat) (happenings : List Happening) : Bytes :=
  written ((happenings.filter fun happening => happening.1 = client).map (·.2))

theorem sentTo_ownHappenings (hown : uid client = u) (happenings : List Happening) :
    sentTo client (ownHappenings uid u happenings) = sentTo client happenings := by
  have hfilter : (ownHappenings uid u happenings).filter (fun happening => happening.1 = client)
      = happenings.filter fun happening => happening.1 = client := by
    rw [ownHappenings, List.filter_filter]
    refine List.filter_congr fun happening _ => ?_
    by_cases heq : happening.1 = client
    · simp [heq, hown]
    · simp [heq]
  rw [sentTo, hfilter, sentTo]

theorem SameFor.sentTo {one other : List Happening × Server × Tree} (h : SameFor r uid u one other)
    (hclient : uid client = u) : Server.sentTo client one.1 = Server.sentTo client other.1 := by
  rw [← sentTo_ownHappenings hclient, h.happenings, sentTo_ownHappenings hclient]

/-- **Callers cannot influence each other.**  In two runs in which the clients of a caller make the
same moves, at whatever times and whatever the clients of other callers do, the same bytes are
written to them, and the same is stored for the caller. -/
theorem isolated {t₀ : Tree} {root : String} {maxObjectSize : Nat} (ht : t₀.WellFormed)
    (hopen : Registry.open t₀ root maxObjectSize = (.ok r, t)) (limit : Nat) (idle : Option Nat)
    (permits : Nat) (uid : Nat → UInt32) (peers : List Peer) (u : UInt32)
    {moves moves' : List (Nat × Nat × Move)}
    (hown : (ownMoves uid u moves).map (·.2) = (ownMoves uid u moves').map (·.2)) :
    let run := fun moves =>
      Server.run (r.service limit idle .caller) (serving permits uid peers) t (inputs moves)
    (∀ client, uid client = u → sentTo client (run moves).1 = sentTo client (run moves').1)
      ∧ Tree.SameBelow (r.entryDirectory (.forUid u)) (run moves).2.2 (run moves').2.2 := by
  intro run
  have hsame : SameFor r uid u (run moves) (run moves') :=
    run_serving_alike (Registry.open_ok ht hopen).1 limit idle permits uid peers u hown
  exact ⟨fun client hclient => hsame.sentTo hclient, hsame.below⟩

/-- **Callers cannot influence each other from the connecting on.**  Some clients connect to a
daemon that nobody has connected to, no more than there are permits, and then make their moves. -/
theorem isolated_since_connecting {t₀ : Tree} {root : String} {maxObjectSize : Nat}
    (ht : t₀.WellFormed) (hopen : Registry.open t₀ root maxObjectSize = (.ok r, t)) (limit : Nat)
    (idle : Option Nat) {maxConnections : Nat} (uid : Nat → UInt32) {peers : List Peer}
    (hpermits : peers.length ≤ max 1 maxConnections) (u : UInt32)
    {moves moves' : List (Nat × Nat × Move)}
    (hown : (ownMoves uid u moves).map (·.2) = (ownMoves uid u moves').map (·.2)) :
    let connecting := peers.map fun p =>
      (p.since, Input.connect p.client (some (uid p.client)) p.outlet)
    let run := fun moves => Server.run (r.service limit idle .caller) (.ofLimit maxConnections) t
      (connecting ++ inputs moves)
    (∀ client, uid client = u → sentTo client (run moves).1 = sentTo client (run moves').1)
      ∧ Tree.SameBelow (r.entryDirectory (.forUid u)) (run moves).2.2 (run moves').2.2 := by
  intro connecting run
  have hsame := run_serving_alike (Registry.open_ok ht hopen).1 limit idle (max 1 maxConnections)
    uid peers u hown
  have hrun : ∀ moves, run moves
      = let served := Server.run (r.service limit idle .caller)
          (serving (max 1 maxConnections) uid peers) t (inputs moves)
        (peers.map (fun p => (p.client, .started)) ++ served.1, served.2) := by
    intro moves
    simp only [run, connecting]
    rw [run_append, run_connects _ rfl uid hpermits]
  have hruns : SameFor r uid u (run moves) (run moves') := by
    rw [hrun, hrun]
    refine ⟨?_, hsame.below⟩
    rw [ownHappenings_append, ownHappenings_append, hsame.happenings]
  exact ⟨fun client hclient => hruns.sentTo hclient, hruns.below⟩

/-- A command that a client sends all at once. -/
def Move.command (id : UInt32) (command : Command) (payload : Bytes) : Move :=
  let header : CommandHeader := ⟨id, command.code, UInt32.ofNat payload.length⟩
  .send (.bytes (header.encode ++ payload))

/-- What a caller is told when it stores a token and reads it does not depend on the tokens that
another stores meanwhile. -/
theorem isolated_from_second_caller :
    let uid : Nat → UInt32 := fun client => if client = 7 then 1000 else 1001
    let moves := [(1, 8, Move.command 1 .writeAuthToken [9]),
      (2, 7, .command 1 .writeAuthToken [5]), (3, 8, .command 2 .deleteAuthToken []),
      (4, 7, .command 2 .readAuthToken [])]
    let moves' := [(2, 7, Move.command 1 .writeAuthToken [5]), (6, 7, .command 2 .readAuthToken [])]
    let peers : List Peer := [⟨7, .flowing, 0⟩, ⟨8, .empty, 0⟩]
    ∃ r t, Registry.open .empty "r" 64 = (.ok r, t)
      ∧ (ownMoves uid 1000 moves).map (·.2) = (ownMoves uid 1000 moves').map (·.2)
      ∧ sentTo 7 (Server.run (r.service 64 none .caller) (serving 2 uid peers) t (inputs moves)).1
        = sentTo 7
            (Server.run (r.service 64 none .caller) (serving 2 uid peers) t (inputs moves')).1 := by
  intro uid moves moves' peers
  have hopen : Registry.open .empty "r" 64 = (.ok ⟨"r", ["r"], 64⟩,
      ⟨[([], .directory 0o755), (["r"], .directory 0o700)]⟩) := by rfl
  have hown : (ownMoves uid 1000 moves).map (·.2) = (ownMoves uid 1000 moves').map (·.2) := rfl
  exact ⟨_, _, hopen, hown,
    (isolated Tree.wellFormed_empty hopen 64 none 2 uid peers 1000 hown).1 7 rfl⟩

end Server
end TokenBroker
