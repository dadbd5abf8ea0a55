import TokenBroker.Proofs.Registry.Housekeeping
/-!
# Interrupted operations

An operation may be cut off at any of its steps, and then the registry is opened again.  A store
takes hold with the step that moves the new file over the entry, and a removal with the step that
removes it; before that step nothing shows of them, and after it everything.

* `cutOff_cases` says that steps that are cut off are housekeeping, or leave all that they would
  have left, and `interrupts` the same of an operation.
* `Event` is an operation, or one that is cut off and what follows; `undergo_refines` is one event,
  and `survives_interruptions` the induction over any number of them.
-/

set_option autoImplicit false

namespace TokenBroker

/-- What is done of some steps if they are cut off after so many, and after so many bytes of the
next one if that writes. -/
def FileStep.cutOff (steps : List FileStep) (count written : Nat) : List FileStep :=
  steps.take count ++ (steps[count]?.map (partly written)).getD []

/-- Whether an operation takes hold with a step. -/
def FileStep.takesHold : FileStep → Bool
  | rename _ _ => true
  | unlink _ => true
  | _ => false

namespace Registry

variable {r : Registry} {t t' : Tree} {root : String} {place : Place}

/-! ## Steps that are cut off -/

/-- Steps that no entry tells of are so if they are cut off. -/
theorem housekeeping_cutOff {steps : List FileStep}
    (h : ∀ step ∈ steps, Housekeeping place step) (count written : Nat) :
    ∀ taken ∈ FileStep.cutOff steps count written, Housekeeping place taken := by
  intro taken htaken
  rcases List.mem_append.1 htaken with hwhole | hpart
  · exact h taken (List.mem_of_mem_take hwhole)
  · cases hnext : steps[count]? with
    | none =>
      rw [hnext] at hpart
      cases hpart
    | some step =>
      rw [hnext] at hpart
      exact (h step (List.mem_of_getElem? hnext)).partly written taken hpart

theorem partly_of_takesHold {step : FileStep} (h : step.takesHold = true) (written : Nat) :
    step.partly written = [] := by
  cases step <;> first | rfl | cases h

/-- Of a step that takes hold nothing is done before it is done. -/
theorem cutOff_append {before rest : List FileStep} {step : FileStep}
    (hstep : step.takesHold = true) {count : Nat} (hcount : count ≤ before.length)
    (written : Nat) : FileStep.cutOff (before ++ step :: rest) count written
      = FileStep.cutOff before count written := by
  rw [FileStep.cutOff, FileStep.cutOff, List.take_append_of_le_length hcount]
  rcases Nat.lt_or_eq_of_le hcount with hless | rfl
  · rw [List.getElem?_append_left hless]
  · rw [List.getElem?_append_right (Nat.le_refl _), Nat.sub_self, List.getElem?_cons_zero,
      Option.map_some, partly_of_takesHold hstep, List.getElem?_eq_none (Nat.le_refl _)]
    rfl

/-- Whether the last step was to let something reach the disk does not show. -/
theorem run_concat_sync (t : Tree) (steps : List FileStep) (p : Place) :
    (t.run (steps ++ [.sync p])).2 = (t.run steps).2 := by
  rw [Tree.run_append]
  generalize t.run steps = ran
  obtain ⟨result, t'⟩ := ran
  cases result with
  | error errno => rfl
  | ok done =>
    simp only [Tree.run, FileStep.apply]
    cases t'.stat p <;> rfl

/-- **Steps of which one takes hold, if they are cut off, are steps that no entry tells of, or they
leave all that they would have left.** -/
theorem cutOff_cases {before : List FileStep} {step : FileStep}
    (hbefore : ∀ earlier ∈ before, Housekeeping place earlier ∧ earlier.takesHold = false)
    (hstep : step.takesHold = true) (p : Place) (count written : Nat) :
    (((before ++ [step, .sync p]).take count).any FileStep.takesHold = false
        ∧ ∀ taken ∈ FileStep.cutOff (before ++ [step, .sync p]) count written,
          Housekeeping place taken)
      ∨ (((before ++ [step, .sync p]).take count).any FileStep.takesHold = true
        ∧ ∀ t : Tree, (t.run (FileStep.cutOff (before ++ [step, .sync p]) count written)).2
          = (t.run (before ++ [step, .sync p])).2) := by
  rcases Nat.lt_or_ge before.length count with hpast | hwithin
  · -- the step was taken, and perhaps the one that lets it reach the disk
    obtain ⟨more, rfl⟩ : ∃ more, count = before.length + (more + 1) :=
      ⟨count - before.length - 1, by omega⟩
    refine .inr ⟨?_, fun t => ?_⟩
    · rw [List.take_length_add_append, List.take_succ_cons, List.any_append, List.any_cons, hstep,
        Bool.true_or, Bool.or_true]
    · rw [FileStep.cutOff, List.take_length_add_append, List.getElem?_append_right (by omega),
        Nat.add_sub_cancel_left, List.take_succ_cons, List.getElem?_cons_succ]
      cases more with
      | zero =>
        have hall : before ++ [step, .sync p] = (before ++ [step]) ++ [.sync p] := by
          rw [List.append_assoc]
          rfl
        show (t.run (before ++ [step] ++ [])).2 = _
        rw [List.append_nil, hall, run_concat_sync]
      | succ more =>
        rw [List.take_succ_cons, List.getElem?_cons_succ, List.take_nil, List.getElem?_nil,
          Option.map_none, Option.getD_none, List.append_nil]
  · refine .inl ⟨?_, ?_⟩
    · rw [List.take_append_of_le_length hwithin, List.any_eq_false]
      intro earlier hearlier
      rw [(hbefore earlier (List.mem_of_mem_take hearlier)).2]
      exact Bool.false_ne_true
    · rw [cutOff_append hstep hwithin]
      exact housekeeping_cutOff (fun earlier hearlier => (hbefore earlier hearlier).1) count written

/-! ## Operations that are cut off -/

/-- The steps of an operation. -/
def Operation.steps (r : Registry) (t : Tree) : Operation → List FileStep
  | .store key blob now =>
    if blob.length > r.maxObjectSize then []
    else
      match (Record.ofBlob blob now).encode with
      | .error _ => []
      | .ok content => storeSteps t (r.entryDirectory key) content
  | .delete key => [.unlink (r.entryPlace key), .sync (r.entryDirectory key)]
  | .reopen _ => openSteps t r.place
  | .read _ => []
  | .contains _ => []

/-- Whether the step with which an operation takes hold is among so many. -/
def Operation.tookHold (r : Registry) (t : Tree) (op : Operation) (count : Nat) : Bool :=
  ((op.steps r t).take count).any FileStep.takesHold

/-- What an operation leaves if it is cut off after so many steps, and after so many bytes of the
next one if that writes. -/
def interrupted (r : Registry) (t : Tree) (op : Operation) (count written : Nat) : Tree :=
  (t.run (FileStep.cutOff (op.steps r t) count written)).2

/-- An operation leaves what its steps leave. -/
theorem run_steps (h : r.Sound t) (op : Operation) :
    (t.run (op.steps r t)).2 = (r.perform t op).2.2 := by
  cases op with
  | store key blob now =>
    rw [Operation.steps, perform, store]
    dsimp only
    split
    · rfl
    · cases (Record.ofBlob blob now).encode with
      | error text => rfl
      | ok content =>
        obtain ⟨t', hrun, -⟩ := run_storeSteps h.ready (h.storeFault? key) content
        dsimp only
        rw [hrun]
  | read key => rfl
  | delete key => exact (tree_delete r t key).symm
  | contains key => rfl
  | reopen max =>
    have hmake := Tree.makePath_of_located h.located (h.wellFormed.enterable h.rooted)
    rw [Operation.steps, perform, Registry.open, hmake]
    simp only [h.located, Tree.runSteps]
    generalize t.run (openSteps t r.place) = ran
    obtain ⟨result, t'⟩ := ran
    cases result <;> rfl

/-- The steps of opening are steps that no entry tells of. -/
theorem housekeeping_openSteps (t : Tree) (place : Place) :
    ∀ step ∈ openSteps t place, Housekeeping place step := by
  intro step hstep
  rcases List.mem_cons.1 hstep with rfl | hunlink
  · exact .closeRoot _
  · obtain ⟨q, hq, rfl⟩ := List.mem_map.1 hunlink
    obtain ⟨name, file, rfl, hfile, -, -⟩ := mem_temporaries.1 hq
    exact .unlink name hfile

/-- The steps of a store: those that no entry tells of, and the move over the entry. -/
theorem storeSteps_eq (h : r.Ready t) (key : IdentityKey) (content : Bytes) :
    ∃ before, storeSteps t (r.entryDirectory key) content
        = before ++ [.rename (r.temporaryPlace key) (r.entryPlace key),
          .sync (r.entryDirectory key)]
      ∧ ∀ step ∈ before, Housekeeping r.place step ∧ step.takesHold = false := by
  have hdirectory : ∀ step ∈ Registry.directorySteps t (r.entryDirectory key),
      Housekeeping r.place step ∧ step.takesHold = false := by
    intro step hstep
    cases hfind : t.find? (r.entryDirectory key) with
    | some e =>
      rw [h.directorySteps hfind] at hstep
      cases hstep
    | none =>
      rw [Registry.directorySteps] at hstep
      split at hstep
      · cases hstep
      · rw [entryDirectory, makeDirectories_concat h.enterable_place hfind] at hstep
        rcases List.mem_cons.1 hstep with rfl | hclose
        · exact ⟨.makeDirectory key, rfl⟩
        · obtain rfl := List.mem_singleton.1 hclose
          exact ⟨.closeDirectory key _, rfl⟩
  refine ⟨Registry.directorySteps t (r.entryDirectory key)
      ++ [.createFile (r.temporaryPlace key) entryMode, .append (r.temporaryPlace key) content,
        .sync (r.temporaryPlace key)], ?_, fun step hstep => ?_⟩
  · rw [storeSteps, h.freeTemporary, replaceSteps, List.append_assoc]
    rfl
  · have htemporary := isTemporaryName_temporaryName_zero
    rcases List.mem_append.1 hstep with hfirst | hlast
    · exact hdirectory step hfirst
    · simp only [List.mem_cons, List.not_mem_nil, or_false] at hlast
      rcases hlast with rfl | rfl | rfl
      · exact ⟨.createFile key.text _ htemporary, rfl⟩
      · exact ⟨.append key.text _ htemporary, rfl⟩
      · exact ⟨.sync _, rfl⟩

/-- What an operation that is cut off leaves: a registry can still stand there, and the entries are
those of before, or those that the operation leaves if it took hold. -/
def Interrupts (r : Registry) (t : Tree) (op : Operation) (count written : Nat) : Prop :=
  Hosts (r.interrupted t op count written) r.root r.place
    ∧ slot r.place (r.interrupted t op count written)
      = (if op.tookHold r t count then ((r.shelf t).perform op).2 else r.shelf t).slots

theorem interrupts_of_housekeeping (h : r.Sound t) {op : Operation}
    (hsteps : ∀ step ∈ op.steps r t, Housekeeping r.place step ∧ step.takesHold = false)
    (count written : Nat) : r.Interrupts t op count written := by
  have hnot : op.tookHold r t count = false := by
    rw [Operation.tookHold, List.any_eq_false]
    intro step hstep
    rw [(hsteps step (List.mem_of_mem_take hstep)).2]
    exact Bool.false_ne_true
  rw [Interrupts, hnot]
  exact h.toHosts.run (housekeeping_cutOff (fun step hstep => (hsteps step hstep).1) count written)

theorem interrupts_of_change (h : r.Sound t) {op : Operation} (hrefines : r.Refines t op)
    (hregistry : (r.perform t op).2.1 = r) {before : List FileStep} {step : FileStep} {p : Place}
    (hsteps : op.steps r t = before ++ [step, .sync p])
    (hbefore : ∀ earlier ∈ before, Housekeeping r.place earlier ∧ earlier.takesHold = false)
    (hstep : step.takesHold = true) (count written : Nat) : r.Interrupts t op count written := by
  obtain ⟨r', t', heq, hshelf, hsound⟩ := hrefines
  have hleft := run_steps h op
  rw [heq] at hregistry hleft
  obtain rfl : r' = r := hregistry
  rw [Interrupts, interrupted, Operation.tookHold, hsteps]
  rw [hsteps] at hleft
  rcases cutOff_cases hbefore hstep p count written with ⟨hnot, htaken⟩ | ⟨htook, hsame⟩
  · rw [hnot]
    exact h.toHosts.run htaken
  · rw [htook, hsame, hleft, if_pos rfl, ← hshelf]
    exact ⟨hsound.toHosts, rfl⟩

/-- **What was cut off has left no trace in any entry, or all that it leaves.** -/
theorem interrupts (h : r.Sound t) (op : Operation) (count written : Nat) :
    r.Interrupts t op count written := by
  have hnothing : op.steps r t = [] → r.Interrupts t op count written := fun hnone =>
    interrupts_of_housekeeping h
      (fun step hstep => (List.not_mem_nil (hnone ▸ hstep)).elim) count written
  cases op with
  | store key blob now =>
    by_cases hlarge : blob.length > r.maxObjectSize
    · exact hnothing (if_pos hlarge)
    · by_cases hrep : Record.Representable blob
      · obtain ⟨content, hencode, -⟩ := Record.decode_encode_ofBlob hrep now
        obtain ⟨before, hsteps, hbefore⟩ := storeSteps_eq h.ready key content
        have hall : (Operation.store key blob now).steps r t
            = before ++ [.rename (r.temporaryPlace key) (r.entryPlace key),
              .sync (r.entryDirectory key)] := by
          rw [Operation.steps, if_neg hlarge, hencode]
          exact hsteps
        exact interrupts_of_change h (refines_store h hrep key now) rfl hall hbefore rfl count
          written
      · refine hnothing ?_
        rw [Operation.steps, if_neg hlarge, Record.encode_ofBlob_of_not hrep]
  | read key => exact hnothing rfl
  | delete key =>
    have hnone : ∀ earlier ∈ ([] : List FileStep),
        Housekeeping r.place earlier ∧ earlier.takesHold = false :=
      fun _ hmem => (List.not_mem_nil hmem).elim
    exact interrupts_of_change h (refines_delete h key) rfl rfl hnone rfl count written
  | contains key => exact hnothing rfl
  | reopen max =>
    refine interrupts_of_housekeeping h (fun step hstep => ?_) count written
    have hstep' : step ∈ openSteps t r.place := hstep
    rw [openSteps, h.ready.temporaries, List.map_nil] at hstep'
    obtain rfl := List.mem_singleton.1 hstep'
    exact ⟨.closeRoot _, rfl⟩

/-! ## Opening again -/

/-- What openings leave that are cut off, each after so many steps. -/
def opened (place : Place) (t : Tree) (counts : List Nat) : Tree :=
  counts.foldl (fun t count => (t.run ((openSteps t place).take count)).2) t

/-- Openings that are cut off change no entry. -/
theorem Hosts.opened (h : Hosts t root place) (counts : List Nat) :
    Hosts (opened place t counts) root place
      ∧ slot place (opened place t counts) = slot place t := by
  induction counts generalizing t with
  | nil => exact ⟨h, rfl⟩
  | cons count rest ih =>
    have hsteps : ∀ step ∈ (openSteps t place).take count, Housekeeping place step :=
      fun step hstep => housekeeping_openSteps t place step (List.mem_of_mem_take hstep)
    obtain ⟨hhosts, hslots⟩ := h.run hsteps
    obtain ⟨hafter, hsame⟩ := ih hhosts
    exact ⟨hafter, hsame.trans hslots⟩

/-! ## One event -/

/-- What may come to a registry. -/
inductive Event where
  | whole (op : Operation)
  /-- An operation is cut off after so many steps, and after so many bytes of the next one if that
  writes.  Then the registry is opened: that is cut off a number of times, too, before it comes to
  its end. -/
  | cut (op : Operation) (count written : Nat) (openings : List Nat) (max : Nat)

/-- Whether the operation of an event takes hold. -/
def Event.tookHold (r : Registry) (t : Tree) : Event → Bool
  | whole _ => true
  | cut op count _ _ _ => op.tookHold r t count

/-- What a registry answers in an event, and what is left. -/
def undergo (r : Registry) (t : Tree) : Event → Answer × Registry × Tree
  | .whole op => r.perform t op
  | .cut op count written openings max =>
    r.perform (opened r.place (r.interrupted t op count written) openings) (.reopen max)

namespace Shelf

/-- What any operation is answered, and what it leaves: tokens are refused of which no record can be
made. -/
def accept (s : Shelf) : Operation → Answer × Shelf
  | .store key blob now =>
    if blob.length ≤ s.max ∧ ¬ Record.Representable blob then
      (.outcome (.error (.serialization Record.unrepresentable)), s)
    else s.perform (.store key blob now)
  | op => s.perform op

/-- What the map answers in an event of which is known whether its operation takes hold. -/
def undergo (s : Shelf) (tookHold : Bool) : Event → Answer × Shelf
  | .whole op => s.accept op
  | .cut op _ _ _ max => (if tookHold then (s.perform op).2 else s).perform (.reopen max)

end Shelf

/-- An operation leaves a registry where it is. -/
theorem perform_stays (h : r.Sound t) (op : Operation) :
    (r.perform t op).2.1.root = r.root ∧ (r.perform t op).2.1.place = r.place := by
  cases op with
  | reopen max =>
    obtain ⟨t', hopen, -⟩ := h.toHosts.open max
    rw [perform, hopen]
    exact ⟨rfl, rfl⟩
  | store | read | delete | contains => exact ⟨rfl, rfl⟩

/-- A token of which no record can be made is refused. -/
theorem refuses_store (h : r.Sound t) {blob : Bytes} (hsmall : blob.length ≤ r.maxObjectSize)
    (hrep : ¬ Record.Representable blob) (key : IdentityKey) (now : UInt64) :
    ∃ t', r.perform t (.store key blob now)
        = (.outcome (.error (.serialization Record.unrepresentable)), r, t')
      ∧ r.shelf t' = r.shelf t ∧ r.Sound t' := by
  have hdistinct := distinct_store h.distinct r key blob now
  have houtcome : r.storeOutcome (t.stat (r.entryPlace key)) blob
      = .error (.serialization Record.unrepresentable) := by
    rw [storeOutcome, if_neg (Nat.not_lt.2 hsmall), if_pos hrep]
  obtain ⟨t', heq, hcases⟩ := store_spec h.ready key blob now
  rw [houtcome] at heq hcases
  rw [heq] at hdistinct
  obtain ⟨-, hsame⟩ := hcases.resolve_left fun hok => by cases hok.1
  exact ⟨t', by rw [perform, heq], by rw [shelf, slot_congr hsame]; rfl, h.congr hdistinct hsame⟩

/-- Any operation is answered like the map does it. -/
theorem perform_accepts (h : r.Sound t) (op : Operation) :
    ∃ r' t', r.perform t op = (((r.shelf t).accept op).1, r', t')
      ∧ r'.shelf t' = ((r.shelf t).accept op).2 ∧ r'.Sound t' := by
  cases op with
  | store key blob now =>
    rw [Shelf.accept]
    split
    · next hrefused =>
      obtain ⟨t', heq, hshelf, hsound⟩ := refuses_store h hrefused.1 hrefused.2 key now
      exact ⟨r, t', heq, hshelf, hsound⟩
    · next htaken =>
      by_cases hrep : Record.Representable blob
      · exact refines_store h hrep key now
      · -- above the limit, which is found out first
        have hlarge : blob.length > r.maxObjectSize :=
          Nat.not_le.1 fun hsmall => htaken ⟨hsmall, hrep⟩
        have hstore : r.perform t (.store key blob now)
            = (.outcome (.error (.tooLarge blob.length r.maxObjectSize)), r, t) := by
          rw [perform, store, if_pos hlarge]
        have hmap : (r.shelf t).perform (.store key blob now)
            = (.outcome (.error (.tooLarge blob.length r.maxObjectSize)), r.shelf t) :=
          if_pos hlarge
        rw [hmap, hstore]
        exact ⟨r, t, rfl, rfl, h⟩
  | read key => exact refines_read h key
  | delete key => exact refines_delete h key
  | contains key => exact refines_contains h key
  | reopen max => exact refines_reopen h max

/-- **Whatever comes, a registry answers like the map does, and it is what the map is then.** -/
theorem undergo_refines (h : r.Sound t) (event : Event) :
    ∃ r' t', r.undergo t event = (((r.shelf t).undergo (event.tookHold r t) event).1, r', t')
      ∧ r'.shelf t' = ((r.shelf t).undergo (event.tookHold r t) event).2 ∧ r'.Sound t'
      ∧ r'.root = r.root ∧ r'.place = r.place := by
  cases event with
  | whole op =>
    obtain ⟨r', t', heq, hshelf, hsound⟩ := perform_accepts h op
    have hstays := perform_stays h op
    rw [heq] at hstays
    exact ⟨r', t', heq, hshelf, hsound, hstays⟩
  | cut op count written openings max =>
    obtain ⟨hhosts, hslots⟩ := interrupts h op count written
    obtain ⟨hopened, hsame⟩ := hhosts.opened openings
    obtain ⟨t', hopen, hsound, hleft⟩ := hopened.open max
    refine ⟨⟨r.root, r.place, max⟩, t', by rw [undergo, perform, hopen]; rfl, ?_, hsound, rfl, rfl⟩
    rw [shelf, hleft, hsame, hslots]
    rfl

/-! ## Any number of events -/

/-- What a registry answers in one event after the other, with the registry and the tree that are
left. -/
def undergoAll (r : Registry) (t : Tree) : List Event → List Answer × Registry × Tree
  | [] => ([], r, t)
  | event :: rest =>
    let first := r.undergo t event
    let others := undergoAll first.2.1 first.2.2 rest
    (first.1 :: others.1, others.2)

/-- Of each event, whether its operation took hold when it came. -/
def held (r : Registry) (t : Tree) : List Event → List Bool
  | [] => []
  | event :: rest =>
    let after := (r.undergo t event).2
    event.tookHold r t :: held after.1 after.2 rest

/-- What the map answers in one event after the other, with the map that is left. -/
def Shelf.undergoAll (s : Shelf) : List (Event × Bool) → List Answer × Shelf
  | [] => ([], s)
  | (event, tookHold) :: rest =>
    let first := s.undergo tookHold event
    let others := first.2.undergoAll rest
    (first.1 :: others.1, others.2)

theorem undergoAll_refines (h : r.Sound t) (events : List Event) :
    let after := r.undergoAll t events
    let map := (r.shelf t).undergoAll (events.zip (r.held t events))
    after.1 = map.1 ∧ after.2.1.shelf after.2.2 = map.2 ∧ after.2.1.Sound after.2.2
      ∧ after.2.1.root = r.root ∧ after.2.1.place = r.place := by
  induction events generalizing r t with
  | nil => exact ⟨rfl, rfl, h, rfl, rfl⟩
  | cons event rest ih =>
    obtain ⟨r', t', heq, hshelf, hsound, hroot, hplace⟩ := undergo_refines h event
    obtain ⟨hanswers, hleft, hsound', hroot', hplace'⟩ := ih hsound
    rw [hshelf] at hanswers hleft
    simp only [undergoAll, held, List.zip_cons_cons, Shelf.undergoAll, heq]
    exact ⟨by rw [hanswers], hleft, hsound', hroot'.trans hroot, hplace'.trans hplace⟩

/-- **A registry survives interruptions.**  At a path where a registry can stand it opens; from then
on operations are carried out, or cut off at any step and the registry opened again, in any order
and number.  Every opening succeeds, every answer is that of the map, in which a store or removal
that was cut off has happened if its decisive step was taken and has not happened otherwise, and in
the end the disk holds what the map does and no temporary file. -/
theorem survives_interruptions {t₁ : Tree} (hmake : t.makePath root = (.ok (), t₁))
    (hosts : Hosts t₁ root place) (max : Nat) (events : List Event) :
    ∃ r first, Registry.open t root max = (.ok r, first)
      ∧ let after := r.undergoAll first events
        let map := (⟨max, slot place t₁⟩ : Shelf).undergoAll (events.zip (r.held first events))
        after.1 = map.1 ∧ after.2.1.shelf after.2.2 = map.2
          ∧ after.2.1.root = root ∧ after.2.1.place = place
          ∧ ∀ name file, isTemporaryName file = true →
            after.2.2.find? (place ++ [name] ++ [file]) = none := by
  obtain ⟨first, hopen, hsound, hslots⟩ := hosts.open max
  have hstart : (⟨root, place, max⟩ : Registry).shelf first = ⟨max, slot place t₁⟩ := by
    rw [shelf, hslots]
  obtain ⟨hanswers, hleft, hsound', hroot, hplace⟩ := undergoAll_refines hsound events
  rw [hstart] at hanswers hleft
  refine ⟨⟨root, place, max⟩, first, ?_, hanswers, hleft, hroot, hplace, fun name file hfile => ?_⟩
  · have hthere := Tree.makePath_of_located hosts.located (hosts.wellFormed.enterable hosts.rooted)
    rw [← hopen, Registry.open, Registry.open, hmake, hthere]
  · have hnone := hsound'.swept name file hfile
    rwa [hplace] at hnone

/-- A store that is cut off while it writes has not happened, also if the opening after it is cut
off; one that is cut off before its directory reaches the disk has, and so has such a removal. -/
theorem survives_interruptions_littered :
    let key : IdentityKey := ⟨"k", by decide⟩
    let events : List Event := [.cut (.store key [7, 8] 5) 1 3 [1] 4, .whole (.read key),
      .cut (.store key [7, 8] 6) 4 0 [] 1, .whole (.read key), .whole (.store key [7, 8] 7),
      .cut (.delete key) 1 0 [] 4, .whole (.contains key)]
    ∃ r first, Registry.open littered "r" 4 = (.ok r, first)
      ∧ (r.undergoAll first events).1
        = [.outcome (.ok ()), .token (.error (.corrupt Record.notAnArchive)), .outcome (.ok ()),
            .token (.ok [7, 8]), .outcome (.error (.tooLarge 2 1)), .outcome (.ok ()),
            .presence false] := by
  intro key events
  have hmake : littered.makePath "r" = (.ok (), littered) := rfl
  obtain ⟨r, first, hopen, hanswers, -⟩ := survives_interruptions hmake hosts_littered 4 events
  have hr : (⟨"r", ["r"], 4⟩ : Registry) = r := by
    have hresult := congrArg Prod.fst hopen
    exact Except.ok.inj hresult
  have hfirst : (Registry.open littered "r" 4).2 = first := congrArg Prod.snd hopen
  have hheld : (⟨"r", ["r"], 4⟩ : Registry).held (Registry.open littered "r" 4).2 events
      = [false, true, true, true, true, true, true] := by decide +kernel
  rw [hr, hfirst] at hheld
  rw [hheld] at hanswers
  exact ⟨r, first, hopen, hanswers⟩

end Registry
end TokenBroker
