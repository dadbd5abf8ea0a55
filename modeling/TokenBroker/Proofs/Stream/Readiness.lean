import TokenBroker.Proofs.Stream.Scatter
/-!
# What waiting for data reports

Whoever waits for data goes by a note that something has arrived.  A read that finds too little
drops the note; a read that takes exactly what is there leaves it.

* `Owned` is a line with what its owner remembers of the last read, and `Owned.run` is anything
  that an owner does with it.
* `Socket.Notes` says what the note is worth after that: it stands for unread bytes, or for a read
  that was complete.  `Owned.notes_run` keeps it through any run.
* `Line.waitData_sleep` says that waiting does to a line what time does.
* `wait_reports` is the result: waiting ends with what is there, with the deadline, or, where the
  last read has taken the last byte, with nothing at all.  `ready_for_nothing` is such an end.
-/

set_option autoImplicit false

namespace TokenBroker

/-- The operation is complete. -/
def Outcome.isFinished {ε α : Type} : Outcome ε α → Bool
  | finished _ => true
  | _ => false

theorem Outcome.isFinished_map {ε α β : Type} (f : α → β) (outcome : Outcome ε α) :
    (outcome.map f).isFinished = outcome.isFinished := by
  cases outcome <;> rfl

/-- The attempt is complete. -/
def Progress.isFinished {ρ α : Type} : Progress ρ α → Bool
  | finished _ => true
  | _ => false

/-! ## What the note is worth -/

namespace Socket

variable {s : Socket} {complete : Bool}

/-- As long as the stream goes on, there is a note exactly if there is something to read or the last
read was complete. -/
def Notes (s : Socket) (complete : Bool) : Prop :=
  s.ended = false → (s.noted = true ↔ s.unread ≠ [] ∨ complete = true)

theorem Notes.receive (h : s.Notes complete) (arrival : Arrival) :
    (s.receive arrival).Notes complete := by
  intro hended
  cases arrival with
  | bytes chunk =>
    rw [ended_receive_bytes] at hended
    rw [Socket.receive]
    split
    · exact h hended
    · next hchunk =>
      have hunread : s.unread ++ chunk ≠ [] := fun hnil =>
        hchunk (List.isEmpty_iff.2 (List.append_eq_nil_iff.1 hnil).2)
      exact iff_of_true rfl (.inl hunread)
  | finish => cases hended
  | hangUp reset => cases hended

/-- An attempt at a read of at least one more byte leaves the note exactly if it is complete, or if
there is more. -/
theorem Notes.fill (h : s.Notes complete) {n : Nat} {soFar : Bytes} (hneed : soFar.length < n) :
    (s.fill n soFar).2.Notes (s.fill n soFar).1.isFinished := by
  rw [Socket.fill]
  split
  · next henough =>
    intro hended
    have hunread : s.unread ≠ [] := List.length_pos_iff.1 (by omega)
    exact iff_of_true ((h hended).2 (.inl hunread)) (.inr rfl)
  · rw [drained]
    have hnothing : ∀ s' : Socket, s'.noted = false → s'.unread = [] → s'.Notes false :=
      fun s' hnoted hunread _ => by simp [hnoted, hunread]
    split
    · exact hnothing _ rfl rfl
    · split
      · exact hnothing _ rfl rfl
      · exact hnothing _ rfl rfl

/-- There is a byte to read, or the end of the stream. -/
def HasData (s : Socket) : Prop := s.unread ≠ [] ∨ s.ended = true

theorem HasData.receive (h : s.HasData) (arrival : Arrival) : (s.receive arrival).HasData := by
  rw [HasData, unread_receive, ended_receive]
  rcases h with hunread | hended
  · exact .inl (List.append_ne_nil_of_left_ne_nil hunread _)
  · exact .inr (by rw [hended, Bool.true_or])

end Socket

/-- Bytes, or the end. -/
def Arrival.isNews (arrival : Arrival) : Bool := !arrival.content.isEmpty || arrival.isEnd

theorem Socket.isReadable_receive (s : Socket) (arrival : Arrival) :
    (s.receive arrival).isReadable = (s.isReadable || arrival.isNews) := by
  cases arrival with
  | bytes chunk =>
    rw [receive, Arrival.isNews, Arrival.content, Arrival.isEnd, Bool.or_false]
    split
    · next hempty => rw [hempty, Bool.not_true, Bool.or_false]
    · next hchunk =>
      rw [Bool.not_eq_true] at hchunk
      rw [hchunk, Bool.not_false, Bool.or_true]
      rfl
  | finish => simp [receive, isReadable, Arrival.isNews, Arrival.isEnd]
  | hangUp reset => simp [receive, isReadable, Arrival.isNews, Arrival.isEnd]

/-- Whether bytes arrive, or the end. -/
def Schedule.isNews (coming : Schedule) : Bool := coming.any fun item => item.2.isNews

theorem Schedule.isNews_iff (coming : Schedule) :
    coming.isNews = true ↔ content coming ≠ [] ∨ (coming.any fun item => item.2.isEnd) = true := by
  simp only [isNews, Arrival.isNews, content, List.any_eq_true, ne_eq, List.flatMap_eq_nil_iff,
    Bool.or_eq_true, Bool.not_eq_true', List.isEmpty_eq_false_iff, not_forall, and_or_left,
    exists_or, exists_prop]

namespace Line

variable {complete : Bool}

theorem isReadable_settle {l : Line} (h : l.socket.isReadable = true) :
    l.settle.socket.isReadable = true := by
  obtain ⟨socket, now, coming⟩ := l
  show (settleFrom socket now coming).socket.isReadable = true
  induction coming generalizing socket with
  | nil => exact h
  | cons item later ih =>
    rw [settleFrom]
    split
    · exact ih _ (by rw [Socket.isReadable_receive, show socket.isReadable = true from h,
        Bool.true_or])
    · exact h

theorem notes_settle {l : Line} (h : l.socket.Notes complete) :
    l.settle.socket.Notes complete := by
  obtain ⟨socket, now, coming⟩ := l
  show (settleFrom socket now coming).socket.Notes complete
  induction coming generalizing socket with
  | nil => exact h
  | cons item later ih =>
    rw [settleFrom]
    split
    · exact ih _ (h.receive item.2)
    · exact h

theorem hasData_settle {l : Line} (h : l.socket.HasData) : l.settle.socket.HasData := by
  obtain ⟨socket, now, coming⟩ := l
  show (settleFrom socket now coming).socket.HasData
  induction coming generalizing socket with
  | nil => exact h
  | cons item later ih =>
    rw [settleFrom]
    split
    · exact ih _ (h.receive item.2)
    · exact h

/-- Attempt after attempt, what was there is taken and the note is dropped, until there is
enough. -/
theorem notes_awaitFrom {n : Nat} {deadline patience : Option Nat} {soFar : Bytes}
    {socket : Socket} {now : Nat} {coming : Schedule} (h : socket.Notes complete)
    (hneed : soFar.length < n) :
    let result := awaitFrom (fun soFar socket => socket.fill n soFar) deadline patience soFar socket
      now coming
    result.2.socket.Notes result.1.isFinished := by
  have hexpire : ∀ {outcome : Outcome ConnectionError Bytes} {now late : Nat},
      expire deadline patience now = (outcome, late) → outcome.isFinished = false := by
    intro outcome now late hexpire
    have hnot := (expire_cases (α := Bytes) deadline patience now).2
    rw [hexpire] at hnot
    cases outcome with
    | finished value => exact absurd rfl (hnot value)
    | failed e => rfl
    | abandoned => rfl
  fun_induction awaitFrom (fun soFar socket => socket.fill n soFar) deadline patience soFar socket
      now coming generalizing complete with
  | case1 coming soFar socket now value s hattempt =>
    have hfill := h.fill hneed
    rwa [hattempt] at hfill
  | case2 coming soFar socket now e s hattempt =>
    have hfill := h.fill hneed
    rwa [hattempt] at hfill
  | case3 soFar socket now more s hattempt outcome late hlate =>
    have hfill := h.fill hneed
    rw [hattempt] at hfill
    show s.Notes outcome.isFinished
    rwa [hexpire hlate]
  | case4 soFar socket now more s time arrival later hattempt hwithin ih =>
    have hfill := h.fill hneed
    rw [hattempt] at hfill
    have hshort := Socket.lt_of_fill hattempt fun _ h => by cases h
    obtain ⟨rfl, -⟩ := Socket.of_fill_waiting hattempt
    exact ih (hfill.receive arrival) (by rwa [List.length_append])
  | case5 soFar socket now more s time arrival later hattempt hwithin outcome late hlate =>
    have hfill := h.fill hneed
    rw [hattempt] at hfill
    show s.Notes outcome.isFinished
    rwa [hexpire hlate]

/-- A read of nothing leaves the note as it is, and any other leaves it if it is complete. -/
theorem notes_read {l : Line} (h : l.socket.Notes complete) (n : Nat)
    (timeout patience : Option Nat) :
    (l.read n timeout patience).2.socket.Notes
      (if n = 0 then complete else (l.read n timeout patience).1.isFinished) := by
  rw [read, await]
  split
  · next hzero =>
    subst hzero
    have hnothing : l.socket.fill 0 [] = (.finished [], l.socket) :=
      Socket.fill_at_once (Nat.zero_le _)
    rw [awaitFrom_finished hnothing]
    exact notes_settle (l := l) h
  · next hsome => exact notes_settle (notes_awaitFrom h (Nat.pos_of_ne_zero hsome))

/-! ## Waiting -/

/-- What arrived by some time is taken in. -/
theorem settleFrom_append (socket : Socket) {now : Nat} {past : Schedule} (later : Schedule)
    (hpast : ∀ item ∈ past, item.1 ≤ now) :
    settleFrom socket now (past ++ later)
      = settleFrom (socket.receiveAll (past.map (·.2))) now later := by
  induction past generalizing socket with
  | nil => rfl
  | cons item past ih =>
    rw [List.cons_append, settleFrom, if_pos (hpast item List.mem_cons_self)]
    exact ih _ fun other hother => hpast other (List.mem_cons_of_mem item hother)

section Look

variable {deadline patience : Option Nat} {socket : Socket} {now : Nat} {coming : Schedule}

/-- Looking for data takes in what arrives meanwhile, and does nothing else. -/
theorem awaitFrom_look (deadline patience : Option Nat) (socket : Socket) (now : Nat)
    (coming : Schedule) :
    let result := awaitFrom lookForData deadline patience () socket now coming
    ∃ past, coming = past ++ result.2.coming
      ∧ result.2.socket = socket.receiveAll (past.map (·.2))
      ∧ now ≤ result.2.now ∧ ∀ item ∈ past, item.1 ≤ result.2.now := by
  have hsame : ∀ {socket s : Socket} {progress : Progress Unit Unit},
      lookForData () socket = (progress, s) → s = socket := by
    intro socket s progress hlook
    rw [lookForData] at hlook
    split at hlook <;> exact (Prod.mk.inj hlook).2.symm
  have hlater : ∀ {outcome : Outcome ConnectionError Unit} {now late : Nat},
      expire deadline patience now = (outcome, late) → now ≤ late := by
    intro outcome now late hexpire
    have hle := (expire_cases (α := Unit) deadline patience now).1
    rwa [hexpire] at hle
  fun_induction awaitFrom lookForData deadline patience () socket now coming with
  | case1 coming soFar socket now value s hlook =>
    exact ⟨[], rfl, hsame hlook, Nat.le_refl now, fun _ hmem => by cases hmem⟩
  | case2 coming soFar socket now e s hlook =>
    exact ⟨[], rfl, hsame hlook, Nat.le_refl now, fun _ hmem => by cases hmem⟩
  | case3 soFar socket now more s hlook outcome late hexpire =>
    exact ⟨[], rfl, hsame hlook, hlater hexpire, fun _ hmem => by cases hmem⟩
  | case4 soFar socket now more s time arrival later hlook hwithin ih =>
    obtain ⟨past, hcoming, hsocket, hnow, hpast⟩ := ih
    obtain rfl := hsame hlook
    refine ⟨(time, arrival) :: past, congrArg _ hcoming, hsocket,
      Nat.le_trans (Nat.le_max_left now time) hnow, ?_⟩
    exact List.forall_mem_cons.2 ⟨Nat.le_trans (Nat.le_max_right now time) hnow, hpast⟩
  | case5 soFar socket now more s time arrival later hlook hwithin outcome late hexpire =>
    exact ⟨[], rfl, hsame hlook, hlater hexpire, fun _ hmem => by cases hmem⟩

/-- Looking for data with a note ends at once. -/
theorem awaitFrom_look_at_once (hreadable : socket.isReadable = true) :
    awaitFrom lookForData deadline patience () socket now coming
      = (.finished (), ⟨socket, now, coming⟩) :=
  awaitFrom_finished (by rw [lookForData, if_pos hreadable])

/-- Looking for data with a deadline ends well exactly if there is a note, or bytes or the end
arrive by then. -/
theorem awaitFrom_look_verdict {limit : Nat} :
    (awaitFrom lookForData (some limit) none () socket now coming).1
      = if (socket.isReadable || (Schedule.upTo (some limit) coming).isNews) = true then
          .finished ()
        else .failed .timedOut := by
  have hexpire : ∀ now, (expire (α := Unit) (some limit) none now).1 = .failed .timedOut :=
    fun now => by simp only [expire, earlier, if_true]
  induction coming generalizing socket now with
  | nil =>
    cases hreadable : socket.isReadable with
    | true => rw [awaitFrom_look_at_once hreadable, Bool.true_or, if_pos rfl]
    | false =>
      have hlook : lookForData () socket = (.waiting (), socket) := by
        rw [lookForData, hreadable, if_neg Bool.false_ne_true]
      rw [awaitFrom_expired hlook (by simp)]
      exact hexpire now
  | cons item later ih =>
    obtain ⟨time, arrival⟩ := item
    cases hreadable : socket.isReadable with
    | true => rw [awaitFrom_look_at_once hreadable, Bool.true_or, if_pos rfl]
    | false =>
      have hlook : lookForData () socket = (.waiting (), socket) := by
        rw [lookForData, hreadable, if_neg Bool.false_ne_true]
      by_cases hwithin : within time (some limit) = true
      · rw [awaitFrom_waiting hlook hwithin, ih, Schedule.upTo_cons hwithin,
          Socket.isReadable_receive, hreadable]
        rfl
      · rw [awaitFrom_expired hlook (fun item hitem => Option.some.inj hitem ▸ hwithin),
          Schedule.upTo_late hwithin]
        exact hexpire now

/-- Looking for data ends well with a note. -/
theorem awaitFrom_look_ready :
    let result := awaitFrom lookForData deadline patience () socket now coming
    result.1 = .finished () → result.2.socket.isReadable = true := by
  have hexpire : ∀ {outcome : Outcome ConnectionError Unit} {now late : Nat},
      expire deadline patience now = (outcome, late) → outcome ≠ .finished () := by
    intro outcome now late hexpire
    have hnot := (expire_cases (α := Unit) deadline patience now).2 ()
    rwa [hexpire] at hnot
  fun_induction awaitFrom lookForData deadline patience () socket now coming with
  | case1 coming soFar socket now value s hlook =>
    rw [lookForData] at hlook
    split at hlook
    · next hreadable =>
      intro _ _
      show s.isReadable = true
      rwa [← (Prod.mk.inj hlook).2]
    · cases (Prod.mk.inj hlook).1
  | case2 coming soFar socket now e s hlook => exact fun hfinished => by cases hfinished
  | case3 soFar socket now more s hlook outcome late hlate =>
    exact fun hfinished => absurd hfinished (hexpire hlate)
  | case4 soFar socket now more s time arrival later hlook hwithin ih => exact ih
  | case5 soFar socket now more s time arrival later hlook hwithin outcome late hlate =>
    exact fun hfinished => absurd hfinished (hexpire hlate)

end Look

/-- **Waiting does to a line what time does.** -/
theorem waitData_sleep (l : Line) (timeout patience : Option Nat) :
    let later := (l.waitData timeout patience).2
    l.now ≤ later.now ∧ later = l.sleep (later.now - l.now) := by
  have hlook := awaitFrom_look (timeout.map (l.now + ·)) patience l.socket l.now l.coming
  rw [waitData, await]
  generalize awaitFrom lookForData (timeout.map (l.now + ·)) patience () l.socket l.now l.coming
    = result at hlook
  obtain ⟨past, hcoming, hsocket, hnow, hpast⟩ := hlook
  dsimp only
  rw [(ahead_settle _).2]
  refine ⟨hnow, ?_⟩
  rw [sleep, settle, settle, Nat.add_sub_cancel' hnow]
  dsimp only
  rw [hcoming, settleFrom_append _ _ hpast, hsocket]

/-- Waiting ends well with a note. -/
theorem waitData_ready {l : Line} {timeout patience : Option Nat}
    (h : (l.waitData timeout patience).1 = .finished ()) :
    (l.waitData timeout patience).2.socket.isReadable = true :=
  isReadable_settle (awaitFrom_look_ready h)

theorem ahead_sleep (l : Line) (duration : Nat) : (l.sleep duration).ahead = l.ahead :=
  (ahead_settle _).1

/-! ## A line in use -/

/-- A line, and whether its owner's last read of at least one byte was complete. -/
structure Owned where
  line : Line
  complete : Bool := false

namespace Owned

/-- What an owner does. -/
inductive Act where
  | read (n : Nat) (timeout patience : Option Nat)
  | readSegments (lengths : List Nat) (timeout patience : Option Nat)
  | waitData (timeout patience : Option Nat)
  /-- Ask whether the other end is there. -/
  | ask
  | sleep (duration : Nat)

/-- A read of `n` bytes has come to an end. -/
def afterRead {α : Type} (o : Owned) (n : Nat) (result : Outcome ConnectionError α × Line) :
    Owned :=
  ⟨result.2, if n = 0 then o.complete else result.1.isFinished⟩

/-- Do one thing. -/
def act (o : Owned) : Act → Owned
  | .read n timeout patience => o.afterRead n (o.line.read n timeout patience)
  | .readSegments lengths timeout patience =>
    o.afterRead lengths.sum (o.line.readSegments lengths timeout patience)
  | .waitData timeout patience => { o with line := (o.line.waitData timeout patience).2 }
  | .ask => { o with line := { o.line with socket := o.line.socket.peek.2 } }
  | .sleep duration => { o with line := o.line.sleep duration }

/-- A line that has just been opened, and what will arrive on it. -/
def start (coming : Schedule) : Owned := ⟨⟨{}, 0, coming⟩, false⟩

/-- Do one thing after the other. -/
def run (acts : List Act) (o : Owned) : Owned := acts.foldl act o

/-- The note of the line is worth what the owner remembers. -/
def Notes (o : Owned) : Prop := o.line.socket.Notes o.complete

variable {o : Owned}

theorem notes_start (coming : Schedule) : (start coming).Notes := fun _ => by
  simp [start]

theorem Notes.sleep (h : o.Notes) (duration : Nat) : (o.act (.sleep duration)).Notes :=
  notes_settle (l := { o.line with now := o.line.now + duration }) h

theorem Notes.act (h : o.Notes) (act : Act) : (o.act act).Notes := by
  cases act with
  | read n timeout patience => exact notes_read h n timeout patience
  | readSegments lengths timeout patience =>
    have hread := notes_read h lengths.sum timeout patience
    show Socket.Notes _ _
    rw [Owned.act, afterRead, readSegments_eq, Outcome.isFinished_map]
    exact hread
  | waitData timeout patience =>
    obtain ⟨-, hslept⟩ := o.line.waitData_sleep timeout patience
    show Socket.Notes _ _
    rw [Owned.act, hslept]
    exact h.sleep _
  | ask =>
    show (o.line.socket.peek.2).Notes o.complete
    rw [Socket.peek]
    split
    · exact h
    · split
      · exact h
      · exact h
  | sleep duration => exact h.sleep duration

theorem notes_run (acts : List Act) (h : o.Notes) : (run acts o).Notes := by
  induction acts generalizing o with
  | nil => exact h
  | cons act rest ih => exact ih (h.act act)

/-- The last read has taken the last byte there was, and nothing has come since: the note that is
left stands for nothing. -/
def Misled (o : Owned) : Prop :=
  o.complete = true ∧ o.line.socket.unread = [] ∧ o.line.socket.ended = false

instance : DecidablePred Misled := fun _ => inferInstanceAs (Decidable (_ ∧ _ ∧ _))

/-- A line says that it is readable if there are bytes or the end, or if its owner is misled. -/
theorem Notes.isReadable_iff (h : o.Notes) :
    o.line.socket.isReadable = true
      ↔ o.Misled ∨ o.line.socket.HasData := by
  rw [Socket.isReadable, Misled, Socket.HasData]
  cases hended : o.line.socket.ended with
  | true => simp
  | false =>
    rw [Bool.or_false, h hended]
    by_cases hunread : o.line.socket.unread = []
    · simp [hunread]
    · simp [hunread]

end Owned

/-- What is there by a limit is there already, or comes by then. -/
theorem hasDataBy_iff (l : Line) (limit : Option Nat) :
    l.thereBy limit ≠ [] ∨ l.endedBy limit = true
      ↔ l.socket.HasData ∨ (Schedule.upTo limit l.coming).isNews = true := by
  rw [thereBy, endedBy, Socket.HasData, Schedule.isNews_iff, ne_eq, List.append_eq_nil_iff,
    not_and_or, Bool.or_eq_true]
  exact or_or_or_comm

/-- Waiting with a timeout is over when the time is, at the latest. -/
theorem waitData_timed (l : Line) (t : Nat) :
    let result := l.waitData (some t) none
    result.2.now ≤ l.now + t ∧ (result.1 = .failed .timedOut → result.2.now = l.now + t) := by
  have hlook : ∀ (soFar : Unit) (socket : Socket),
      (lookForData soFar socket).1 ≠ .failed .timedOut := by
    intro soFar socket
    rw [lookForData]
    split <;> simp
  have htimed := awaitFrom_timed lookForData hlook (Nat.le_add_right l.now t) () l.socket l.coming
  rw [waitData, await]
  dsimp only
  rw [(ahead_settle _).2]
  exact htimed.2

/-- **Waiting for data reports what is there, unless the last read was an exact fit.**  Whatever
arrives and whatever was done with the line before: waiting with a timeout ends well if a byte or
the end of the stream is there by then, and it is there at that moment; otherwise it fails when the
time is over.  The exception is an owner whose last read has taken the last byte: then waiting ends
well at once.  In any case waiting takes nothing, and leaves the line as the same time leaves it, so
that whatever is done with it next ends as it does without the wait. -/
theorem wait_reports (coming : Schedule) (acts : List Owned.Act) (t : Nat) :
    let o := Owned.run acts (.start coming)
    let l := o.line
    let limit := some (l.now + t)
    let result := l.waitData (some t) none
    result.1 = (if o.Misled ∨ l.thereBy limit ≠ [] ∨ l.endedBy limit = true then .finished ()
        else .failed .timedOut)
      ∧ (result.1 = .finished () →
        (o.Misled ∧ result.2.now = l.now) ∨ result.2.socket.HasData)
      ∧ (result.1 = .failed .timedOut → result.2.now = l.now + t)
      ∧ l.now ≤ result.2.now ∧ result.2.now ≤ l.now + t
      ∧ result.2 = l.sleep (result.2.now - l.now) ∧ result.2.ahead = l.ahead := by
  intro o l limit result
  have hnotes : o.Notes := Owned.notes_run acts (Owned.notes_start coming)
  obtain ⟨hbegun, hslept⟩ := l.waitData_sleep (some t) none
  obtain ⟨hover, hlate⟩ := l.waitData_timed t
  have hverdict : result.1
      = if (l.socket.isReadable || (Schedule.upTo limit l.coming).isNews) = true then .finished ()
        else .failed .timedOut := awaitFrom_look_verdict
  refine ⟨?_, fun hfinished => ?_, hlate, hbegun, hover, hslept, ?_⟩
  · rw [hverdict]
    refine if_congr ?_ rfl rfl
    rw [Bool.or_eq_true, hnotes.isReadable_iff, hasDataBy_iff, or_assoc]
  · by_cases hmisled : o.Misled
    · have hreadable : l.socket.isReadable = true := hnotes.isReadable_iff.2 (.inl hmisled)
      refine .inl ⟨hmisled, ?_⟩
      show (l.waitData (some t) none).2.now = l.now
      rw [waitData, await, awaitFrom_look_at_once hreadable]
      exact (ahead_settle _).2
    · have hnotes' : (o.act (.waitData (some t) none)).Notes := hnotes.act _
      rcases hnotes'.isReadable_iff.1 (waitData_ready hfinished) with ⟨hcomplete, -, -⟩ | hdata
      · -- An owner who remembers a complete read without being misled had data before the wait.
        have hdata : l.socket.HasData := by
          by_contra hnone
          rw [Socket.HasData, not_or, not_not, Bool.not_eq_true] at hnone
          exact hmisled ⟨hcomplete, hnone⟩
        refine .inr ?_
        rw [hslept]
        exact hasData_settle (l := { l with now := _ }) hdata
      · exact .inr hdata
  · rw [hslept]
    exact l.ahead_sleep _

/-- Four bytes arrive and are read, and nothing else ever arrives: there is nothing to wait for, and
waiting ends well. -/
theorem ready_for_nothing :
    let l := (Owned.run [.read 4 none none] (.start [(0, .bytes [1, 2, 3, 4])])).line
    l.socket.unread = [] ∧ l.socket.ended = false ∧ l.coming = []
      ∧ (l.waitData (some 50) none).1 = .finished ()
      ∧ ¬ (l.waitData (some 50) none).2.socket.HasData := by
  refine ⟨rfl, rfl, rfl, rfl, ?_⟩
  rw [Socket.HasData]
  decide

end Line
end TokenBroker
