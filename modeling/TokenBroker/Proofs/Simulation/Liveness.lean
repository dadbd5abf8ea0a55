import Mathlib.Data.List.Induction
import Mathlib.Data.Option.Basic
import TokenBroker.Proofs.Simulation.Pipe
import TokenBroker.Proofs.Stream.Reset
/-!
# What an end knows of the other one

An end asks whether the other one is there by looking at what a read would find, and a read finds
bytes first, then a pending reset, then the end of the stream.

* `History` is what is done at both ends of a pipe, reads that are under way included.  `Does` says
  what a deed can be, and `follows_step` that all but closing leaves both ends as far from their end
  as they were.
* `Traced` is what is true of a pipe after any history, and `step_ask` what asking answers then.
* `Muted` are two pipes that differ in a pending reset, which is what asking may take away, and
  `Muted.step` says that they stay so until the reset is reported.  `Compared` carries that through
  a history in which somebody asks and the one in which nobody does.
* `alive_until_read` puts this together.  `alive_after_hang_up` is an end that takes the other one
  for alive, and one that does not learn of a reset because it has asked.
-/

set_option autoImplicit false

namespace TokenBroker

namespace Simulation

theorem Side.other_other (side : Side) : side.other.other = side := by cases side <;> rfl

theorem Side.other_ne (side : Side) : side.other ≠ side := by cases side <;> nofun

theorem Side.eq_or_other (side s : Side) : s = side ∨ s = side.other := by
  cases side <;> cases s <;> simp [other]

namespace Pipe

/-- What an operation on a connection comes to. -/
abbrev Answer := Outcome FrameError PipeReport

/-! ## What is done at the ends of a pipe -/

/-- What is done at an end. -/
inductive Deed where
  | act (action : PipeAction)
  /-- A read that is under way tries again to get its `n` bytes, some of which it has. -/
  | attempt (n : Nat) (soFar : Bytes)

/-- To ask whether the other end is there. -/
abbrev Deed.ask : Deed := .act .isAlive

/-- To close or drop the end. -/
abbrev Deed.close : Deed := .act .close

/-- Whether that is to ask for the other end. -/
def Deed.asks : Deed → Bool
  | .act .isAlive => true
  | _ => false

/-- What one attempt of a read reports. -/
def progress : Progress Bytes Bytes → Answer
  | .finished bytes => .finished (.read bytes)
  | .failed e => .failed (.connection e)
  | .waiting _ => .abandoned

/-- Do one thing at an end. -/
def step (limit : Nat) (p : Pipe) (side : Side) : Deed → Answer × Pipe
  | .act action => p.perform limit side action
  | .attempt n soFar => p.receive side fun l =>
    let result := l.socket.fill n soFar
    (progress result.1, { l with socket := result.2 })

/-- What is done at both ends, in order. -/
abbrev History := List (Side × Deed)

/-- The pipe after that. -/
def run (limit : Nat) (p : Pipe) (hs : History) : Pipe :=
  hs.foldl (fun p item => (p.step limit item.1 item.2).2) p

/-- What is answered to everything but to asking for the other end. -/
def heard (limit : Nat) (p : Pipe) : History → List Answer
  | [] => []
  | (side, deed) :: later =>
    let result := p.step limit side deed
    if deed.asks then heard limit result.2 later else result.1 :: heard limit result.2 later

/-- The history in which nobody asks for the other end. -/
def unasked (hs : History) : History := hs.filter fun item => !item.2.asks

/-- The bytes that are unread at an end that is open. -/
def unread (p : Pipe) (side : Side) : Bytes :=
  match p.get side with
  | none => []
  | some e => e.socket.unread

/-- Somebody closes an end at which there are unread bytes. -/
def LeavesBytes (limit : Nat) (hs : History) : Prop :=
  ∃ before side later, hs = before ++ (side, .close) :: later
    ∧ (run limit fresh before).unread side ≠ []

variable {limit : Nat} {p p' q q' : Pipe} {side s : Side} {e e' : PipeEnd} {deed : Deed}
  {hs hs' : History}

theorem run_append (limit : Nat) (p : Pipe) (hs hs' : History) :
    run limit p (hs ++ hs') = run limit (run limit p hs) hs' := List.foldl_append

theorem heard_append (limit : Nat) (p : Pipe) (hs hs' : History) :
    heard limit p (hs ++ hs') = heard limit p hs ++ heard limit (run limit p hs) hs' := by
  induction hs generalizing p with
  | nil => rfl
  | cons item later ih =>
    obtain ⟨side, deed⟩ := item
    rw [List.cons_append, heard, heard, ih]
    split
    · rfl
    · rfl

/-! ## Ends -/

theorem get_set (p : Pipe) (side : Side) (o : Option PipeEnd) (s : Side) :
    (p.set side o).get s = if s = side then o else p.get s := by
  cases side <;> cases s <;> rfl

theorem set_of_get {o : Option PipeEnd} (h : p.get side = o) : p.set side o = p := by
  subst h
  cases side <;> rfl

theorem set_set (p : Pipe) (side : Side) (o o' : Option PipeEnd) :
    (p.set side o).set side o' = p.set side o' := by
  cases side <;> rfl

theorem deliver_of_none (h : p.get side = none) (arrival : Arrival) :
    p.deliver side arrival = p := by
  rw [deliver, h]
  exact set_of_get h

/-- Both ends are open that were, with the same news of each other: neither has ended, and no reset
is pending that was not. -/
def Follows (p p' : Pipe) : Prop :=
  ∀ s, Option.Rel (fun e e' : PipeEnd => e'.socket.ended = e.socket.ended
    ∧ (e'.socket.reset = true → e.socket.reset = true)) (p.get s) (p'.get s)

theorem Follows.refl (p : Pipe) : p.Follows p := by
  intro s
  cases p.get s with
  | none => exact .none
  | some e => exact .some ⟨rfl, id⟩

theorem Follows.trans (h : p.Follows p') (h' : p'.Follows q) : p.Follows q := by
  intro s
  have hs := h s
  have hs' := h' s
  revert hs hs'
  generalize p.get s = a, p'.get s = b, q.get s = c
  intro hs hs'
  cases hs with
  | none => exact hs'
  | some hrel =>
    cases hs' with
    | some hrel' => exact .some ⟨hrel'.1.trans hrel.1, hrel.2 ∘ hrel'.2⟩

theorem Follows.set (hopen : p.get side = some e) (hended : e'.socket.ended = e.socket.ended)
    (hreset : e'.socket.reset = true → e.socket.reset = true) :
    p.Follows (p.set side (some e')) := by
  intro s
  rw [get_set]
  split
  · next heq =>
    rw [heq, hopen]
    exact .some ⟨hended, hreset⟩
  · exact Follows.refl p s

theorem follows_offer (p : Pipe) (side : Side) (n : Nat) : p.Follows (p.offer side n).2 := by
  rw [offer]
  split
  · exact .refl p
  · next e hopen => exact .set hopen rfl id

theorem follows_deliver (p : Pipe) (side : Side) (chunk : Bytes) :
    p.Follows (p.deliver side (.bytes chunk)) := by
  cases hopen : p.get side with
  | none =>
    rw [deliver_of_none hopen]
    exact .refl p
  | some e =>
    rw [deliver, hopen]
    exact .set hopen (e.socket.ended_receive_bytes chunk)
      (by rw [Socket.reset_receive_bytes]; exact id)

theorem follows_sendUpTo (p : Pipe) (side : Side) (size : Nat) (segments : Nat → List Bytes)
    (report : Nat → PipeReport) : p.Follows (p.sendUpTo side size segments report).2 := by
  rw [sendUpTo]
  split
  · exact .refl p
  · have hoffer := follows_offer p side.other size
    dsimp only
    split <;> exact hoffer.trans (follows_deliver _ _ _)

theorem follows_receive {operation : Line → Answer × Line}
    (hcalm : ∀ l : Line, l.coming = [] → l.Calm (operation l).2) (p : Pipe) (side : Side) :
    p.Follows (p.receive side operation).2 := by
  rw [receive]
  split
  · exact .refl p
  · next e hopen =>
    obtain ⟨-, hended, hreset⟩ := hcalm (still e.socket) rfl
    exact .set hopen hended hreset

theorem follows_ask (limit : Nat) (p : Pipe) (side : Side) :
    p.Follows (p.step limit side .ask).2 := by
  rw [step, perform]
  split
  · exact .refl p
  · next e hopen =>
    dsimp only
    rw [Socket.peek]
    split
    · exact .set hopen rfl id
    · split
      · exact .set hopen rfl fun h => by cases h
      · exact .set hopen rfl id

/-! ## What a deed can be -/

/-- An operation reads from a line: it does to a line on which nothing moves what reading does, and
meets a pending reset as reading does. -/
structure Reads (operation : Line → Answer × Line) : Prop where
  calm : ∀ l : Line, l.coming = [] → l.Calm (operation l).2
  parts : ∀ l : Line, l.coming = [] → l.socket.Cut →
    l.Parts (.connection .lost) (.connection .closed) (operation l) (operation l.muted)

/-- What a deed does at an end that is not to ask or to close: looking whether the end is open,
sending, or reading. -/
inductive Does (side : Side) : (Pipe → Answer × Pipe) → Prop
  | look (answer : Bool → Answer) : Does side fun p => (answer (p.get side).isSome, p)
  | send (size : Nat) (segments : Nat → List Bytes) (report : Nat → PipeReport) :
      Does side fun p => p.sendUpTo side size segments report
  | read {operation : Line → Answer × Line} (hreads : Reads operation) :
      Does side fun p => p.receive side operation

theorem reads_attempt (n : Nat) (soFar : Bytes) : Reads fun l =>
    (progress (l.socket.fill n soFar).1, { l with socket := (l.socket.fill n soFar).2 }) where
  calm l hl :=
    have hcalm := l.socket.fill_calm n soFar
    ⟨hl, hcalm.1, hcalm.2⟩
  parts l hl hcut := by
    rcases hcut.fill n soFar with ⟨bytes, hthere, hmuted⟩ | ⟨s, hlost, hover⟩
    · rw [Line.muted, hthere, hmuted]
      exact .alike _
    · rw [Line.muted, hlost, hover]
      exact .told _

/-- Each deed is one of these, or to ask, or to close. -/
theorem does (limit : Nat) (side : Side) (deed : Deed) :
    deed = .ask ∨ deed = .close
      ∨ ∃ f, Does side f ∧ ∀ p : Pipe, p.step limit side deed = f p := by
  cases deed with
  | attempt n soFar => exact .inr (.inr ⟨_, .read (reads_attempt n soFar), fun p => rfl⟩)
  | act action =>
    cases action with
    | write bytes =>
      simp only [step, perform]
      exact .inr (.inr ⟨_, .send _ _ _, fun p => rfl⟩)
    | writeSegments segments =>
      simp only [step, perform]
      exact .inr (.inr ⟨_, .send _ _ _, fun p => rfl⟩)
    | read n timeout =>
      simp only [step, perform]
      refine .inr (.inr ⟨_, .read ⟨fun l hl => l.calm_read hl n timeout _, fun l hl hcut => ?_⟩,
        fun p => rfl⟩)
      exact (Line.parts_read hcut hl n timeout _).map (lift .read) rfl rfl
    | readSegments lengths timeout =>
      simp only [step, perform]
      refine .inr (.inr ⟨_, .read ⟨fun l hl => ?_, fun l hl hcut => ?_⟩, fun p => rfl⟩)
      · rw [Line.readSegments_eq]
        exact l.calm_read hl lengths.sum timeout _
      · rw [Line.readSegments_eq, Line.readSegments_eq]
        exact (Line.parts_read hcut hl lengths.sum timeout _).map
          (fun outcome => lift .segments (outcome.map lengths.splitLengths)) rfl rfl
    | waitData timeout =>
      simp only [step, perform]
      refine .inr (.inr ⟨_, .read ⟨fun l hl => l.calm_waitData hl timeout _, fun l hl hcut => ?_⟩,
        fun p => rfl⟩)
      exact (Line.parts_waitData hcut hl timeout _).map (lift fun _ => .ready) rfl rfl
    | isAlive => exact .inl rfl
    | isOpen => exact .inr (.inr ⟨_, .look fun isOpen => .finished (.verdict isOpen), fun p => rfl⟩)
    | credentials =>
      refine .inr (.inr ⟨_, .look fun isOpen =>
        if isOpen then .finished .ownUser else .failed (.connection .notConnected), fun p => ?_⟩)
      rw [step, perform]
      cases p.get side <;> rfl
    | close => exact .inr (.inl rfl)
    | sendCommand id cmd payload =>
      simp only [step, perform]
      cases Frame.ofCommand limit id cmd payload with
      | error e => exact .inr (.inr ⟨_, .look fun _ => .failed e, fun p => rfl⟩)
      | ok frame => exact .inr (.inr ⟨_, .send _ _ _, fun p => rfl⟩)
    | sendResponse id result payload =>
      simp only [step, perform]
      cases Frame.ofResponse limit id result payload with
      | error e => exact .inr (.inr ⟨_, .look fun _ => .failed e, fun p => rfl⟩)
      | ok frame => exact .inr (.inr ⟨_, .send _ _ _, fun p => rfl⟩)
    | recvHeader timeout =>
      simp only [step, perform]
      refine .inr (.inr ⟨_, .read ⟨fun l hl => l.calm_read hl _ timeout _, fun l hl hcut => ?_⟩,
        fun p => rfl⟩)
      exact (Line.parts_read hcut hl _ timeout _).map
        (fun outcome => relabel .command (Frame.decoded CommandHeader.decode? outcome)) rfl rfl
    | recvResponse timeout =>
      simp only [step, perform]
      refine .inr (.inr ⟨_, .read ⟨fun l hl => l.calm_recvResponse hl timeout _ limit,
        fun l hl hcut => ?_⟩, fun p => rfl⟩)
      exact (Line.parts_recvResponse hcut hl timeout _ limit).map
        (relabel fun response => .response response.1 response.2) rfl rfl
    | recvPayload size timeout =>
      simp only [step, perform]
      cases Frame.payloadNeed limit size with
      | error e => exact .inr (.inr ⟨_, .look fun _ => .failed e, fun p => rfl⟩)
      | ok need =>
        cases need with
        | zero => exact .inr (.inr ⟨_, .look fun _ => .finished (.payload []), fun p => rfl⟩)
        | succ need =>
          refine .inr (.inr ⟨_, .read ⟨fun l hl => l.calm_recvPayload hl timeout _ limit size,
            fun l hl hcut => ?_⟩, fun p => rfl⟩)
          exact (Line.parts_recvPayload hcut hl timeout _ limit size).map (relabel .payload) rfl rfl

/-- Whatever is done but closing an end leaves both ends as far from their end as they were. -/
theorem follows_step (limit : Nat) (p : Pipe) (side : Side) (hclose : deed ≠ .close) :
    p.Follows (p.step limit side deed).2 := by
  obtain rfl | rfl | ⟨f, hdoes, hstep⟩ := does limit side deed
  · exact follows_ask limit p side
  · exact absurd rfl hclose
  · rw [hstep]
    cases hdoes with
    | look => exact .refl p
    | send size segments report => exact follows_sendUpTo p side size segments report
    | read hreads => exact follows_receive hreads.calm p side

theorem step_close (limit : Nat) (hopen : p.get side = some e) :
    (p.step limit side .close).2 = (p.set side none).deliver side.other e.socket.farewell := by
  rw [step, perform, hopen]

theorem step_close_of_none (limit : Nat) (hnone : p.get side = none) :
    (p.step limit side .close).2 = p := by
  rw [step, perform, hnone]

/-! ## What both ends go through -/

/-- What is true of a pipe after a history: an end is open as long as nobody closes it, it has ended
if the other one is not open, and a reset is pending only if somebody has left bytes unread. -/
structure Traced (limit : Nat) (hs : History) (p : Pipe) : Prop where
  closed : ∀ s, p.get s = none ↔ (s, .close) ∈ hs
  ended : ∀ s e, p.get s = some e → e.socket.ended = (p.get s.other).isNone
  reset : ∀ s e, p.get s = some e → e.socket.reset = true →
    e.socket.ended = true ∧ LeavesBytes limit hs

theorem LeavesBytes.append (h : LeavesBytes limit hs) (hs' : History) :
    LeavesBytes limit (hs ++ hs') := by
  obtain ⟨before, s, later, rfl, hunread⟩ := h
  exact ⟨before, s, later ++ hs', by simp, hunread⟩

theorem traced_nil (limit : Nat) : Traced limit [] fresh where
  closed s := by cases s <;> simp [fresh, get]
  ended s e hopen := by cases s <;> cases hopen <;> rfl
  reset s e hopen hreset := by cases s <;> cases hopen <;> cases hreset

theorem Traced.follows (h : Traced limit hs p) (hfollows : p.Follows p')
    (hclose : deed ≠ .close) : Traced limit (hs ++ [(side, deed)]) p' := by
  have hsome : ∀ s, p'.get s = none ↔ p.get s = none := by
    intro s
    have hs := hfollows s
    generalize p.get s = a, p'.get s = b at hs
    cases hs <;> simp
  have hback : ∀ s e', p'.get s = some e' → ∃ e, p.get s = some e
      ∧ e'.socket.ended = e.socket.ended ∧ (e'.socket.reset = true → e.socket.reset = true) := by
    intro s e' hopen
    have hs := hfollows s
    rw [hopen] at hs
    generalize p.get s = a at hs
    cases hs with
    | some hrel => exact ⟨_, rfl, hrel⟩
  refine ⟨fun s => ?_, fun s e' hopen => ?_, fun s e' hopen hreset' => ?_⟩
  · rw [hsome, h.closed, List.mem_append, List.mem_singleton]
    refine ⟨.inl, fun hmem => hmem.resolve_right fun heq => hclose (Prod.mk.inj heq).2.symm⟩
  · obtain ⟨e, hopen', hended, -⟩ := hback s e' hopen
    rw [hended, h.ended s e hopen', Bool.eq_iff_iff, Option.isNone_iff_eq_none,
      Option.isNone_iff_eq_none, hsome]
  · obtain ⟨e, hopen', hended, hreset⟩ := hback s e' hopen
    obtain ⟨hover, hleaves⟩ := h.reset s e hopen' (hreset hreset')
    exact ⟨hended.trans hover, hleaves.append _⟩

theorem Traced.close (h : Traced limit hs (run limit fresh hs)) (side : Side) :
    Traced limit (hs ++ [(side, .close)]) ((run limit fresh hs).step limit side .close).2 := by
  set p := run limit fresh hs with hp
  cases hopen : p.get side with
  | none =>
    rw [step_close_of_none limit hopen]
    refine ⟨fun s => ?_, h.ended, fun s e hopen' hreset => ?_⟩
    · rw [h.closed, List.mem_append, List.mem_singleton]
      refine ⟨.inl, fun hmem => hmem.elim id fun heq => ?_⟩
      rw [(Prod.mk.inj heq).1]
      exact (h.closed side).1 hopen
    · obtain ⟨hover, hleaves⟩ := h.reset s e hopen' hreset
      exact ⟨hover, hleaves.append _⟩
  | some e =>
    rw [step_close limit hopen]
    have hget : ∀ s, ((p.set side none).deliver side.other e.socket.farewell).get s
        = if s = side.other then
            (p.get s).map fun e' => { e' with socket := e'.socket.receive e.socket.farewell }
          else none := by
      intro s
      rw [deliver, get_set, get_set, get_set, if_neg side.other_ne]
      rcases side.eq_or_other s with rfl | rfl
      · rw [if_neg s.other_ne.symm, if_neg s.other_ne.symm, if_pos rfl]
      · rw [if_pos rfl, if_pos rfl]
    have hback : ∀ s e₁, ((p.set side none).deliver side.other e.socket.farewell).get s = some e₁ →
        s = side.other ∧ ∃ s' : Socket, e₁.socket = s'.receive e.socket.farewell := by
      intro s e₁ hopen₁
      rw [hget] at hopen₁
      split at hopen₁
      · next heq =>
        obtain ⟨e', -, rfl⟩ := Option.map_eq_some_iff.1 hopen₁
        exact ⟨heq, e'.socket, rfl⟩
      · cases hopen₁
    refine ⟨fun s => ?_, fun s e₁ hopen₁ => ?_, fun s e₁ hopen₁ hreset => ?_⟩
    · rw [hget, List.mem_append, List.mem_singleton]
      rcases side.eq_or_other s with rfl | rfl
      · rw [if_neg s.other_ne.symm]
        exact iff_of_true rfl (.inr rfl)
      · rw [if_pos rfl, Option.map_eq_none_iff, h.closed]
        refine ⟨.inl, fun hmem => hmem.resolve_right fun heq => ?_⟩
        exact side.other_ne (Prod.mk.inj heq).1
    · obtain ⟨rfl, e', hsocket⟩ := hback s e₁ hopen₁
      rw [hsocket, Side.other_other, hget, if_neg side.other_ne.symm]
      rfl
    · obtain ⟨rfl, e', hsocket⟩ := hback s e₁ hopen₁
      rw [hsocket] at hreset ⊢
      have hunread : p.unread side ≠ [] := by
        intro hnil
        rw [unread, hopen] at hnil
        have hnone : e.socket.farewell = .hangUp false := by
          rw [Socket.farewell, show e.socket.unread = [] from hnil]
          rfl
        rw [hnone] at hreset
        cases hreset
      exact ⟨rfl, hs, side, [], rfl, hunread⟩

theorem traced (limit : Nat) (hs : History) : Traced limit hs (run limit fresh hs) := by
  induction hs using List.reverseRecOn with
  | nil => exact traced_nil limit
  | append_singleton hs item ih =>
    obtain ⟨side, deed⟩ := item
    rw [run_append]
    show Traced limit _ ((run limit fresh hs).step limit side deed).2
    by_cases hclose : deed = .close
    · subst hclose
      exact ih.close side
    · exact ih.follows (follows_step limit _ side hclose) hclose

/-! ## What asking tells -/

/-- Asking answers that the other end is there if there are bytes to read, or if the stream has not
ended. -/
theorem step_ask (limit : Nat) (htraced : Traced limit hs p) (side : Side) :
    ∃ alive, (p.step limit side .ask).1 = .finished (.verdict alive)
      ∧ (alive = false ↔ p.get side = none ∨ (p.get side.other = none ∧ p.unread side = [])) := by
  rw [step, perform]
  cases hopen : p.get side with
  | none => exact ⟨false, rfl, by simp⟩
  | some e =>
    refine ⟨e.socket.peek.1, rfl, ?_⟩
    have hended := htraced.ended side e hopen
    have hother : p.get side.other = none ↔ e.socket.ended = true := by
      rw [hended, Option.isNone_iff_eq_none]
    rw [hother, unread, hopen, Socket.peek]
    by_cases hunread : e.socket.unread = []
    · cases hreset : e.socket.reset with
      | true => simp [hunread, (htraced.reset side e hopen hreset).1]
      | false => simp [hunread]
    · simp [hunread]

/-! ## What asking changes -/

/-- Two pipes that differ only in that a reset is pending at one end of the first. -/
def Muted (side : Side) (q p : Pipe) : Prop :=
  ∃ e, q.get side = some e ∧ q.get side.other = none ∧ e.socket.Cut
    ∧ p = q.set side (some { e with socket := e.socket.muted })

/-- The other end is gone, and no reset is pending at this one. -/
def Spent (side : Side) (p : Pipe) : Prop :=
  p.get side.other = none ∧ ∀ e, p.get side = some e → e.socket.reset = false

/-- What is done on two such pipes comes to the same, but for the reset, and that once. -/
inductive Differ (side : Side) : Answer × Pipe → Answer × Pipe → Prop
  | same (result : Answer × Pipe) : Differ side result result
  | alike (answer : Answer) {q p : Pipe} :
      Muted side q p → Differ side (answer, q) (answer, p)
  | told (p : Pipe) : Differ side (.failed (.connection .lost), p)
      (.failed (.connection .closed), p)

theorem Muted.spent (h : Muted side q p) : Spent side p := by
  obtain ⟨e, hopen, halone, hcut, rfl⟩ := h
  refine ⟨by rw [get_set, if_neg side.other_ne, halone], fun e' hopen' => ?_⟩
  rw [get_set, if_pos rfl] at hopen'
  rw [← Option.some.inj hopen']
  rfl

/-- Asking changes nothing where no reset is pending. -/
theorem ask_unchanged (limit : Nat) (hreset : ∀ e, p.get s = some e → e.socket.reset = false) :
    (p.step limit s .ask).2 = p := by
  rw [step, perform]
  cases hopen : p.get s with
  | none => rfl
  | some e =>
    have hpeek : e.socket.peek.2 = e.socket := by
      rw [Socket.peek, hreset e hopen]
      split
      · rfl
      · rfl
    dsimp only
    rw [hpeek]
    exact set_of_get hopen

theorem Spent.ask (h : Spent side p) (limit : Nat) (s : Side) : (p.step limit s .ask).2 = p := by
  refine ask_unchanged limit fun e hopen => ?_
  rcases side.eq_or_other s with rfl | rfl
  · exact h.2 e hopen
  · rw [h.1] at hopen
    cases hopen

/-- Asking changes nothing, or mutes a reset that is pending because somebody has left bytes
unread. -/
theorem ask_cases (htraced : Traced limit hs p) (s : Side) :
    (p.step limit s .ask).2 = p
      ∨ (Muted s p (p.step limit s .ask).2 ∧ LeavesBytes limit hs) := by
  by_cases hpending : ∃ e, p.get s = some e ∧ e.socket.unread = [] ∧ e.socket.reset = true
  · obtain ⟨e, hopen, hunread, hreset⟩ := hpending
    obtain ⟨hended, hleaves⟩ := htraced.reset s e hopen hreset
    have halone : p.get s.other = none := by
      rw [← Option.isNone_iff_eq_none, ← htraced.ended s e hopen, hended]
    refine .inr ⟨⟨e, hopen, halone, ⟨hunread, hended, hreset⟩, ?_⟩, hleaves⟩
    have hpeek : e.socket.peek.2 = e.socket.muted := by
      rw [Socket.peek, if_neg (by simp [hunread]), if_pos hreset]
      rfl
    rw [step, perform, hopen]
    dsimp only
    rw [hpeek]
  · refine .inl ?_
    rw [step, perform]
    cases hopen : p.get s with
    | none => rfl
    | some e =>
      have hpeek : e.socket.peek.2 = e.socket := by
        rw [Socket.peek]
        split
        · rfl
        · next hunread =>
          split
          · next hreset => exact absurd ⟨e, hopen, by simpa using hunread, hreset⟩ hpending
          · rfl
      dsimp only
      rw [hpeek]
      exact set_of_get hopen

/-- Nothing happens at an end that is closed. -/
theorem step_of_none (limit : Nat) (s : Side) (deed : Deed) :
    ∃ answer, ∀ p : Pipe, p.get s = none → p.step limit s deed = (answer, p) := by
  obtain rfl | rfl | ⟨f, hdoes, hstep⟩ := does limit s deed
  · exact ⟨_, fun p hnone => by rw [step, perform, hnone]⟩
  · exact ⟨_, fun p hnone => by rw [step, perform, hnone]⟩
  · simp only [hstep]
    cases hdoes with
    | look answer => exact ⟨answer false, fun p hnone => by simp only [hnone, Option.isSome_none]⟩
    | send =>
      exact ⟨.failed (.connection .notConnected), fun p hnone => by simp only [sendUpTo, hnone]⟩
    | read =>
      exact ⟨.failed (.connection .notConnected), fun p hnone => by simp only [receive, hnone]⟩

/-- What is sent to an end that is closed gets nowhere, and how that ends depends on nothing but the
writer's knowing it. -/
theorem sendUpTo_alone (side : Side) (gone : Bool) (size : Nat) (segments : Nat → List Bytes)
    (report : Nat → PipeReport) : ∃ answer, ∀ (p : Pipe) (e : PipeEnd), p.get side = some e →
      p.get side.other = none → e.socket.gone = gone →
        p.sendUpTo side size segments report = (answer, p) := by
  obtain ⟨⟨ending, bytes⟩, hwritten⟩ : ∃ written, ∀ socket : Socket, socket.gone = gone →
      ((still socket).write (segments 0) []) = written := ⟨_, fun socket hgone => by
    rw [Line.write, still]
    dsimp only
    rw [hgone]⟩
  have hoffer : ∀ p : Pipe, p.get side.other = none → p.offer side.other size = (0, p) :=
    fun p halone => by rw [offer, halone]
  cases ending with
  | complete n =>
    refine ⟨.finished (report n), fun p e hopen halone hgone => ?_⟩
    simp only [sendUpTo, hopen, hoffer p halone, if_pos, hwritten e.socket hgone,
      deliver_of_none halone]
  | failed error =>
    refine ⟨.failed (.connection error), fun p e hopen halone hgone => ?_⟩
    simp only [sendUpTo, hopen, hoffer p halone, if_pos, hwritten e.socket hgone,
      deliver_of_none halone]
  | blocked n =>
    refine ⟨.abandoned, fun p e hopen halone hgone => ?_⟩
    simp only [sendUpTo, hopen, hoffer p halone, if_pos, hwritten e.socket hgone,
      deliver_of_none halone]

theorem Muted.receive (h : Muted side q p) {operation : Line → Answer × Line}
    (hreads : Reads operation) :
    Differ side (q.receive side operation) (p.receive side operation) := by
  obtain ⟨e, hopen, halone, hcut, rfl⟩ := h
  have hparts := hreads.parts (still e.socket) rfl hcut
  have hmuted : (still e.socket).muted = still e.socket.muted := rfl
  rw [Pipe.receive, Pipe.receive, hopen, get_set, if_pos rfl]
  dsimp only
  rw [hmuted] at hparts
  generalize operation (still e.socket) = result at hparts
  generalize operation (still e.socket.muted) = result' at hparts
  have hconsumed : e.socket.muted.unread = e.socket.unread := rfl
  rw [set_set, hconsumed]
  cases hparts with
  | told l => exact .told _
  | alike answer =>
    refine .alike answer ⟨⟨e.socket, e.incoming.consume (e.socket.unread.length
      - e.socket.unread.length)⟩, (get_set _ _ _ _).trans (if_pos rfl), ?_, hcut, ?_⟩
    · rw [get_set, if_neg side.other_ne, halone]
    · rw [set_set]
      rfl

/-- **What is done where a reset is pending and where it is not comes to the same, but for the
reset.** -/
theorem Muted.step (h : Muted side q p) (limit : Nat) (s : Side) (hask : deed ≠ .ask) :
    Differ side (q.step limit s deed) (p.step limit s deed) := by
  obtain ⟨e, hopen, halone, hcut, hp⟩ := id h
  rcases side.eq_or_other s with rfl | rfl
  · have hopen' : p.get s = some { e with socket := e.socket.muted } := by
      rw [hp, get_set, if_pos rfl]
    have halone' : p.get s.other = none := h.spent.1
    obtain rfl | rfl | ⟨f, hdoes, hstep⟩ := does limit s deed
    · exact absurd rfl hask
    · have hclosed : ∀ (p : Pipe) (e : PipeEnd), p.get s = some e → p.get s.other = none →
          p.step limit s .close = (.finished .done, p.set s none) := by
        intro p e hopen halone
        rw [Pipe.step, perform, hopen]
        dsimp only
        rw [deliver_of_none]
        rw [get_set, if_neg s.other_ne, halone]
      rw [hclosed q e hopen halone, hclosed p _ hopen' halone', hp, set_set]
      exact .same _
    · simp only [hstep]
      cases hdoes with
      | look answer =>
        simp only [hopen, hopen', Option.isSome_some]
        exact .alike _ h
      | send size segments report =>
        obtain ⟨answer, hsend⟩ := sendUpTo_alone s e.socket.gone size segments report
        simp only [hsend q e hopen halone rfl, hsend p _ hopen' halone' rfl]
        exact .alike _ h
      | read hreads => exact h.receive hreads
  · obtain ⟨answer, hanswer⟩ := step_of_none limit side.other deed
    rw [hanswer q halone, hanswer p h.spent.1]
    exact .alike _ h

theorem Spent.step (h : Spent side p) (limit : Nat) (s : Side) (deed : Deed) :
    Spent side (p.step limit s deed).2 := by
  obtain ⟨halone, hreset⟩ := h
  by_cases hclose : deed = .close
  · subst hclose
    cases hopen : p.get s with
    | none =>
      rw [step_close_of_none limit hopen]
      exact ⟨halone, hreset⟩
    | some e =>
      obtain rfl : s = side := (side.eq_or_other s).resolve_right fun heq => by
        rw [heq, halone] at hopen
        cases hopen
      have halone' : (p.set s none).get s.other = none := by
        rw [get_set, if_neg s.other_ne, halone]
      rw [step_close limit hopen, deliver_of_none halone']
      refine ⟨halone', fun e' hopen' => ?_⟩
      rw [get_set, if_pos rfl] at hopen'
      cases hopen'
  · have hfollows := follows_step limit p s hclose
    have hother := hfollows side.other
    rw [halone] at hother
    refine ⟨?_, fun e' hopen' => ?_⟩
    · generalize (p.step limit s deed).2.get side.other = o at hother
      cases hother
      rfl
    · have hside := hfollows side
      rw [hopen'] at hside
      cases hopen : p.get side with
      | none =>
        rw [hopen] at hside
        cases hside
      | some e =>
        rw [hopen] at hside
        cases hside with
        | some hrel =>
          rw [← Bool.not_eq_true]
          intro hreset'
          have hpending := hrel.2 hreset'
          rw [hreset e hopen] at hpending
          cases hpending

/-! ## Asking and not asking -/

/-- How a pipe at which somebody asks compares with one at which nobody does, and the answers to
everything else: they are the same, or a reset is pending at the other one only, or such a reset was
reported there as the end is here. -/
inductive Compared (limit : Nat) (hs : History) (q p : Pipe) (without kept : List Answer) : Prop
  | same (hsame : q = p) (hheard : without = kept)
  | muted {side : Side} (hmuted : Muted side q p) (hleaves : LeavesBytes limit hs)
      (hheard : without = kept)
  | told {side : Side} (hsame : q = p) (hspent : Spent side p) (hleaves : LeavesBytes limit hs)
      {before after : List Answer}
      (hwithout : without = before ++ .failed (.connection .lost) :: after)
      (hkept : kept = before ++ .failed (.connection .closed) :: after)

theorem Compared.ask {without kept : List Answer}
    (h : Compared limit hs q (run limit fresh hs) without kept) (s : Side) :
    Compared limit (hs ++ [(s, .ask)]) q ((run limit fresh hs).step limit s .ask).2 without
      kept := by
  cases h with
  | same hsame hheard =>
    subst hsame
    rcases ask_cases (traced limit hs) s with hunchanged | ⟨hmuted, hleaves⟩
    · exact .same hunchanged.symm hheard
    · exact .muted hmuted (hleaves.append _) hheard
  | muted hmuted hleaves hheard =>
    rw [hmuted.spent.ask]
    exact .muted hmuted (hleaves.append _) hheard
  | told hsame hspent hleaves hwithout hkept =>
    rw [hspent.ask]
    exact .told hsame hspent (hleaves.append _) hwithout hkept

theorem Compared.step {without kept : List Answer} (h : Compared limit hs q p without kept)
    (s : Side) (hask : deed ≠ .ask) :
    Compared limit (hs ++ [(s, deed)]) (q.step limit s deed).2 (p.step limit s deed).2
      (without ++ [(q.step limit s deed).1]) (kept ++ [(p.step limit s deed).1]) := by
  cases h with
  | same hsame hheard =>
    subst hsame hheard
    exact .same rfl rfl
  | told hsame hspent hleaves hwithout hkept =>
    subst hsame hwithout hkept
    rw [List.append_assoc, List.append_assoc, List.cons_append, List.cons_append]
    exact .told rfl (hspent.step limit s deed) (hleaves.append _) rfl rfl
  | @muted side hmuted hleaves hheard =>
    subst hheard
    have hdiffer := hmuted.step limit s hask
    have hspent := hmuted.spent.step limit s deed
    generalize q.step limit s deed = result at hdiffer
    generalize p.step limit s deed = result' at hdiffer hspent
    cases hdiffer with
    | same result => exact .same rfl rfl
    | alike answer hmuted' => exact .muted hmuted' (hleaves.append _) rfl
    | told p => exact .told rfl hspent (hleaves.append _) rfl rfl

theorem asks_iff : deed.asks = true ↔ deed = .ask := by
  cases deed with
  | attempt => simp [Deed.asks]
  | act action => cases action <;> simp [Deed.asks]

theorem unasked_append (hs hs' : History) : unasked (hs ++ hs') = unasked hs ++ unasked hs' :=
  List.filter_append _ _

theorem compared (limit : Nat) (hs : History) :
    Compared limit hs (run limit fresh (unasked hs)) (run limit fresh hs)
      (heard limit fresh (unasked hs)) (heard limit fresh hs) := by
  induction hs using List.reverseRecOn with
  | nil => exact .same rfl rfl
  | append_singleton hs item ih =>
    obtain ⟨s, deed⟩ := item
    rw [unasked_append, run_append, run_append, heard_append, heard_append]
    by_cases hask : deed = .ask
    · subst hask
      have hnone : unasked [(s, .ask)] = [] := rfl
      have hsilent : ∀ p, heard limit p [(s, .ask)] = [] := fun p => rfl
      rw [hnone, hsilent, heard, List.append_nil, List.append_nil]
      exact ih.ask s
    · have hasks : deed.asks = false := by
        rw [← Bool.not_eq_true, asks_iff]
        exact hask
      have hone : ∀ p, heard limit p [(s, deed)] = [(p.step limit s deed).1] := fun p => by
        rw [heard, hasks]
        rfl
      have hkept : unasked [(s, deed)] = [(s, deed)] := by simp [unasked, hasks]
      rw [hkept, hone, hone]
      exact ih.step s hask

/-- **Whoever asks is told that the other end is there as long as it is open, and while there are
bytes to read.**  Whatever was done at both ends: the answer is that nobody is there exactly if the
end itself was closed, or if the other end was and all that it has sent is read.  And whatever is
done, answers are the same without asking, with one exception: where somebody has closed an end
without reading all of it, the reset that the other end would be told of once may be reported as the
end of the stream. -/
theorem alive_until_read (limit : Nat) (hs : History) (side : Side) :
    (∃ alive, ((run limit fresh hs).step limit side .ask).1 = .finished (.verdict alive)
        ∧ (alive = false ↔ (side, .close) ∈ hs
          ∨ ((side.other, .close) ∈ hs ∧ (run limit fresh hs).unread side = [])))
      ∧ (heard limit fresh hs = heard limit fresh (unasked hs)
        ∨ LeavesBytes limit hs ∧ ∃ before after,
          heard limit fresh (unasked hs) = before ++ .failed (.connection .lost) :: after
            ∧ heard limit fresh hs = before ++ .failed (.connection .closed) :: after) := by
  have htraced := traced limit hs
  refine ⟨?_, ?_⟩
  · obtain ⟨alive, hanswer, hverdict⟩ := step_ask limit htraced side
    exact ⟨alive, hanswer, by rw [hverdict, htraced.closed, htraced.closed]⟩
  · cases compared limit hs with
    | same _ hheard => exact .inl hheard.symm
    | muted _ _ hheard => exact .inl hheard.symm
    | told _ _ hleaves hwithout hkept => exact .inr ⟨hleaves, _, _, hwithout, hkept⟩

/-! ### A byte that is not read -/

/-- One byte is on its way to the left end. -/
def oneByte : Pipe :=
  ⟨some ⟨{ unread := [1], noted := true }, { chunks := [⟨1, Chunk.roomFor 1⟩] }⟩, some {}⟩

theorem write_oneByte :
    fresh.step 65536 .right (.act (.write [1])) = (.finished (.wrote 1), oneByte) := by
  have hroom : ¬ Buffer.capacity ≤ ({} : Buffer).taken := by decide
  have hfill : ({} : Buffer).offer 1 = (1, { chunks := [⟨1, Chunk.roomFor 1⟩] }) := by
    rw [Buffer.offer, if_neg Bool.false_ne_true, Buffer.fill, dif_neg Nat.one_ne_zero,
      if_neg hroom]
    dsimp only
    rw [show 1 - min 1 Chunk.maxSize = 0 from rfl, Buffer.fill, dif_pos rfl]
    rfl
  have hoffer : fresh.offer .left 1
      = (1, fresh.set .left (some ⟨{}, { chunks := [⟨1, Chunk.roomFor 1⟩] }⟩)) := by
    rw [offer, show fresh.get .left = some {} from rfl]
    dsimp only
    rw [hfill]
  rw [step, perform, send, sendUpTo, show fresh.get .right = some {} from rfl]
  dsimp only
  rw [show Segments.size [[1]] = 1 from rfl, show Side.other .right = .left from rfl, hoffer]
  rfl

/-- The right end is closed, and the left end is told that it is there.  And if the left end is
closed without reading the byte, the right end is told of it by the next read, unless it asks. -/
theorem alive_after_hang_up :
    ((run 65536 fresh [(.right, .act (.write [1])), (.right, .close)]).step 65536 .left .ask).1
        = .finished (.verdict true)
      ∧ heard 65536 fresh [(.right, .act (.write [1])), (.left, .close),
          (.right, .act (.read 1 none))]
        = [.finished (.wrote 1), .finished .done, .failed (.connection .lost)]
      ∧ heard 65536 fresh [(.right, .act (.write [1])), (.left, .close), (.right, .ask),
          (.right, .act (.read 1 none))]
        = [.finished (.wrote 1), .finished .done, .failed (.connection .closed)] := by
  refine ⟨?_, ?_, ?_⟩
  · rw [run, List.foldl_cons, write_oneByte]
    rfl
  · rw [heard, write_oneByte]
    rfl
  · rw [heard, write_oneByte]
    rfl

end Pipe
end Simulation
end TokenBroker
