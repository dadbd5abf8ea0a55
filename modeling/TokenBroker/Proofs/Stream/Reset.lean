import TokenBroker.Frame.Codec
import TokenBroker.Proofs.Stream.Scatter
/-!
# Reading where nothing moves

What reading does to a line on which nothing more arrives, be it of bytes, of segments or of frames,
and how a reset that is pending there comes to light.

* `Line.Calm` is all that reading can do to the end of such a line: it neither ends it nor adds a
  reset.
* `Socket.Cut` is a socket at which nothing but a pending reset is left.  `Line.Parts` compares an
  operation there with the same operation where the reset is not pending, and `Line.parts_read` and
  its companions say that they part by that reset only.
-/

set_option autoImplicit false

namespace TokenBroker

/-! ## Lines on which nothing moves -/

theorem Socket.fill_calm (s : Socket) (n : Nat) (soFar : Bytes) :
    (s.fill n soFar).2.ended = s.ended
      ∧ ((s.fill n soFar).2.reset = true → s.reset = true) := by
  rw [fill]
  split
  · exact ⟨rfl, id⟩
  · rw [drained]
    split
    · exact ⟨rfl, fun h => by cases h⟩
    · split <;> exact ⟨rfl, id⟩

/-- Everything has been read, the other end is gone and has left bytes unread, and the next read
will say so. -/
structure Socket.Cut (s : Socket) : Prop where
  unread : s.unread = []
  ended : s.ended = true
  reset : s.reset = true

/-- The socket without the reset that is pending. -/
def Socket.muted (s : Socket) : Socket := { s with reset := false }

/-- What a read reports once if the other end has left bytes unread. -/
def ConnectionError.lost : ConnectionError := .io (.os .connectionReset)

/-- A read that needs no more is complete; any other fails, with the reset or with the end. -/
theorem Socket.Cut.fill {s : Socket} (hcut : s.Cut) (n : Nat) (soFar : Bytes) :
    (∃ bytes, s.fill n soFar = (.finished bytes, s)
        ∧ s.muted.fill n soFar = (.finished bytes, s.muted))
      ∨ ∃ s', s.fill n soFar = (.failed .lost, s')
        ∧ s.muted.fill n soFar = (.failed .closed, s') := by
  obtain ⟨unread, ended, gone, reset, noted⟩ := s
  obtain ⟨rfl, rfl, rfl⟩ : unread = [] ∧ ended = true ∧ reset = true :=
    ⟨hcut.unread, hcut.ended, hcut.reset⟩
  by_cases henough : n - soFar.length ≤ ([] : Bytes).length
  · refine .inl ⟨soFar ++ ([] : Bytes).take (n - soFar.length), ?_, ?_⟩
    · rw [Socket.fill, if_pos henough, List.drop_nil]
    · rw [Socket.fill, muted, if_pos henough, List.drop_nil]
  · refine .inr ⟨⟨[], true, gone, false, false⟩, ?_, ?_⟩
    · rw [Socket.fill, if_neg henough]
      rfl
    · rw [Socket.fill, muted, if_neg henough]
      rfl

namespace Line

variable {l l' l'' : Line}

/-- A line on which nothing arrives has only been read from: it has ended exactly if it had, and no
reset is pending that was not. -/
structure Calm (l l' : Line) : Prop where
  coming : l'.coming = []
  ended : l'.socket.ended = l.socket.ended
  reset : l'.socket.reset = true → l.socket.reset = true

theorem Calm.refl (hl : l.coming = []) : l.Calm l := ⟨hl, rfl, id⟩

theorem Calm.trans (h : l.Calm l') (h' : l'.Calm l'') : l.Calm l'' :=
  ⟨h'.coming, h'.ended.trans h.ended, h.reset ∘ h'.reset⟩

/-- Where nothing arrives, waiting is a single attempt. -/
theorem await_still {ρ α : Type} (hl : l.coming = []) (attempt : ρ → Socket → Progress ρ α × Socket)
    (start : ρ) (timeout patience : Option Nat) :
    ∃ late, (l.await attempt start timeout patience).2
      = ⟨(attempt start l.socket).2, late, []⟩ := by
  obtain ⟨socket, now, coming⟩ := l
  obtain rfl : coming = [] := hl
  rw [await, awaitFrom.eq_def]
  cases attempt start socket with
  | mk progress s => cases progress <;> exact ⟨_, rfl⟩

theorem calm_read (hl : l.coming = []) (n : Nat) (timeout patience : Option Nat) :
    l.Calm (l.read n timeout patience).2 := by
  obtain ⟨late, hread⟩ :=
    await_still hl (fun soFar socket => socket.fill n soFar) [] timeout patience
  obtain ⟨hended, hreset⟩ := l.socket.fill_calm n []
  rw [read, hread]
  exact ⟨rfl, hended, hreset⟩

theorem calm_waitData (hl : l.coming = []) (timeout patience : Option Nat) :
    l.Calm (l.waitData timeout patience).2 := by
  obtain ⟨late, hwait⟩ := await_still hl lookForData () timeout patience
  rw [waitData, hwait, lookForData]
  split <;> exact ⟨rfl, rfl, id⟩

theorem calm_recvPayload (hl : l.coming = []) (timeout patience : Option Nat) (limit : Nat)
    (size : UInt32) : l.Calm (Frame.recvPayload (reader timeout patience) limit size l).2 := by
  rw [Frame.recvPayload]
  split
  · exact .refl hl
  · exact .refl hl
  · exact calm_read hl _ timeout patience

theorem calm_recvResponse (hl : l.coming = []) (timeout patience : Option Nat) (limit : Nat) :
    l.Calm (Frame.recvResponse (reader timeout patience) limit l).2 := by
  have hheader : l.Calm (Frame.recvResponseHeader (reader timeout patience) l).2 :=
    calm_read hl Header.size timeout patience
  rw [Frame.recvResponse]
  cases hrecv : Frame.recvResponseHeader (reader timeout patience) l with
  | mk outcome l₁ =>
    rw [hrecv] at hheader
    cases outcome with
    | failed e => exact hheader
    | abandoned => exact hheader
    | finished header =>
      have hpayload := calm_recvPayload hheader.coming timeout patience limit header.dataSize
      dsimp only
      cases hrecv' : Frame.recvPayload (reader timeout patience) limit header.dataSize l₁ with
      | mk outcome' l₂ =>
        rw [hrecv'] at hpayload
        cases outcome' <;> exact hheader.trans hpayload

/-! ## Lines on which a reset is pending -/

/-- The line without the reset that is pending. -/
def muted (l : Line) : Line := { l with socket := l.socket.muted }

/-- What an operation does on a line where a reset is pending and where it is not: either it takes
nothing and reports the same, or it reports the reset where the other one reports the end, and there
is no difference any more. -/
inductive Parts {ε α : Type} (lost done : ε) (l : Line) :
    Outcome ε α × Line → Outcome ε α × Line → Prop
  | alike (outcome : Outcome ε α) : Parts lost done l (outcome, l) (outcome, l.muted)
  | told (l' : Line) : Parts lost done l (.failed lost, l') (.failed done, l')

theorem Parts.map {ε ε' α β : Type} {lost done : ε} {lost' done' : ε'}
    {result result' : Outcome ε α × Line} (h : Parts lost done l result result')
    (f : Outcome ε α → Outcome ε' β) (hlost : f (.failed lost) = .failed lost')
    (hdone : f (.failed done) = .failed done') :
    Parts lost' done' l (f result.1, result.2) (f result'.1, result'.2) := by
  cases h with
  | alike outcome => exact .alike (f outcome)
  | told l' =>
    rw [hlost, hdone]
    exact .told l'

theorem parts_await {ρ α : Type} (hl : l.coming = [])
    {attempt : ρ → Socket → Progress ρ α × Socket} {start : ρ}
    (hattempt : (∃ value, attempt start l.socket = (.finished value, l.socket)
        ∧ attempt start l.socket.muted = (.finished value, l.socket.muted))
      ∨ ∃ s, attempt start l.socket = (.failed .lost, s)
        ∧ attempt start l.socket.muted = (.failed .closed, s)) (timeout patience : Option Nat) :
    Parts .lost .closed l (l.await attempt start timeout patience)
      (l.muted.await attempt start timeout patience) := by
  obtain ⟨socket, now, coming⟩ := l
  obtain rfl : coming = [] := hl
  rcases hattempt with ⟨value, hthere, hmuted⟩ | ⟨s, hlost, hover⟩
  · rw [await, await, awaitFrom_finished hthere, muted, awaitFrom_finished hmuted]
    exact .alike _
  · rw [await, await, awaitFrom_failed hlost, muted, awaitFrom_failed hover]
    exact .told _

theorem parts_read (hcut : l.socket.Cut) (hl : l.coming = []) (n : Nat)
    (timeout patience : Option Nat) :
    Parts .lost .closed l (l.read n timeout patience) (l.muted.read n timeout patience) :=
  parts_await hl (hcut.fill n []) timeout patience

theorem parts_waitData (hcut : l.socket.Cut) (hl : l.coming = []) (timeout patience : Option Nat) :
    Parts .lost .closed l (l.waitData timeout patience) (l.muted.waitData timeout patience) := by
  have hlook : ∀ s : Socket, s.ended = true → lookForData () s = (.finished (), s) := by
    intro s hended
    rw [lookForData, Socket.isReadable, hended, Bool.or_true, if_pos rfl]
  exact parts_await hl (.inl ⟨(), hlook _ hcut.ended, hlook _ hcut.ended⟩) timeout patience

theorem parts_recvPayload (hcut : l.socket.Cut) (hl : l.coming = []) (timeout patience : Option Nat)
    (limit : Nat) (size : UInt32) :
    Parts (.connection .lost) (.connection .closed) l
      (Frame.recvPayload (reader timeout patience) limit size l)
      (Frame.recvPayload (reader timeout patience) limit size l.muted) := by
  rw [Frame.recvPayload, Frame.recvPayload]
  split
  · exact .alike _
  · exact .alike _
  · exact (parts_read hcut hl _ timeout patience).map (Frame.decoded some) rfl rfl

theorem parts_recvResponse (hcut : l.socket.Cut) (hl : l.coming = [])
    (timeout patience : Option Nat) (limit : Nat) :
    Parts (.connection .lost) (.connection .closed) l
      (Frame.recvResponse (reader timeout patience) limit l)
      (Frame.recvResponse (reader timeout patience) limit l.muted) := by
  have hheader : Parts (.connection .lost) (.connection .closed) l
      (Frame.recvResponseHeader (reader timeout patience) l)
      (Frame.recvResponseHeader (reader timeout patience) l.muted) :=
    (parts_read hcut hl Header.size timeout patience).map
      (Frame.decoded ResponseHeader.decode?) rfl rfl
  rw [Frame.recvResponse, Frame.recvResponse]
  generalize Frame.recvResponseHeader (reader timeout patience) l = result at hheader
  generalize Frame.recvResponseHeader (reader timeout patience) l.muted = result' at hheader
  cases hheader with
  | told l' => exact .told l'
  | alike outcome =>
    cases outcome with
    | failed e => exact .alike _
    | abandoned => exact .alike _
    | finished header =>
      have hpayload := parts_recvPayload hcut hl timeout patience limit header.dataSize
      dsimp only
      generalize Frame.recvPayload (reader timeout patience) limit header.dataSize l = result
        at hpayload
      generalize Frame.recvPayload (reader timeout patience) limit header.dataSize l.muted = result'
        at hpayload
      cases hpayload with
      | told l' => exact .told l'
      | alike outcome => cases outcome <;> exact .alike _

end Line

end TokenBroker
