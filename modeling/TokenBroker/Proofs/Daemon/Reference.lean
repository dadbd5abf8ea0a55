import TokenBroker.Proofs.Daemon.Handler
/-!
# Commands as a matter of the stream alone

What the daemon does on one connection depends on the bytes that its client sends, and not on the
pieces in which they come.  `Reference.serve` says what is to be done, command by command, on the
whole string at once; it knows of no sockets, phases or partial reads.

* A byte comes with the time of its arrival, which only tells the dispatcher what time it is: a
  command is dispatched when the last byte of its frame is there.
* `serve_of_frame` is a complete command at the front of the string, and `serve_of_oversized`,
  `serve_of_lt` and `serve_of_partial` are the three ways to stop.
-/

set_option autoImplicit false

namespace TokenBroker
namespace Reference

open Handler (answer)

/-- A byte with the time of its arrival. -/
abbrev Stamped := Nat × UInt8

/-- Bytes that arrive together. -/
def stamp (now : Nat) (bytes : Bytes) : List Stamped := bytes.map fun byte => (now, byte)

/-- The bytes without their times. -/
def bytesOf (s : List Stamped) : Bytes := s.map (·.2)

/-- When the last of some bytes arrived. -/
def arrivedAt (s : List Stamped) : Nat := (s.getLast?.map (·.1)).getD 0

/-- What is done for one client. -/
structure Transcript (σ : Type) where
  /-- The calls of the dispatcher, with what it replies. -/
  calls : List (Command × Bytes × Reply)
  written : Bytes
  /-- The state that the dispatcher leaves. -/
  state : σ

/-- What is done if something else was done before. -/
def Transcript.after {σ : Type} (rest : Transcript σ) (calls : List (Command × Bytes × Reply))
    (written : Bytes) : Transcript σ :=
  ⟨calls ++ rest.calls, written ++ rest.written, rest.state⟩

/-- What is done for a client that sends a string of bytes and then nothing more. -/
def serve {σ : Type} (limit : Nat) (key : IdentityKey) (dispatch : Nat → Dispatcher σ)
    (s : List Stamped) (w : σ) : Transcript σ :=
  if _h : s.length < Header.size then ⟨[], [], w⟩
  else
    match CommandHeader.decode? (bytesOf (s.take Header.size)) with
    | none => ⟨[], [], w⟩
    | some header =>
      let size := header.dataSize.toNat
      if size > limit then ⟨[], answer header.id (.status .payloadTooLarge), w⟩
      else if s.length < Header.size + size then ⟨[], [], w⟩
      else
        let frame := s.take (Header.size + size)
        let rest := s.drop (Header.size + size)
        match Command.ofCode? header.cmd with
        | none =>
          (serve limit key dispatch rest w).after [] (answer header.id (.status .unknownCommand))
        | some command =>
          if command ≠ .writeAuthToken ∧ size > 0 then
            (serve limit key dispatch rest w).after [] (answer header.id (.status .invalidPayload))
          else
            let payload := bytesOf (frame.drop Header.size)
            let called := dispatch (arrivedAt frame) key command payload w
            (serve limit key dispatch rest called.2).after [(command, payload, called.1)]
              (answer header.id called.1)
termination_by s.length
decreasing_by
  all_goals
    simp only [List.length_drop, Header.size] at _h ⊢
    omega

/-! ## Headers -/

theorem exists_decode? {bytes : Bytes} (h : bytes.length = Header.size) :
    ∃ header, CommandHeader.decode? bytes = some header := by
  rw [CommandHeader.decode?, Header.decodeFields?, if_pos h]
  exact ⟨_, rfl⟩

/-! ## One command -/

variable {σ : Type} {limit : Nat} {key : IdentityKey} {dispatch : Nat → Dispatcher σ}
  {s : List Stamped} {w : σ} {header : CommandHeader}

theorem serve_of_lt (h : s.length < Header.size) :
    serve limit key dispatch s w = ⟨[], [], w⟩ := by
  rw [serve, dif_pos h]

theorem serve_of_oversized (h : Header.size ≤ s.length)
    (hdecode : CommandHeader.decode? (bytesOf (s.take Header.size)) = some header)
    (hlarge : limit < header.dataSize.toNat) :
    serve limit key dispatch s w = ⟨[], answer header.id (.status .payloadTooLarge), w⟩ := by
  rw [serve, dif_neg (Nat.not_lt.2 h), hdecode]
  simp only [if_pos hlarge]

theorem serve_of_partial (h : Header.size ≤ s.length)
    (hdecode : CommandHeader.decode? (bytesOf (s.take Header.size)) = some header)
    (hfit : header.dataSize.toNat ≤ limit)
    (hshort : s.length < Header.size + header.dataSize.toNat) :
    serve limit key dispatch s w = ⟨[], [], w⟩ := by
  rw [serve, dif_neg (Nat.not_lt.2 h), hdecode]
  simp only [if_neg (Nat.not_lt.2 hfit), if_pos hshort]

/-- The command of a complete frame is refused or dispatched, and answered once. -/
theorem serve_of_frame (header : CommandHeader)
    (hdecode : CommandHeader.decode? (bytesOf (s.take Header.size)) = some header)
    (hfit : header.dataSize.toNat ≤ limit) (hlen : Header.size + header.dataSize.toNat ≤ s.length) :
    serve limit key dispatch s w = match validateCommand header limit with
      | .error reason =>
        (serve limit key dispatch (s.drop (Header.size + header.dataSize.toNat)) w).after []
          (answer header.id (.status reason.resultCode))
      | .ok command =>
        let payload := bytesOf ((s.take (Header.size + header.dataSize.toNat)).drop Header.size)
        let called := dispatch (arrivedAt (s.take (Header.size + header.dataSize.toNat))) key
          command payload w
        (serve limit key dispatch (s.drop (Header.size + header.dataSize.toNat)) called.2).after
          [(command, payload, called.1)] (answer header.id called.1) := by
  rw [serve, dif_neg (by omega), hdecode, Handler.validateCommand_of_le hfit]
  simp only [if_neg (Nat.not_lt.2 hfit), if_neg (Nat.not_lt.2 hlen)]
  cases Command.ofCode? header.cmd with
  | none => rfl
  | some command =>
    by_cases hsize : header.dataSize.toNat > 0
    · cases command <;> simp [hsize, Command.acceptsPayload, ValidationError.resultCode]
    · simp [hsize]

end Reference
end TokenBroker
