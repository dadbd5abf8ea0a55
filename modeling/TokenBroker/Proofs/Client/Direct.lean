import TokenBroker.Proofs.Client.Call
import TokenBroker.Proofs.Registry.Isolation
/-!
# Calls at a distance and at hand

What one can ask of a registry, and how an answer of the registry reaches a client.

* `Call` is a call, made through a client (`Call.make`) or at first hand (`Call.direct`).
* `Call.wrap_dispatch` says that a client is told what the registry itself answers, if the payload
  is within the limit, and `Call.plain_direct` that this never puts blame on the connection.
* `Call.direct_congr` compares two registries that differ in the times of storing only.
-/

set_option autoImplicit false

namespace TokenBroker
namespace Client

/-! ## Calls -/

deriving instance DecidableEq for CallEnd

/-- What a caller asks of a registry. -/
inductive Call where
  | store (blob : Bytes)
  | read
  | delete
  deriving DecidableEq

/-- What a caller is told. -/
inductive Answer where
  | outcome (ended : CallEnd Unit)
  | token (ended : CallEnd Bytes)
  deriving DecidableEq

namespace Call

def command : Call → Command
  | store _ => .writeAuthToken
  | read => .readAuthToken
  | delete => .deleteAuthToken

def payload : Call → Bytes
  | store blob => blob
  | read => []
  | delete => []

/-- What is told of the end of the command. -/
def wrap : Call → CallEnd Bytes → Answer
  | store _, ended => .outcome ended.discard
  | read, ended => .token ended
  | delete, ended => .outcome ended.discard

/-- Make a call through a client, and wait for as long as it takes. -/
def make {σ : Type} (call : Call) (remote : Remote σ) (c : Client) (w : σ) : Answer × Client × σ :=
  match call with
  | store blob =>
    let (ended, rest) := c.store remote none blob w
    (.outcome ended, rest)
  | read =>
    let (ended, rest) := c.read remote none w
    (.token ended, rest)
  | delete =>
    let (ended, rest) := c.delete remote none w
    (.outcome ended, rest)

theorem make_eq {σ : Type} (call : Call) (remote : Remote σ) (c : Client) (w : σ) :
    call.make remote c w = (call.wrap (c.execute remote none call.command call.payload w).1,
      (c.execute remote none call.command call.payload w).2) := by
  cases call <;> rfl

theorem payload_bare (call : Call) (hcommand : call.command.acceptsPayload = false) :
    call.payload = [] := by
  cases call with
  | store blob => cases hcommand
  | read => rfl
  | delete => rfl

end Call

/-! ## At first hand -/

/-- What a client makes of an error of the registry. -/
def seen : StorageError → RegistryError
  | .notFound _ => .notFound
  | .tooLarge size max => .tooLarge size max
  | .invalidKey _ => .rejected .invalidPayload
  | .corrupt _ => .storage
  | .serialization _ => .storage
  | .io _ => .storage

/-- How a call ends that an operation of the registry decides. -/
def CallEnd.direct {α : Type} (result : Except StorageError α) : CallEnd α :=
  .ofExcept (result.mapError seen)

/-- Ask the registry itself, at some time. -/
def Call.direct (call : Call) (r : Registry) (key : IdentityKey) (now : UInt64) (t : Tree) :
    Answer × Tree :=
  match call with
  | store blob =>
    let (result, t) := r.store t key blob now
    (.outcome (.direct result), t)
  | read => (.token (.direct (r.read t key)), t)
  | delete =>
    let (result, t) := r.delete t key
    (.outcome (.direct result), t)

theorem Call.direct_delete (r : Registry) (key : IdentityKey) (now : UInt64) (t : Tree) :
    delete.direct r key now t
      = (.outcome (.direct (r.delete t key).1), (r.delete t key).2) := rfl

/-- The call ended, and no blame falls on the connection or on what was said on it. -/
def CallEnd.Plain {α : Type} : CallEnd α → Prop
  | .ok _ => True
  | .failed e => e = .notFound ∨ e = .storage ∨ ∃ size max, e = .tooLarge size max
  | .abandoned => False

/-- The answer is a plain one. -/
def Answer.Plain : Answer → Prop
  | outcome ended => ended.Plain
  | token ended => ended.Plain

variable {r : Registry} {t t₁ t₂ : Tree} {key : IdentityKey} {call : Call}

/-- An error that reaches a client for what it is. -/
def Told (e : StorageError) : Prop := e.resultCode = .notFound ∨ e.resultCode = .storageError

theorem interpret_resultCode {e : StorageError} (he : Told e) :
    interpret e.resultCode [] = .error (seen e) := by
  cases e <;> first | rfl | exact absurd he (by simp [Told, StorageError.resultCode])

theorem CallEnd.plain_direct {α : Type} {result : Except StorageError α}
    (herrors : ∀ e, result = .error e → Told e ∨ ∃ size max, e = .tooLarge size max) :
    (CallEnd.direct result).Plain := by
  cases result with
  | ok value => trivial
  | error e =>
    rcases herrors e rfl with htold | ⟨size, max, rfl⟩
    · cases e with
      | notFound key => exact .inl rfl
      | tooLarge size max => exact .inr (.inr ⟨size, max, rfl⟩)
      | invalidKey name => exact absurd htold (by simp [Told, StorageError.resultCode])
      | corrupt defect => exact .inr (.inl rfl)
      | serialization text => exact .inr (.inl rfl)
      | io error => exact .inr (.inl rfl)
    · exact .inr (.inr ⟨size, max, rfl⟩)

/-- A client that is told how an operation ended tells it as the registry does. -/
theorem ending_ofOutcome {result : Except StorageError Unit}
    (htold : ∀ e, result = .error e → Told e) :
    (ending (.ofOutcome result)).discard = .direct result := by
  cases result with
  | ok done => rfl
  | error e =>
    rw [ending, Reply.ofOutcome, Reply.status, interpret_resultCode (htold e rfl)]
    rfl

theorem store_tooLarge {blob : Bytes} (h : r.maxObjectSize < blob.length) (t : Tree)
    (key : IdentityKey) (now : UInt64) :
    r.store t key blob now = (.error (.tooLarge blob.length r.maxObjectSize), t) := by
  rw [Registry.store, if_pos h]

theorem store_told {blob : Bytes} (h : blob.length ≤ r.maxObjectSize) {now : UInt64}
    {e : StorageError} (he : (r.store t key blob now).1 = .error e) : Told e := by
  rw [Registry.store, if_neg (Nat.not_lt.2 h)] at he
  split at he
  · exact .inr (by rw [← Except.error.inj he]; rfl)
  · dsimp only at he
    split at he
    · cases he
    · exact .inr (by rw [← Except.error.inj he]; rfl)

theorem read_told {e : StorageError} (he : r.read t key = .error e) : Told e := by
  rw [Registry.read, Registry.load] at he
  split at he
  · next hload =>
    rw [Except.error.inj he] at hload
    split at hload
    · exact .inl (by rw [← Except.error.inj hload]; rfl)
    · exact .inr (by rw [← Except.error.inj hload]; rfl)
    · split at hload
      · exact .inr (by rw [← Except.error.inj hload]; rfl)
      · cases hload
  · cases he

theorem delete_told {e : StorageError} (he : (r.delete t key).1 = .error e) : Told e := by
  rw [Registry.delete] at he
  split at he
  · exact .inl (by rw [← Except.error.inj he]; rfl)
  · exact .inr (by rw [← Except.error.inj he]; rfl)
  · split at he
    · exact .inr (by rw [← Except.error.inj he]; rfl)
    · cases he

namespace Call

/-- **A payload within the limit is dispatched as the registry itself would treat it.** -/
theorem wrap_dispatch (hfits : call.payload.length ≤ r.maxObjectSize) (key : IdentityKey)
    (now : Nat) (t : Tree) :
    call.wrap (ending (r.dispatch now key call.command call.payload t).1)
        = (call.direct r key (UInt64.ofNat now) t).1
      ∧ (r.dispatch now key call.command call.payload t).2
        = (call.direct r key (UInt64.ofNat now) t).2 := by
  cases call with
  | store blob =>
    have htold : ∀ e, (r.store t key blob (UInt64.ofNat now)).1 = .error e → Told e :=
      fun e he => store_told hfits he
    exact ⟨congrArg Answer.outcome (ending_ofOutcome htold), rfl⟩
  | read =>
    rw [direct, command, Registry.dispatch]
    cases hread : r.read t key with
    | ok blob => exact ⟨rfl, rfl⟩
    | error e =>
      refine ⟨?_, rfl⟩
      dsimp only
      rw [ending, Reply.status, interpret_resultCode (read_told hread)]
      rfl
  | delete =>
    have htold : ∀ e, (r.delete t key).1 = .error e → Told e := fun e he => delete_told he
    exact ⟨congrArg Answer.outcome (ending_ofOutcome htold), rfl⟩

/-- What the registry answers is plain. -/
theorem plain_direct (call : Call) (r : Registry) (key : IdentityKey) (now : UInt64) (t : Tree) :
    (call.direct r key now t).1.Plain := by
  cases call with
  | store blob =>
    refine CallEnd.plain_direct fun e he => ?_
    have hstore : (r.store t key blob now).1 = .error e := he
    by_cases hfits : blob.length ≤ r.maxObjectSize
    · exact .inl (store_told hfits hstore)
    · rw [store_tooLarge (Nat.not_le.1 hfits)] at hstore
      exact .inr ⟨_, _, (Except.error.inj hstore).symm⟩
  | read => exact CallEnd.plain_direct fun e he => .inl (read_told he)
  | delete => exact CallEnd.plain_direct fun e he => .inl (delete_told he)

theorem ready_direct (h : r.Ready t) (call : Call) (key : IdentityKey) (now : UInt64) :
    r.Ready (call.direct r key now t).2 := by
  cases call with
  | store blob => exact h.store key blob now
  | read => exact h
  | delete => exact h.delete key

/-- On trees that are alike the registry answers alike, whatever the time. -/
theorem direct_congr (h₁ : r.Ready t₁) (h₂ : r.Ready t₂) (hsame : Tree.SameBelow [] t₁ t₂)
    (call : Call) (key : IdentityKey) (now later : UInt64) :
    (call.direct r key now t₁).1 = (call.direct r key later t₂).1
      ∧ Tree.SameBelow [] (call.direct r key now t₁).2 (call.direct r key later t₂).2 := by
  cases call with
  | store blob =>
    have hbelow : [] <+: r.entryDirectory key := List.nil_prefix
    obtain ⟨houtcome, hsame'⟩ := Registry.store_congr h₁ h₂ hbelow hsame blob now later
    exact ⟨congrArg (fun result => Answer.outcome (.direct result)) houtcome, hsame'⟩
  | read =>
    have hread : r.read t₁ key = r.read t₂ key :=
      Registry.read_congr h₁ h₂ (hsame.narrow List.nil_prefix)
    exact ⟨congrArg (fun result => Answer.token (.direct result)) hread, hsame⟩
  | delete =>
    have hbelow : [] <+: r.entryDirectory key := List.nil_prefix
    obtain ⟨houtcome, hsame'⟩ := Registry.delete_congr h₁ h₂ hbelow hsame
    exact ⟨congrArg (fun result => Answer.outcome (.direct result)) houtcome, hsame'⟩

end Call

end Client
end TokenBroker
