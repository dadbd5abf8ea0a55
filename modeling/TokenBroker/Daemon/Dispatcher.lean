import TokenBroker.Registry.Basic
/-!
# Dispatching commands

A dispatcher turns a command of an identified caller into a reply.  It is a function on some state:
for the dispatcher that serves a registry, the file tree.
-/

set_option autoImplicit false

namespace TokenBroker

/-- What a command is answered with. -/
structure Reply where
  result : ResultCode
  payload : Bytes
  deriving DecidableEq

/-- A reply without payload. -/
def Reply.status (result : ResultCode) : Reply := ⟨result, []⟩

/-- Whatever answers commands, as a function on a state. -/
abbrev Dispatcher (σ : Type) := IdentityKey → Command → Bytes → σ → Reply × σ

/-- The reply to an operation that has nothing to say but how it ended. -/
def Reply.ofOutcome : Except StorageError Unit → Reply
  | .ok () => .status .ok
  | .error e => .status e.resultCode

/-- The dispatcher of a registry.  `now` is the time that records note. -/
def Registry.dispatch (r : Registry) (now : Nat) : Dispatcher Tree :=
  fun key command payload t =>
    match command with
    | .readAuthToken =>
      match r.read t key with
      | .ok blob => (⟨.ok, blob⟩, t)
      | .error e => (.status e.resultCode, t)
    | .writeAuthToken =>
      let result := r.store t key payload (UInt64.ofNat now)
      (.ofOutcome result.1, result.2)
    | .deleteAuthToken =>
      let result := r.delete t key
      (.ofOutcome result.1, result.2)

/-- A dispatcher that sends every payload back with a fixed result. -/
def Dispatcher.returning {σ : Type} (result : ResultCode) : Dispatcher σ :=
  fun _ _ payload w => (⟨result, payload⟩, w)

end TokenBroker
