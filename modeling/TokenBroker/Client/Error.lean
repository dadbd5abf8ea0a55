import TokenBroker.Sequence.Tracker
import TokenBroker.Stream.Error
import TokenBroker.Wire.Command
/-!
# Errors of a client call

A call that does not succeed says what went wrong in detail, and its `ResultKind` says it coarsely:
whether the token is absent, the daemon could not be reached, the two sides lost step, the storage
failed, or the request was refused.
-/

set_option autoImplicit false

namespace TokenBroker

/-- The coarse outcome of a call. -/
inductive ResultKind where
  | ok
  | notFound
  | transportError
  | protocolDesync
  | storageError
  | invalidRequest
  deriving DecidableEq

/-- Why a call of the client does not succeed. -/
inductive RegistryError where
  | notFound
  | transport (error : ConnectionError)
  | timeout
  | protocolDesync (expected received : UInt32)
  | protocol (text : String)
  | storage
  | rejected (result : ResultCode)
  | tooLarge (size max : Nat)
  deriving DecidableEq

namespace RegistryError

/-- The text of an error. -/
def message : RegistryError → String
  | notFound => "No auth token stored for this caller"
  | transport error => "Transport error: " ++ error.message
  | timeout => "Timed out waiting for the daemon"
  | protocolDesync expected received =>
    "Protocol desynchronized: response " ++ toString received.toNat ++ " for command "
      ++ toString expected.toNat
  | protocol text => "Protocol error: " ++ text
  | storage => "Daemon storage error"
  | rejected result => "Daemon rejected the request: " ++ result.text
  | tooLarge size max =>
    "Object too large: " ++ toString size ++ " bytes (max: " ++ toString max ++ ")"

/-- The coarse outcome that an error stands for. -/
def kind : RegistryError → ResultKind
  | notFound => .notFound
  | transport _ => .transportError
  | timeout => .transportError
  | protocolDesync _ _ => .protocolDesync
  | protocol _ => .protocolDesync
  | storage => .storageError
  | rejected _ => .invalidRequest
  | tooLarge _ _ => .invalidRequest

/-- Whether the daemon has no token for the caller. -/
def isNotFound : RegistryError → Bool
  | notFound => true
  | _ => false

/-- The error that a failure of numbering amounts to. -/
def ofSequence : Sequence.Error → RegistryError
  | .desynchronized expected received => .protocolDesync expected received
  | e => .protocol e.message

end RegistryError

/-- The coarse outcome of a call. -/
def ResultKind.of {α : Type} : Except RegistryError α → ResultKind
  | .ok _ => .ok
  | .error e => e.kind

end TokenBroker
