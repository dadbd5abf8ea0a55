import TokenBroker.Endpoint.Basic
import TokenBroker.Wire.Validation
/-!
# Client settings

Where the daemon is, how long to wait for it, how large a payload may be, and the number before the
first command id.
-/

set_option autoImplicit false

namespace TokenBroker

/-- Where daemon and clients meet unless they are told otherwise. -/
def defaultEndpoint : String := "#teebrokerd"

/-- A number of milliseconds as a timeout, zero being none. -/
def timeoutOfMs (ms : Nat) : Option Nat := if ms = 0 then none else some ms

/-- What a client needs to know. -/
structure ClientSettings where
  endpoint : String := defaultEndpoint
  /-- How long to wait for each response, in milliseconds; zero is for ever. -/
  responseTimeoutMs : Nat := 5000
  /-- The largest payload sent or accepted. -/
  maxPayload : Nat := defaultMaxPayload
  /-- The number before the first command id. -/
  initialCommandId : UInt32 := 0
  deriving DecidableEq

/-- How long to wait for each response. -/
def ClientSettings.responseTimeout (s : ClientSettings) : Option Nat :=
  timeoutOfMs s.responseTimeoutMs

end TokenBroker
