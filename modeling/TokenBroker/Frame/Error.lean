import TokenBroker.Stream.Error
/-!
# Frame errors

Sending or receiving a frame fails like the connection under it, or because a payload is larger
than the limit of this side.
-/

set_option autoImplicit false

namespace TokenBroker

/-- Why a frame is not sent or not received. -/
inductive FrameError where
  | connection (error : ConnectionError)
  | payloadTooLarge (size max : Nat)
  deriving DecidableEq

namespace FrameError

/-- The text of an error. -/
def message : FrameError → String
  | connection error => error.message
  | payloadTooLarge size max =>
    "Payload too large: " ++ toString size ++ " bytes (max: " ++ toString max ++ ")"

/-- Whether there was just no data yet. -/
def isTimeout : FrameError → Bool
  | connection error => error.isTimeout
  | payloadTooLarge _ _ => false

end FrameError
end TokenBroker
