import TokenBroker.Files.Error
/-!
# Connection errors

A whole-message operation on a stream either succeeds or ends in one of these.  A timeout is kept
apart from the failures, because after it the stream may still be good.
-/

set_option autoImplicit false

namespace TokenBroker

/-- Why an operation on a connection does not succeed. -/
inductive ConnectionError where
  | connectFailed (endpoint : String) (error : IoError)
  | timedOut
  /-- The stream ended before all bytes were there. -/
  | closed
  | shortWrite (written expected : Nat)
  | notConnected
  | io (error : IoError)
  deriving DecidableEq

namespace ConnectionError

/-- The text of an error. -/
def message : ConnectionError → String
  | connectFailed endpoint error => "Connect to " ++ endpoint ++ " failed: " ++ error.message
  | timedOut => "Timed out waiting for data"
  | closed => "Peer closed the connection"
  | shortWrite written expected =>
    "Short write: " ++ toString written ++ " of " ++ toString expected ++ " bytes"
  | notConnected => "Connection is not open"
  | io error => "I/O error: " ++ error.message

/-- Whether there was just no data yet. -/
def isTimeout : ConnectionError → Bool
  | timedOut => true
  | _ => false

end ConnectionError
end TokenBroker
