import TokenBroker.Wire.Command
import TokenBroker.Wire.Header
/-!
# Header validation

A header is judged before its payload is read.  The size is checked first, so that an oversized
declaration is reported as such whatever code comes with it; then the code must be known; and a
command that takes no payload must declare none.
-/

set_option autoImplicit false

namespace TokenBroker

/-- The largest payload both sides accept unless they are configured otherwise. -/
def defaultMaxPayload : Nat := 65536

/-- Why a header is refused. -/
inductive ValidationError where
  | unknownCommand (code : UInt32)
  | unknownResult (code : UInt32)
  | payloadTooLarge (size max : Nat)
  | unexpectedPayload (command : Command) (size : Nat)
  deriving DecidableEq

namespace ValidationError

/-- The text of a refusal. -/
def message : ValidationError → String
  | unknownCommand code => "Unknown command code " ++ toString code.toNat
  | unknownResult code => "Unknown result code " ++ toString code.toNat
  | payloadTooLarge size max =>
    "Payload too large: " ++ toString size ++ " bytes (max: " ++ toString max ++ ")"
  | unexpectedPayload command size =>
    command.name ++ " does not take a payload (" ++ toString size ++ " bytes sent)"

/-- The result that reports a refusal to the sender of the header. -/
def resultCode : ValidationError → ResultCode
  | unknownCommand _ => .unknownCommand
  | payloadTooLarge _ _ => .payloadTooLarge
  | unknownResult _ => .invalidPayload
  | unexpectedPayload _ _ => .invalidPayload

end ValidationError

/-- The declared size, if it is within the limit. -/
def checkPayloadSize (size : UInt32) (max : Nat) : Except ValidationError Nat :=
  if size.toNat > max then .error (.payloadTooLarge size.toNat max) else .ok size.toNat

/-- The command of an acceptable header. -/
def validateCommand (header : CommandHeader) (max : Nat) : Except ValidationError Command :=
  match checkPayloadSize header.dataSize max with
  | .error e => .error e
  | .ok size =>
    match Command.ofCode? header.cmd with
    | none => .error (.unknownCommand header.cmd)
    | some command =>
      if !command.acceptsPayload && size > 0 then .error (.unexpectedPayload command size)
      else .ok command

/-- The result of an acceptable header. -/
def validateResponse (header : ResponseHeader) (max : Nat) : Except ValidationError ResultCode :=
  match checkPayloadSize header.dataSize max with
  | .error e => .error e
  | .ok _ =>
    match ResultCode.ofCode? header.result with
    | none => .error (.unknownResult header.result)
    | some result => .ok result

end TokenBroker
