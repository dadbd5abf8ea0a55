/-!
# Commands and result codes

A request names one of three commands and a response carries one of six results, each as a 32-bit
code.  Both tables are read in the two directions: `Command.code` and `Command.ofCode?`, and
likewise for `ResultCode`.
-/

set_option autoImplicit false

namespace TokenBroker

/-- What a caller can ask for. -/
inductive Command where
  | readAuthToken
  | writeAuthToken
  | deleteAuthToken
  deriving DecidableEq

namespace Command

/-- The code of a command on the wire. -/
def code : Command → UInt32
  | readAuthToken => 0
  | writeAuthToken => 1
  | deleteAuthToken => 2

/-- The command a code stands for. -/
def ofCode? (code : UInt32) : Option Command :=
  if code = 0 then some readAuthToken
  else if code = 1 then some writeAuthToken
  else if code = 2 then some deleteAuthToken
  else none

/-- The name of a command in messages and metrics. -/
def name : Command → String
  | readAuthToken => "read_auth_token"
  | writeAuthToken => "write_auth_token"
  | deleteAuthToken => "delete_auth_token"

/-- Only a write carries a payload. -/
def acceptsPayload : Command → Bool
  | writeAuthToken => true
  | _ => false

theorem ofCode?_code (command : Command) : ofCode? command.code = some command := by
  cases command <;> rfl

theorem code_of_ofCode? {code : UInt32} {command : Command} (h : ofCode? code = some command) :
    command.code = code := by
  unfold ofCode? at h
  split at h
  · cases h; simp_all [Command.code]
  · split at h
    · cases h; simp_all [Command.code]
    · split at h
      · cases h; simp_all [Command.code]
      · cases h

end Command

/-- How a request ended. -/
inductive ResultCode where
  | ok
  | notFound
  | storageError
  | unknownCommand
  | payloadTooLarge
  | invalidPayload
  deriving DecidableEq

namespace ResultCode

/-- The code of a result on the wire. -/
def code : ResultCode → UInt32
  | ok => 0
  | notFound => 1
  | storageError => 2
  | unknownCommand => 3
  | payloadTooLarge => 4
  | invalidPayload => 5

/-- The result a code stands for. -/
def ofCode? (code : UInt32) : Option ResultCode :=
  if code = 0 then some ok
  else if code = 1 then some notFound
  else if code = 2 then some storageError
  else if code = 3 then some unknownCommand
  else if code = 4 then some payloadTooLarge
  else if code = 5 then some invalidPayload
  else none

/-- The result in words. -/
def text : ResultCode → String
  | ok => "ok"
  | notFound => "not found"
  | storageError => "storage error"
  | unknownCommand => "unknown command"
  | payloadTooLarge => "payload too large"
  | invalidPayload => "invalid payload"

/-- The result as a label of a counter. -/
def label : ResultCode → String
  | ok => "ok"
  | notFound => "not_found"
  | storageError => "storage_error"
  | unknownCommand => "unknown_command"
  | payloadTooLarge => "payload_too_large"
  | invalidPayload => "invalid_payload"

/-- Whether the request was carried out. -/
def isOk (result : ResultCode) : Bool := result = ok

theorem ofCode?_code (result : ResultCode) : ofCode? result.code = some result := by
  cases result <;> rfl

end ResultCode
end TokenBroker
