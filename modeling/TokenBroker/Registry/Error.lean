import TokenBroker.Files.Error
import TokenBroker.Identity.Key
import TokenBroker.Record.Basic
import TokenBroker.Text.Quoted
import TokenBroker.Wire.Command
/-!
# Storage errors

Why an operation of the registry does not succeed, in words and as the result code that a caller
of the daemon gets to see.  The code tells an absent entry, a rejected request and a failure of the
storage itself apart, and no more.
-/

set_option autoImplicit false

namespace TokenBroker

/-- Why an operation of the registry fails. -/
inductive StorageError where
  | notFound (key : IdentityKey)
  | tooLarge (size max : Nat)
  | invalidKey (name : String)
  | corrupt (defect : Record.Defect)
  | serialization (text : String)
  | io (error : IoError)
  deriving DecidableEq

namespace StorageError

/-- The text of an error. -/
def message : StorageError → String
  | notFound key => "No entry for identity " ++ key.text
  | tooLarge size max =>
    "Object too large: " ++ toString size ++ " bytes (max: " ++ toString max ++ ")"
  | invalidKey name => "Invalid identity key: " ++ Quoted.string name
  | corrupt defect => "Corrupt record: " ++ defect.message
  | serialization text => "Serialization error: " ++ text
  | io error => "I/O error: " ++ error.message

/-- An absent entry is a normal answer, anything else a failure. -/
def isNotFound : StorageError → Bool
  | notFound _ => true
  | _ => false

/-- The result that a caller of the daemon is given. -/
def resultCode : StorageError → ResultCode
  | notFound _ => .notFound
  | tooLarge _ _ => .payloadTooLarge
  | invalidKey _ => .invalidPayload
  | corrupt _ => .storageError
  | serialization _ => .storageError
  | io _ => .storageError

end StorageError

/-- The key of an explicit name, or the complaint about it. -/
def IdentityKey.ofName (name : String) : Except StorageError IdentityKey :=
  match IdentityKey.ofName? name with
  | some key => .ok key
  | none => .error (.invalidKey name)

end TokenBroker
