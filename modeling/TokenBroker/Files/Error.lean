/-!
# Input and output errors

An operation on files or sockets fails either with an error number of the operating system, or
with a complaint of its own that has a kind and a text.
-/

set_option autoImplicit false

namespace TokenBroker

/-- The error numbers that the operations of this library can meet. -/
inductive Errno where
  | noEntry
  | noSuchDevice
  | alreadyExists
  | notDirectory
  | isDirectory
  | brokenPipe
  | nameTooLong
  | addressInUse
  | connectionReset
  | connectionRefused
  deriving DecidableEq

/-- The number of an error. -/
def Errno.number : Errno → Nat
  | noEntry => 2
  | noSuchDevice => 6
  | alreadyExists => 17
  | notDirectory => 20
  | isDirectory => 21
  | brokenPipe => 32
  | nameTooLong => 36
  | addressInUse => 98
  | connectionReset => 104
  | connectionRefused => 111

/-- An error number in words. -/
def Errno.text : Errno → String
  | noEntry => "No such file or directory"
  | noSuchDevice => "No such device or address"
  | alreadyExists => "File exists"
  | notDirectory => "Not a directory"
  | isDirectory => "Is a directory"
  | brokenPipe => "Broken pipe"
  | nameTooLong => "File name too long"
  | addressInUse => "Address already in use"
  | connectionReset => "Connection reset by peer"
  | connectionRefused => "Connection refused"

/-- What kind of trouble an error is, whoever reports it. -/
inductive IoErrorKind where
  | notFound
  | alreadyExists
  | notADirectory
  | isADirectory
  | brokenPipe
  | invalidFilename
  | addrInUse
  | connectionReset
  | connectionRefused
  | invalidInput
  | invalidData
  | other
  | uncategorized
  deriving DecidableEq

/-- The kind of an error number. -/
def Errno.kind : Errno → IoErrorKind
  | noEntry => .notFound
  | noSuchDevice => .uncategorized
  | alreadyExists => .alreadyExists
  | notDirectory => .notADirectory
  | isDirectory => .isADirectory
  | brokenPipe => .brokenPipe
  | nameTooLong => .invalidFilename
  | addressInUse => .addrInUse
  | connectionReset => .connectionReset
  | connectionRefused => .connectionRefused

/-- An error of an operation on files or sockets. -/
inductive IoError where
  /-- Reported by the operating system. -/
  | os (errno : Errno)
  /-- Reported before the operating system was asked. -/
  | custom (kind : IoErrorKind) (text : String)
  deriving DecidableEq

namespace IoError

/-- The kind of an error. -/
def kind : IoError → IoErrorKind
  | os errno => errno.kind
  | custom kind _ => kind

/-- The text of an error. -/
def message : IoError → String
  | os errno => errno.text ++ " (os error " ++ toString errno.number ++ ")"
  | custom _ text => text

end IoError
end TokenBroker
