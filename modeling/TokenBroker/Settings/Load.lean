import TokenBroker.Settings.Client
import TokenBroker.Settings.Daemon
/-!
# Loading settings

Settings come from files.  A file that cannot be read, or is no text, is told from one whose text
is no settings.  The daemon goes without its main file if there is none, but not without an
overlay.
-/

set_option autoImplicit false

namespace TokenBroker

/-- Why settings are not loaded. -/
inductive LoadError where
  | io (error : IoError)
  /-- The text is not well-formed, or a value does not fit its field. -/
  | malformed
  deriving DecidableEq

namespace Settings

/-- The text of a file, given as what reading its bytes yields. -/
def textOfFile (file : Except IoError Bytes) : Except LoadError String :=
  match file with
  | .error e => .error (.io e)
  | .ok bytes =>
    match String.fromUTF8? (ByteArray.mk bytes.toArray) with
    | some text => .ok text
    | none => .error (.io (.custom .invalidData "stream did not contain valid UTF-8"))

/-- Load settings of some kind. -/
def load {α : Type} (decode : String → Option α) (file : Except IoError Bytes) :
    Except LoadError α :=
  match textOfFile file with
  | .error e => .error e
  | .ok text =>
    match decode text with
    | some s => .ok s
    | none => .error .malformed

end Settings

/-- Load the settings of a client. -/
def ClientSettings.load (file : Except IoError Bytes) : Except LoadError ClientSettings :=
  Settings.load ClientSettings.decode file

namespace DaemonSettings

/-- Load the settings of the daemon. -/
def load (file : Except IoError Bytes) : Except LoadError DaemonSettings :=
  Settings.load DaemonSettings.decode file

/-- Load the settings of the daemon, or take the defaults if there is no file. -/
def loadOrDefault (file : Except IoError Bytes) : Except LoadError DaemonSettings :=
  match file with
  | .error (.os .noEntry) => .ok {}
  | _ => load file

/-- Load settings and lay them over others, which stay as they are if that fails. -/
def loadMerge (s : DaemonSettings) (file : Except IoError Bytes) :
    Except LoadError Unit × DaemonSettings :=
  match load file with
  | .error e => (.error e, s)
  | .ok other => (.ok (), s.merge other)

end DaemonSettings
end TokenBroker
