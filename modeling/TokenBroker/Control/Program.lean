import TokenBroker.Bytes.Hex
import TokenBroker.Client.Basic
import TokenBroker.Control.Arguments
import TokenBroker.Control.Help
import TokenBroker.Settings.Load
import TokenBroker.Text.Blank
/-!
# The control program

The control program makes one call for its user and prints how it ended.

* `Control.Surroundings` is what it needs of the world: a daemon within reach, and files.
* `Control.run` is a whole run.  It has no report if the run never ends: then the daemon is silent
  and there is no limit to waiting for it.

Everything that can be found wrong with the arguments, the settings and the token to be stored is
found before the daemon is approached.
-/

set_option autoImplicit false

namespace TokenBroker
namespace Control

open CommandLine

/-- What the control program needs of the world. -/
structure Surroundings (σ : Type) where
  /-- The daemon. -/
  remote : Remote σ
  /-- The content of the file at a path. -/
  readFile : String → σ → Except IoError Bytes
  /-- Make the content of the file at a path. -/
  writeFile : String → Bytes → σ → Except IoError Unit × σ

/-! ## Before the call -/

/-- The complaint about settings that could not be loaded. -/
def settingsComplaint (path : String) : LoadError → Complaint
  | .io e => .failed ["loading " ++ path, e.message]
  | .malformed => .malformed ["loading " ++ path]

/-- The settings: those of the file if one is named, with those of the command line over them. -/
def settings {σ : Type} (m : Surroundings σ) (a : Arguments) (w : σ) :
    Except Complaint ClientSettings := do
  let base ←
    match a.settings with
    | none => pure {}
    | some path =>
      match ClientSettings.load (m.readFile path w) with
      | .ok s => pure s
      | .error e => throw (settingsComplaint path e)
  return { base with
    endpoint := a.endpoint.getD base.endpoint
    responseTimeoutMs := a.timeoutMs.getD base.responseTimeoutMs }

/-- The bytes that hexadecimal digits spell, blanks around them aside. -/
def spelledToken (text : String) : Except Hex.Fault Bytes :=
  Hex.decode (Blank.trim text).toUTF8.toList

/-- The token to be stored. -/
def token {σ : Type} (m : Surroundings σ) (source : TokenSource) (w : σ) :
    Except Complaint Bytes :=
  match source with
  | .spelled text =>
    match spelledToken text with
    | .ok blob => .ok blob
    | .error fault => .error (.failed ["token is not valid hex", fault.message])
  | .file path =>
    match m.readFile path w with
    | .ok blob => .ok blob
    | .error e => .error (.failed ["reading " ++ path, e.message])

/-! ## The call and after it -/

/-- The complaint about a call that failed. -/
def callComplaint : RegistryError → Complaint
  | .notFound => .absent
  | e => .failed [e.message]

/-- The report on a call, if it ended. -/
def reportOn {α : Type} (success : α → Report) : Client.CallEnd α → Option Report
  | .ok value => some (success value)
  | .failed e => some (.ofComplaint (callComplaint e))
  | .abandoned => none

/-- A report of success. -/
def done (output : String) : Report := ⟨output, none⟩

/-- Hand over a token that was read: print it, or write it to a file. -/
def handOver {σ : Type} (m : Surroundings σ) (target : Option String) (blob : Bytes) (w : σ) :
    Report × σ :=
  match target with
  | none => (done (Hex.encode blob ++ "\n"), w)
  | some path =>
    match m.writeFile path blob w with
    | (.ok (), w) =>
      (done ("Wrote " ++ toString blob.length ++ " bytes to " ++ path ++ "\n"), w)
    | (.error e, w) => (.ofComplaint (.failed ["writing " ++ path, e.message]), w)

/-- What is printed about a daemon that accepted a connection. -/
def pingText (isAlive : Bool) : String :=
  if isAlive then "Daemon is up\n" else "Daemon accepted the connection but closed it\n"

/-- Make the call. -/
def carryOut {σ : Type} (m : Surroundings σ) (request : Request) (c : Client) (w : σ) :
    Option Report × Client × σ :=
  match request with
  | .store source =>
    match token m source w with
    | .error complaint => (some (.ofComplaint complaint), c, w)
    | .ok blob =>
      let (ended, c, w) := c.store m.remote none blob w
      (reportOn (fun _ => done ("Stored " ++ toString blob.length ++ " bytes\n")) ended, c, w)
  | .read target =>
    match c.read m.remote none w with
    | (.ok blob, c, w) =>
      let (report, w) := handOver m target blob w
      (some report, c, w)
    | (.failed e, c, w) => (some (.ofComplaint (callComplaint e)), c, w)
    | (.abandoned, c, w) => (none, c, w)
  | .delete =>
    let (ended, c, w) := c.delete m.remote none w
    (reportOn (fun _ => done "Auth token deleted\n") ended, c, w)
  | .ping =>
    let (ended, c, w) := c.reconnect m.remote w
    let (isAlive, c) := c.isAlive
    (reportOn (fun _ => done (pingText isAlive)) ended, c, w)

/-- The report of a run that does not get to its work. -/
def detourReport : Detour → Report
  | .help topic => done (helpText topic)
  | .version => done versionText
  | .unusable => .ofComplaint (.unusable usageText)

/-- Run the control program.  When it ends, its connection is closed. -/
def run {σ : Type} (m : Surroundings σ) (words : List String) (w : σ) : Option Report × σ :=
  match Arguments.ofWords words with
  | .error d => (some (detourReport d), w)
  | .ok a =>
    match settings m a w with
    | .error complaint => (some (.ofComplaint complaint), w)
    | .ok s =>
      match carryOut m a.request (Client.fresh s) w with
      | (none, _, w) => (none, w)
      | (some report, c, w) => (some report, (c.disconnect m.remote w).2)

end Control
end TokenBroker
