import TokenBroker.CommandLine.Report
import TokenBroker.Daemon.Arguments
import TokenBroker.Files.Access
import TokenBroker.Settings.Load
/-!
# The daemon as a program

`Daemon.launch` is what happens from the command line of the daemon to the point where it serves,
or to its report if it does not get there.
-/

set_option autoImplicit false

namespace TokenBroker
namespace Daemon

open CommandLine

/-- The complaint about settings that could not be loaded. -/
def settingsComplaint : LoadError → Complaint
  | .io e => .failed [e.message]
  | .malformed => .malformed []

/-- Load further settings and lay them over others, file by file. -/
def layOver (t : Tree) (s : DaemonSettings) : List String → Except LoadError DaemonSettings
  | [] => .ok s
  | path :: rest =>
    match s.loadMerge (t.readPath path) with
    | (.ok (), s) => layOver t s rest
    | (.error e, _) => .error e

/-- The settings that the arguments lead to. -/
def settings (t : Tree) (a : Arguments) : Except LoadError DaemonSettings := do
  let main ← DaemonSettings.loadOrDefault (t.readPath a.settings)
  let s ← layOver t main a.overlays
  return { s with
    server := { s.server with endpoint := a.endpoint.getD s.server.endpoint } }

/-- The complaint of a daemon that does not start. -/
def startComplaint : StartError → Complaint
  | .tooManyConnections _ => .aborted
  | e => .failed e.chain

/-- How the daemon is called. -/
def usageText : String := "Usage: teebrokerd [OPTIONS]\n"

/-- The name of the daemon and its version. -/
def versionText : String := "teebrokerd 0.4.0\n"

/-- What the daemon is for, and all that it understands. -/
def helpText : String := String.join <|
  ["teebroker daemon - secure-object registry broker",
    "",
    "Usage: teebrokerd [OPTIONS]",
    "",
    "Options:",
    "  -c, --config <CONFIG>      Path to configuration file [default: teebrokerd.toml]",
    "  -v, --verbose              Run in verbose mode",
    "      --overlay <OVERLAY>    Overlay configuration merged over the main file (repeatable)",
    "      --endpoint <ENDPOINT>  Override the listening endpoint",
    "  -h, --help                 Print help",
    "  -V, --version              Print version"].map fun line => line ++ "\n"

/-- The report of a run that does not get to its work. -/
def detourReport : Detour → Report
  | .help _ => ⟨helpText, none⟩
  | .version => ⟨versionText, none⟩
  | .unusable => .ofComplaint (.unusable usageText)

/-- What the words of a command line make the daemon serve. -/
def planOfWords (t : Tree) (words : List String) : Except Report DaemonPlan :=
  match Arguments.ofWords words with
  | .error d => .error (detourReport d)
  | .ok a =>
    match settings t a with
    | .error e => .error (.ofComplaint (settingsComplaint e))
    | .ok s => .ok s.plan

/-- Start the daemon from its command line. -/
def launch (h : Host) (words : List String) : Except Report (Running Tree) × Host :=
  match planOfWords h.tree words with
  | .error report => (.error report, h)
  | .ok plan =>
    match start h plan with
    | (.error e, h) => (.error (.ofComplaint (startComplaint e)), h)
    | (.ok running, h) => (.ok running, h)

end Daemon
end TokenBroker
