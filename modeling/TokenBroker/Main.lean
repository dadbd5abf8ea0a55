import TokenBroker.Simulation.Files
import TokenBroker.Simulation.Link
/-!
# The daemon and its control program

The program is called like the daemon, and starts it on a host in memory that holds the files of
settings the command line names.  Each line of standard input is then a command line of the control
program, with blanks between its words; what the control program prints is printed.  At the end of
the input the daemon stops.
-/

set_option autoImplicit false

namespace TokenBroker
namespace Main

open Simulation (Deployment)

/-- The user that the control program runs for. -/
def user : UInt32 := 1000

/-- The files of settings that a command line names. -/
def settingsFiles (words : List String) : List String :=
  match Daemon.Arguments.ofWords words with
  | .ok a => a.settings :: a.overlays
  | .error _ => []

/-- Take a file over into a tree, if it can be read. -/
def takeOver (t : Tree) (path : String) : IO Tree := do
  match ← (IO.FS.readBinFile path).toBaseIO with
  | .ok content => return Simulation.writeFile t (Path.place path) content.toList
  | .error _ => return t

/-- Print what a program leaves. -/
def tell (report : CommandLine.Report) : IO Unit := do
  IO.print report.output
  IO.eprint report.errorText

/-- The words of a line. -/
def wordsOf (line : String) : List String :=
  ((line.toList.splitBy fun a b => !Blank.isBlank a && !Blank.isBlank b).filter fun part =>
    !part.any Blank.isBlank).map String.ofList

/-- Run the control program once for each line. -/
partial def converse (input : IO.FS.Stream) (d : Deployment) : IO Deployment := do
  let line ← input.getLine
  if line.isEmpty then return d
  match Control.run (Deployment.surroundings "control" user) (wordsOf line) d with
  | (some report, d) =>
    tell report
    converse input d
  | (none, d) =>
    IO.eprintln "The daemon is silent"
    converse input d

/-- Start the daemon, let the control program run, and stop the daemon. -/
def rehearse (words : List String) : IO UInt32 := do
  let t ← (settingsFiles words).foldlM takeOver Tree.empty
  match (Deployment.ofTree t).launch words with
  | (some report, _) =>
    tell report
    return UInt32.ofNat report.status
  | (none, d) =>
    let d ← converse (← IO.getStdin) d
    let _ := d.stop
    return 0

end Main
end TokenBroker

/-- Rehearse a deployment in memory. -/
def main (words : List String) : IO UInt32 := TokenBroker.Main.rehearse words
