import TokenBroker.Files.Tree
import TokenBroker.Record.Archive
import TokenBroker.Simulation.Damage
/-!
# Handling files from outside

What somebody other than the daemon does to the files it works on: placing and removing files,
spoiling them, and looking at what is there.
-/

set_option autoImplicit false

namespace TokenBroker
namespace Simulation

/-- Make the directories on the way to a place, where they are missing. -/
def provideWay (t : Tree) (p : Place) : Tree :=
  (Tree.ancestors p).foldl (fun t q =>
    if (t.find? q).isSome then t else t.insert q (.directory Tree.defaultDirectoryMode)) t

/-- Make a place a directory of the usual mode, unless there is something else. -/
def provideDirectory (t : Tree) (p : Place) : Tree :=
  let t := provideWay t p
  match t.find? p with
  | some (.file _ _) => t
  | some (.socket _ _) => t
  | _ => t.insert p (.directory Tree.defaultDirectoryMode)

/-- Make a place a file of the usual mode, unless there is something else. -/
def writeFile (t : Tree) (p : Place) (content : Bytes) : Tree :=
  let t := provideWay t p
  match t.find? p with
  | some (.directory _) => t
  | some (.socket _ _) => t
  | _ => t.insert p (.file Tree.defaultFileMode content)

/-- Spoil a file; the answer is its new length. -/
def damageFile (t : Tree) (p : Place) (damages : List Damage) : Option Nat × Tree :=
  match t.find? p with
  | some (.file mode content) =>
    let content := Damage.applyAll content damages
    (some content.length, t.insert p (.file mode content))
  | _ => (none, t)

/-- What a look at a record file shows. -/
inductive Dump where
  | unreadable
  | noRecord (length : Nat)
  /-- The content of the file, with the time of storing blotted out. -/
  | record (content : Bytes)

/-- The content of a record file without the time of storing. -/
def blotTime (content : Bytes) : Bytes :=
  let at16 := content.length - Record.rootSize + 16
  content.take at16 ++ List.replicate 8 0 ++ content.drop (at16 + 8)

/-- Look at a record file. -/
def dumpFile (t : Tree) (p : Place) : Dump :=
  match t.readFile p with
  | .error _ => .unreadable
  | .ok content =>
    match Record.decode content with
    | .error _ => .noRecord content.length
    | .ok _ => .record (blotTime content)

/-- One line on an entry below a base: name, mode, and the size unless it is a directory. -/
def describe (name : String) (e : Entry) : String :=
  let mode := String.ofList (Nat.toDigits 8 e.mode)
  match e with
  | .directory _ => name ++ "/ " ++ mode
  | .file _ content => name ++ " " ++ mode ++ " " ++ toString content.length
  | .socket _ _ => name ++ " " ++ mode ++ " 0"

/-- All that is at and below a base, one line each, in the order of the lines'
bytes.  `written` is how a name is shown. -/
def listing (t : Tree) (base : Place) (written : String → String) : List String :=
  let lines := (t.below base).map fun (p, e) =>
    describe (if p.isEmpty then "." else String.intercalate "/" (p.map written)) e
  lines.mergeSort fun a b => !decide (b < a)

end Simulation
end TokenBroker
