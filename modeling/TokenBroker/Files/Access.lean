import TokenBroker.Files.Step
import TokenBroker.Files.Walk
/-!
# Files by path

What is done to files that somebody names by a path: whole files are read and written, and
directories are made together with those above them.

A path that ends in a slash, or in a part `.` or `..`, can only mean a directory, so it is never
written to.
-/

set_option autoImplicit false

namespace TokenBroker
namespace Tree

/-- Take steps, with the error as one of input and output. -/
def runSteps (t : Tree) (steps : List FileStep) : Except IoError Unit × Tree :=
  match t.run steps with
  | (.ok (), t') => (.ok (), t')
  | (.error errno, t') => (.error (.os errno), t')

/-! ## Whole files -/

/-- The content of the file at a path. -/
def readPath (t : Tree) (text : String) : Except IoError Bytes :=
  match t.locate text with
  | .error e => .error e
  | .ok p =>
    match t.readFile p with
    | .error errno => .error (.os errno)
    | .ok content => .ok content

/-- Make the content of the file at a place, which is created if nothing is there and keeps its
mode otherwise. -/
def overwrite (t : Tree) (p : Place) (content : Bytes) : Except Errno Tree :=
  match t.stat p with
  | .ok (.file mode _) => .ok (t.insert p (.file mode content))
  | .ok (.directory _) => .error .isDirectory
  | .ok (.socket _ _) => .error .noSuchDevice
  | .error .noEntry =>
    if t.blocked? p = none then .ok (t.insert p (.file defaultFileMode content))
    else .error .noEntry
  | .error errno => .error errno

/-- Make the content of the file at a path. -/
def writePath (t : Tree) (text : String) (content : Bytes) : Except IoError Tree :=
  match t.spot text with
  | .error e => .error e
  | .ok (.reached _) => .error (.os .isDirectory)
  | .ok (.named directory name slash) =>
    if slash then .error (.os .isDirectory)
    else
      match t.overwrite (directory ++ [name]) content with
      | .error errno => .error (.os errno)
      | .ok t' => .ok t'

/-! ## Directories -/

/-- Make one directory. -/
def makeDirectoryAt (t : Tree) (text : String) : Except IoError Unit × Tree :=
  match t.vacancy text with
  | .error e => (.error e, t)
  | .ok (p, _) => t.runSteps [.makeDirectory p]

/-- Make the first of a list of directories, where each is needed only if the one before it cannot
be made without it.  A directory that is there is as good as one that was made. -/
def makeFirst (t : Tree) : List String → Except IoError Unit × Tree
  | [] => (.ok (), t)
  | path :: above =>
    match t.makeDirectoryAt path with
    | (.ok (), t) => (.ok (), t)
    | (.error (.os .noEntry), _) =>
      match t.makeFirst above with
      | (.error e, t) => (.error e, t)
      | (.ok (), t) =>
        match t.makeDirectoryAt path with
        | (.ok (), t) => (.ok (), t)
        | (.error e, _) =>
          if e = .os .alreadyExists ∧ t.hasDirectory path then (.ok (), t) else (.error e, t)
    | (.error e, _) =>
      if e = .os .alreadyExists ∧ t.hasDirectory path then (.ok (), t) else (.error e, t)

/-- Make a directory and all directories above it, where they are missing. -/
def makePath (t : Tree) (text : String) : Except IoError Unit × Tree :=
  t.makeFirst (Path.above text)

/-- Set the mode of what stands at a path. -/
def setModeAt (t : Tree) (text : String) (mode : Nat) : Except IoError Unit × Tree :=
  match t.locate text with
  | .error e => (.error e, t)
  | .ok p => t.runSteps [.setMode p mode]

/-- Make a directory and those above it, and close it to others. -/
def makePrivatePath (t : Tree) (text : String) (mode : Nat) : Except IoError Unit × Tree :=
  match t.makePath text with
  | (.error e, t) => (.error e, t)
  | (.ok (), t) => t.setModeAt text mode

end Tree
end TokenBroker
