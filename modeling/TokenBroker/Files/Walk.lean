import TokenBroker.Files.Tree
/-!
# Walking a path

What a path leads to in a file tree.  A walk starts at the root, for relative paths as well, and
takes one part of the path after the other.  Each part but the last has to lead to a directory,
even if `.` or `..` follows: `a/../b` leads nowhere unless there is a directory `a`.

* `Tree.spot` is how far a walk comes: up to the last part.
* `Tree.locate` is the place of what stands at a path.
* `Tree.vacancy` is the place at which something new can be made.

A path that is empty, too long, or has a zero byte in it is refused before the walk begins.
-/

set_option autoImplicit false

namespace TokenBroker

namespace Path

/-- The number of bytes that a path stays below. -/
def maxSize : Nat := 4096

/-- Why a path is not walked along at all. -/
def fault? (text : String) : Option IoError :=
  if text.toList.contains '\x00' then
    some (.custom .invalidInput "file name contained an unexpected NUL byte")
  else if text = "" then some (.os .noEntry)
  else if text.utf8ByteSize ≥ maxSize then some (.os .nameTooLong)
  else none

end Path

/-- Where a walk has come when it has one part of the path left at most. -/
inductive Spot where
  /-- A directory that was reached: the root, or where a last part `.` or `..` leads. -/
  | reached (p : Place)
  /-- A name in a directory that was reached; `slash` says that a slash follows the name. -/
  | named (directory : Place) (name : String) (slash : Bool)
  deriving DecidableEq

namespace Tree

/-- Go from a directory along one part, into another directory. -/
def enter (t : Tree) (p : Place) (part : String) : Except Errno Place :=
  if part = "." then .ok p
  else if part = ".." then .ok p.dropLast
  else if part.utf8ByteSize > maxNameLength then .error .nameTooLong
  else
    match t.find? (p ++ [part]) with
    | none => .error .noEntry
    | some e => if e.isDirectory then .ok (p ++ [part]) else .error .notDirectory

/-- Go from a directory along parts, up to the last one. -/
def walk (t : Tree) (slash : Bool) (p : Place) : List String → Except Errno Spot
  | [] => .ok (.reached p)
  | [part] =>
    if part = "." then .ok (.reached p)
    else if part = ".." then .ok (.reached p.dropLast)
    else .ok (.named p part slash)
  | part :: rest =>
    match t.enter p part with
    | .error errno => .error errno
    | .ok q => walk t slash q rest

/-- How far a walk along a path comes. -/
def spot (t : Tree) (text : String) : Except IoError Spot :=
  match Path.fault? text with
  | some e => .error e
  | none =>
    match t.walk (Path.endsInSlash text) [] (Path.parts text) with
    | .error errno => .error (.os errno)
    | .ok s => .ok s

/-- The place of what stands at a path.  A slash at the end asks for a directory. -/
def locate (t : Tree) (text : String) : Except IoError Place :=
  match t.spot text with
  | .error e => .error e
  | .ok (.reached p) => .ok p
  | .ok (.named directory name slash) =>
    match t.stat (directory ++ [name]) with
    | .error errno => .error (.os errno)
    | .ok e =>
      if slash && !e.isDirectory then .error (.os .notDirectory) else .ok (directory ++ [name])

/-- The place of something new at a path, and whether a slash follows.  A path that ends in `.` or
`..` leads to what is there already. -/
def vacancy (t : Tree) (text : String) : Except IoError (Place × Bool) :=
  match t.spot text with
  | .error e => .error e
  | .ok (.reached _) => .error (.os .alreadyExists)
  | .ok (.named directory name slash) =>
    match t.stat (directory ++ [name]) with
    | .ok _ => .error (.os .alreadyExists)
    | .error .noEntry => .ok (directory ++ [name], slash)
    | .error errno => .error (.os errno)

/-- What stands at a path. -/
def statPath (t : Tree) (text : String) : Except IoError Entry :=
  match t.locate text with
  | .error e => .error e
  | .ok p =>
    match t.stat p with
    | .error errno => .error (.os errno)
    | .ok e => .ok e

/-- Whether anything stands at a path. -/
def hasPath (t : Tree) (text : String) : Bool := (t.statPath text).isOk

/-- Whether a directory stands at a path. -/
def hasDirectory (t : Tree) (text : String) : Bool :=
  match t.statPath text with
  | .ok e => e.isDirectory
  | .error _ => false

end Tree
end TokenBroker
