import TokenBroker.Files.Tree
/-!
# Steps on a file tree

Everything this library does to files is a list of steps, each of which happens as a whole or
fails and changes nothing.  `Tree.run` takes the steps in order and stops at the first that fails,
with what the earlier ones did left in place.

A step fails for what stands in the tree and for nothing else: no disk is ever full or broken, and
no limit on open files is reached.  In particular `sync`, `append` and `setMode` cannot fail where
their place exists (and is a file, for `append`), so that the directory that a `rename` or an
`unlink` was done in always reaches the disk.

The one operation that can be seen half done is writing: it is the step `append`, and
`FileStep.partly` is what an interruption makes of it.
-/

set_option autoImplicit false

namespace TokenBroker

/-- A change of a file tree that happens as a whole or not at all. -/
inductive FileStep where
  | makeDirectory (p : Place)
  | setMode (p : Place) (mode : Nat)
  /-- Make an empty file where nothing is. -/
  | createFile (p : Place) (mode : Nat)
  | append (p : Place) (bytes : Bytes)
  /-- Let a file or directory reach the disk. -/
  | sync (p : Place)
  /-- Move a file, over another file if need be. -/
  | rename (source target : Place)
  | unlink (p : Place)
  /-- Make the socket file of a listening socket. -/
  | bindSocket (p : Place) (id : Nat)
  deriving DecidableEq

namespace FileStep

/-- The tree after a step. -/
def apply (step : FileStep) (t : Tree) : Except Errno Tree :=
  match step with
  | makeDirectory p =>
    match t.stat p with
    | .ok _ => .error .alreadyExists
    | .error .noEntry =>
      if t.blocked? p = none then .ok (t.insert p (.directory Tree.defaultDirectoryMode))
      else .error .noEntry
    | .error errno => .error errno
  | setMode p mode =>
    match t.stat p with
    | .error errno => .error errno
    | .ok e => .ok (t.insert p (e.withMode mode))
  | createFile p mode =>
    match t.stat p with
    | .ok _ => .error .alreadyExists
    | .error .noEntry =>
      if t.blocked? p = none then .ok (t.insert p (.file mode [])) else .error .noEntry
    | .error errno => .error errno
  | append p bytes =>
    match t.stat p with
    | .error errno => .error errno
    | .ok (.file mode content) => .ok (t.insert p (.file mode (content ++ bytes)))
    | .ok _ => .error .isDirectory
  | sync p =>
    match t.stat p with
    | .error errno => .error errno
    | .ok _ => .ok t
  | rename source target =>
    match t.stat source with
    | .error errno => .error errno
    | .ok e =>
      match t.blocked? target with
      | some errno => .error errno
      | none =>
        if t.isDirectory target then .error .isDirectory
        else .ok ((t.erase source).insert target e)
  | unlink p =>
    match t.stat p with
    | .error errno => .error errno
    | .ok e => if e.isDirectory then .error .isDirectory else .ok (t.erase p)
  | bindSocket p id =>
    match t.stat p with
    | .ok _ => .error .addressInUse
    | .error .noEntry =>
      if t.blocked? p = none then .ok (t.insert p (.socket Tree.defaultDirectoryMode id))
      else .error .noEntry
    | .error errno => .error errno

/-- What an interruption after `n` bytes makes of a step: a shorter write.  Any other step has not
happened. -/
def partly (n : Nat) : FileStep → List FileStep
  | append p bytes => [append p (bytes.take n)]
  | _ => []

end FileStep

namespace Tree

/-- Take steps in order, up to the first that fails. -/
def run (t : Tree) : List FileStep → Except Errno Unit × Tree
  | [] => (.ok (), t)
  | step :: rest =>
    match step.apply t with
    | .error errno => (.error errno, t)
    | .ok t' => t'.run rest

/-- The steps that make a directory and all directories above it, where they are missing. -/
def makeDirectories (t : Tree) (p : Place) : List FileStep :=
  ((ancestors p ++ [p]).filter fun q =>
    match t.find? q with
    | none => true
    | some e => q = p && !e.isDirectory).map .makeDirectory

/-- Take away a file, if there is one. -/
def discard (t : Tree) (p : Place) : Tree :=
  match (FileStep.unlink p).apply t with
  | .ok t' => t'
  | .error _ => t

end Tree
end TokenBroker
