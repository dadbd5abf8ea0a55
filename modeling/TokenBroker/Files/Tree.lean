import TokenBroker.Bytes.LittleEndian
import TokenBroker.Files.Error
import TokenBroker.Files.Path
/-!
# File trees

A file tree assigns to a place a regular file, a directory or a socket, each with a mode.  It is
held as a list of places in the order of their creation, so that every statement about what an
operation leaves alone is a statement about `Tree.find?`.

An access to a place fails before it looks at the place itself if something on the way down is
missing or is no directory; `Tree.blocked?` tells that error.

Some of what a real file system has is left out:

* modes are kept, and never enforced, so that no access fails for want of permission;
* there are no links, so that a place is the one way to what stands there;
* a name is a `String`, so that there are no names but those of well-formed text.
-/

set_option autoImplicit false

namespace TokenBroker

/-- What stands at a place. -/
inductive Entry where
  | file (mode : Nat) (content : Bytes)
  | directory (mode : Nat)
  /-- A socket file; the number tells the socket it was made for from all others. -/
  | socket (mode : Nat) (id : Nat)
  deriving DecidableEq

namespace Entry

/-- Whether an entry is a directory. -/
def isDirectory : Entry → Bool
  | directory _ => true
  | _ => false

/-- Whether an entry is a regular file. -/
def isFile : Entry → Bool
  | file _ _ => true
  | _ => false

/-- The permission bits of an entry. -/
def mode : Entry → Nat
  | file mode _ => mode
  | directory mode => mode
  | socket mode _ => mode

/-- The entry with other permission bits. -/
def withMode (mode : Nat) : Entry → Entry
  | file _ content => file mode content
  | directory _ => directory mode
  | socket _ id => socket mode id

end Entry

/-- A file tree. -/
structure Tree where
  entries : List (Place × Entry)

namespace Tree

/-- The mode of a directory that nobody set. -/
def defaultDirectoryMode : Nat := 0o755

/-- The mode of a file that nobody set. -/
def defaultFileMode : Nat := 0o644

/-- The largest number of bytes of a name. -/
def maxNameLength : Nat := 255

/-- A tree of the root alone. -/
def empty : Tree := ⟨[([], .directory defaultDirectoryMode)]⟩

/-- What stands at a place. -/
def find? (t : Tree) (p : Place) : Option Entry :=
  (t.entries.find? fun item => item.1 = p).map (·.2)

/-- Put an entry at a place, instead of what is there. -/
def insert (t : Tree) (p : Place) (e : Entry) : Tree :=
  if (t.find? p).isSome then
    ⟨t.entries.map fun item => if item.1 = p then (p, e) else item⟩
  else ⟨t.entries ++ [(p, e)]⟩

/-- Take away what stands at a place. -/
def erase (t : Tree) (p : Place) : Tree := ⟨t.entries.filter fun item => item.1 ≠ p⟩

/-- Take away a place and everything below it. -/
def eraseBelow (t : Tree) (p : Place) : Tree :=
  ⟨t.entries.filter fun item => !p.isPrefixOf item.1⟩

/-- Whether a directory stands at a place. -/
def isDirectory (t : Tree) (p : Place) : Bool := (t.find? p).any Entry.isDirectory

/-- The places on the way down to a place, the place itself left out. -/
def ancestors (p : Place) : List Place := (List.range p.length).map fun n => p.take n

/-- Whether the last name on the way to a place is too long for anything to bear it. -/
def isOverlong (p : Place) : Bool :=
  p.getLast?.any fun name => maxNameLength < name.utf8ByteSize

/-- The error that keeps an access from reaching a place: something on the way is missing, or is
no directory, or a name is too long. -/
def blocked? (t : Tree) (p : Place) : Option Errno :=
  let way := (ancestors p).findSome? fun q =>
    if isOverlong q then some Errno.nameTooLong
    else
      match t.find? q with
      | none => some Errno.noEntry
      | some e => if e.isDirectory then none else some Errno.notDirectory
  match way with
  | some errno => some errno
  | none => if isOverlong p then some .nameTooLong else none

/-- What an access to a place finds. -/
def stat (t : Tree) (p : Place) : Except Errno Entry :=
  match t.blocked? p with
  | some errno => .error errno
  | none =>
    match t.find? p with
    | none => .error .noEntry
    | some e => .ok e

/-- Whether an access to a place finds anything. -/
def has (t : Tree) (p : Place) : Bool := (t.stat p).isOk

/-- The content of a regular file. -/
def readFile (t : Tree) (p : Place) : Except Errno Bytes :=
  match t.stat p with
  | .error errno => .error errno
  | .ok (.file _ content) => .ok content
  | .ok (.directory _) => .error .isDirectory
  | .ok (.socket _ _) => .error .noSuchDevice

/-- The names in a directory, in the order of their creation. -/
def names (t : Tree) (p : Place) : List String :=
  t.entries.filterMap fun item =>
    if item.1.dropLast = p then item.1.getLast? else none

/-- Everything at and below a place, named relative to it. -/
def below (t : Tree) (p : Place) : List (Place × Entry) :=
  t.entries.filterMap fun item =>
    if p.isPrefixOf item.1 then some (item.1.drop p.length, item.2) else none

end Tree
end TokenBroker
