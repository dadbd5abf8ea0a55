import TokenBroker.Endpoint.Basic
import TokenBroker.Files.Access
/-!
# Listening and connecting on a host

A host is a file tree together with the listeners that are alive and the abstract names they hold.
A listener on a path is reached through its socket file: the file carries the number of the
listener, and outlives it.

* `Host.bind` makes a listener.  On a path it replaces a socket file, never anything else, makes a
  missing parent directory, and keeps others out of both.
* `Host.connect?` tells which listener an endpoint leads to.
* `Host.release` ends a listener; `Host.cleanup` removes a socket file.
-/

set_option autoImplicit false

namespace TokenBroker

/-- A file tree and the listeners on it. -/
structure Host where
  tree : Tree
  /-- The abstract names in use, each with its listener. -/
  names : List (Bytes × Nat)
  /-- The listeners that are alive. -/
  listeners : List Nat
  /-- The number of the next listener. -/
  nextListener : Nat

namespace Host

/-- A host with a file tree and no listener. -/
def ofTree (tree : Tree) : Host := ⟨tree, [], [], 0⟩

/-- The number of bytes of an address, its closing or leading zero byte included. -/
def addressSize : Nat := 108

/-- The mode of a socket file. -/
def socketMode : Nat := 0o600

/-- The mode of a directory made for a socket file. -/
def parentMode : Nat := 0o700

/-- The bytes of a text. -/
def textBytes (text : String) : Bytes := text.toUTF8.toList

/-- An address outside the file tree, if the name fits into one. -/
def nameAddress (name : Bytes) : Except IoError Bytes :=
  if name.length + 1 > addressSize then
    .error (.custom .invalidInput "abstract socket name must be shorter than SUN_LEN")
  else .ok name

/-- Where the path of a socket leads: to a name outside the file tree if it starts with a zero
byte, else into the file tree, if the path fits into an address. -/
def pathAddress (text : String) : Except IoError (Option Bytes) :=
  match textBytes text with
  | 0 :: name =>
    match nameAddress name with
    | .error e => .error e
    | .ok name => .ok (some name)
  | bytes =>
    if bytes.contains 0 then
      .error (.custom .invalidInput "paths must not contain interior null bytes")
    else if bytes.length ≥ addressSize then
      .error (.custom .invalidInput "path must be shorter than SUN_LEN")
    else .ok none

/-! ## Binding -/

/-- Make the directory that is to hold a socket file, if nothing is there, and close it to others.
If its path ends in `..`, the directory that is closed is not one that was made. -/
def provideParent (t : Tree) (text : String) : Except IoError Unit × Tree :=
  match Path.parent? text with
  | none => (.ok (), t)
  | some parent =>
    if parent = "" ∨ t.hasPath parent then (.ok (), t) else t.makePrivatePath parent parentMode

/-- Remove the socket file at a path.  Nothing there is as good; anything else is refused. -/
def removeStaleSocket (t : Tree) (text : String) : Except IoError Unit × Tree :=
  match t.locate text with
  | .error (.os .noEntry) => (.ok (), t)
  | .error e => (.error e, t)
  | .ok p =>
    match t.find? p with
    | some (.socket _ _) => t.runSteps [.unlink p]
    | _ => (.error (.custom .alreadyExists (text ++ " exists and is not a socket")), t)

/-- Make a socket file at a path that leads to nothing yet. -/
def makeSocketFile (t : Tree) (text : String) (id : Nat) : Except IoError Unit × Tree :=
  match t.vacancy text with
  | .error (.os .alreadyExists) => (.error (.os .addressInUse), t)
  | .error e => (.error e, t)
  | .ok (_, true) => (.error (.os .noEntry), t)
  | .ok (p, false) => t.runSteps [.bindSocket p id, .setMode p socketMode]

/-- A further listener. -/
def addListener (h : Host) : Host :=
  { h with listeners := h.listeners ++ [h.nextListener], nextListener := h.nextListener + 1 }

/-- Take an abstract name. -/
def bindName (h : Host) (name : Bytes) : Except IoError Nat × Host :=
  match nameAddress name with
  | .error e => (.error e, h)
  | .ok name =>
    if h.names.any fun held => held.1 = name then (.error (.os .addressInUse), h)
    else (.ok h.nextListener, { h.addListener with names := h.names ++ [(name, h.nextListener)] })

/-- Make the socket file of a listener on a free path. -/
def bindFile (h : Host) (text : String) : Except IoError Nat × Host :=
  match pathAddress text with
  | .error e => (.error e, h)
  | .ok (some name) => bindName h name
  | .ok none =>
    match makeSocketFile h.tree text h.nextListener with
    | (.error e, t) => (.error e, { h with tree := t })
    | (.ok (), t) => (.ok h.nextListener, { h.addListener with tree := t })

/-- Listen on a path. -/
def bindPath (h : Host) (text : String) : Except IoError Nat × Host :=
  match provideParent h.tree text with
  | (.error e, t) => (.error e, { h with tree := t })
  | (.ok (), t) =>
    match removeStaleSocket t text with
    | (.error e, t) => (.error e, { h with tree := t })
    | (.ok (), t) => bindFile { h with tree := t } text

/-- Listen on an endpoint; the answer is the number of the listener. -/
def bind (h : Host) : Endpoint → Except IoError Nat × Host
  | .path text => bindPath h text
  | .name text => bindName h (textBytes text)

/-! ## Connecting and ending -/

/-- The listener that holds an abstract name. -/
def connectName? (h : Host) (name : Bytes) : Except IoError Nat :=
  match h.names.find? fun held => held.1 = name with
  | some held => .ok held.2
  | none => .error (.os .connectionRefused)

/-- The listener that an endpoint leads to. -/
def connect? (h : Host) : Endpoint → Except IoError Nat
  | .name text =>
    match nameAddress (textBytes text) with
    | .error e => .error e
    | .ok name => h.connectName? name
  | .path text =>
    match pathAddress text with
    | .error e => .error e
    | .ok (some name) => h.connectName? name
    | .ok none =>
      match h.tree.statPath text with
      | .error e => .error e
      | .ok (.socket _ id) =>
        if h.listeners.contains id then .ok id else .error (.os .connectionRefused)
      | .ok _ => .error (.os .connectionRefused)

/-- End a listener.  Its name is free again, its socket file stays. -/
def release (h : Host) (id : Nat) : Host :=
  { h with
    names := h.names.filter fun held => held.2 ≠ id
    listeners := h.listeners.filter fun other => other ≠ id }

/-- Remove the socket file that `bind` left behind, and nothing else. -/
def cleanup (h : Host) : Endpoint → Host
  | .path text => { h with tree := (removeStaleSocket h.tree text).2 }
  | .name _ => h

end Host
end TokenBroker
