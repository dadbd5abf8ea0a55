import TokenBroker.Files.Access
import TokenBroker.Record.Archive
import TokenBroker.Registry.Error
/-!
# The registry

A registry keeps at most one token per key, in the file `<root>/<key>/auth_token.so`.  Its
operations are functions on a file tree.

* `Registry.open` makes the root and clears away what interrupted stores left behind; from then on
  the registry is where its root was found.
* `Registry.store` writes the record to a temporary file beside the entry and moves it over the
  entry, so that at each point of `Registry.storeSteps` the entry is the old one or the new one.
* `Registry.read`, `Registry.delete` and `Registry.contains` look at the entry alone.

The root is a path only while the registry is opened.  After that everything works on the place that
it led to, so that the bound on the length of a path concerns the text of the root alone, and not
that text with a key and a name behind it.
-/

set_option autoImplicit false

namespace TokenBroker

/-- A registry: where it is and how large a token it takes. -/
structure Registry where
  /-- The directory that holds all entries, as it was named. -/
  root : String
  /-- The place of that directory. -/
  place : Place
  /-- The largest number of bytes that `store` accepts. -/
  maxObjectSize : Nat
  deriving DecidableEq

namespace Registry

/-- The name of an entry in the directory of its key. -/
def entryName : String := "auth_token.so"

/-- How the name of a temporary file starts. -/
def temporaryStart : String := ".auth_token."

/-- How the name of a temporary file ends. -/
def temporaryEnd : String := ".tmp"

/-- The mode of the root and of the directories of keys. -/
def directoryMode : Nat := 0o700

/-- The mode of an entry. -/
def entryMode : Nat := 0o600

/-- Whether a name is that of a temporary file.  Start and end may overlap. -/
def isTemporaryName (name : String) : Bool :=
  temporaryStart.toList.isPrefixOf name.toList && temporaryEnd.toList.isSuffixOf name.toList

/-- The directory of a key. -/
def entryDirectory (r : Registry) (key : IdentityKey) : Place := r.place ++ [key.text]

/-- The entry of a key. -/
def entryPlace (r : Registry) (key : IdentityKey) : Place := r.entryDirectory key ++ [entryName]

/-! ## Opening -/

/-- The files with the name of a temporary file in the directories right below the root. -/
def temporaries (t : Tree) (root : Place) : List Place :=
  ((t.names root).filter fun name => t.isDirectory (root ++ [name])).flatMap fun name =>
    ((t.names (root ++ [name])).filter isTemporaryName).map fun file => root ++ [name, file]

/-- The steps of opening a registry whose root is there: it is closed to others, and the files of
interrupted stores are removed. -/
def openSteps (t : Tree) (root : Place) : List FileStep :=
  .setMode root directoryMode :: (temporaries t root).map .unlink

/-- Open a registry, making its root if there is none. -/
def «open» (t : Tree) (root : String) (maxObjectSize : Nat) :
    Except StorageError Registry × Tree :=
  match t.makePath root with
  | (.error e, t) => (.error (.io e), t)
  | (.ok (), t) =>
    match t.locate root with
    | .error e => (.error (.io e), t)
    | .ok p =>
      match t.runSteps (openSteps t p) with
      | (.error e, t) => (.error (.io e), t)
      | (.ok (), t) => (.ok ⟨root, p, maxObjectSize⟩, t)

/-! ## Storing -/

/-- The name of the `n`-th temporary file. -/
def temporaryName (n : Nat) : String :=
  temporaryStart ++ Hex.padded 6 n ++ temporaryEnd

/-- A place for a temporary file in a directory where nothing is.  Among one more name than there
are entries, one is free. -/
def freeTemporary (t : Tree) (directory : Place) : Place :=
  let candidates := (List.range (t.entries.length + 1)).map fun n => directory ++ [temporaryName n]
  (candidates.find? fun p => (t.find? p).isNone).getD (directory ++ [temporaryName 0])

/-- The steps that make the directory of a key, if nothing is there. -/
def directorySteps (t : Tree) (directory : Place) : List FileStep :=
  if t.has directory then []
  else t.makeDirectories directory ++ [.setMode directory directoryMode]

/-- The steps that replace the entry of a directory by a file with the given content. -/
def replaceSteps (directory temporary : Place) (content : Bytes) : List FileStep :=
  [.createFile temporary entryMode, .append temporary content, .sync temporary,
    .rename temporary (directory ++ [entryName]), .sync directory]

/-- All steps of a store. -/
def storeSteps (t : Tree) (directory : Place) (content : Bytes) : List FileStep :=
  directorySteps t directory ++ replaceSteps directory (freeTemporary t directory) content

/-- Store a token, or replace the one there is.  `now` is the time the record notes. -/
def store (r : Registry) (t : Tree) (key : IdentityKey) (blob : Bytes) (now : UInt64) :
    Except StorageError Unit × Tree :=
  if blob.length > r.maxObjectSize then (.error (.tooLarge blob.length r.maxObjectSize), t)
  else
    match (Record.ofBlob blob now).encode with
    | .error text => (.error (.serialization text), t)
    | .ok content =>
      let directory := r.entryDirectory key
      match t.run (storeSteps t directory content) with
      | (.ok (), t') => (.ok (), t')
      | (.error errno, t') =>
        (.error (.io (.os errno)), t'.discard (freeTemporary t directory))

/-! ## Looking up and removing -/

/-- The record of a key. -/
def load (r : Registry) (t : Tree) (key : IdentityKey) : Except StorageError Record :=
  match t.readFile (r.entryPlace key) with
  | .error .noEntry => .error (.notFound key)
  | .error errno => .error (.io (.os errno))
  | .ok content =>
    match Record.decode content with
    | .error defect => .error (.corrupt defect)
    | .ok record => .ok record

/-- The token of a key. -/
def read (r : Registry) (t : Tree) (key : IdentityKey) : Except StorageError Bytes :=
  match r.load t key with
  | .error e => .error e
  | .ok record => .ok record.blob

/-- Remove the entry of a key.  That there is none shows when it is taken away; whatever fails after
that is a failure of input and output. -/
def delete (r : Registry) (t : Tree) (key : IdentityKey) : Except StorageError Unit × Tree :=
  match t.run [.unlink (r.entryPlace key)] with
  | (.error .noEntry, t') => (.error (.notFound key), t')
  | (.error errno, t') => (.error (.io (.os errno)), t')
  | (.ok (), t') =>
    match t'.runSteps [.sync (r.entryDirectory key)] with
    | (.error e, t') => (.error (.io e), t')
    | (.ok (), t') => (.ok (), t')

/-- Whether a key has an entry, readable or not. -/
def contains (r : Registry) (t : Tree) (key : IdentityKey) : Bool :=
  match t.stat (r.entryPlace key) with
  | .ok e => e.isFile
  | .error _ => false

end Registry
end TokenBroker
