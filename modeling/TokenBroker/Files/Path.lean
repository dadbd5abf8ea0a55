/-!
# Paths

A path is a text of parts between slashes.  Two readings of it matter.

* As a text alone: repeated and trailing slashes do not count, nor does a `.` unless it starts a
  relative path.  `Path.components` and `Path.same` compare paths so, and `Path.parent?` and
  `Path.above` cut parts off the end.
* As a way through a file tree, where each part on the way has to be there: that is a matter of the
  tree, and `Path.parts` gives what is walked along.

A `Place` is where a way ends, as the names on the way down from the root.
-/

set_option autoImplicit false

namespace TokenBroker

/-- A position in a file tree: the names on the way down from the root. -/
abbrev Place := List String

namespace Path

/-- The parts of a text between slashes, empty parts included. -/
def splitSlashes (text : List Char) : List (List Char) :=
  text.foldr (fun c parts =>
    match parts with
    | [] => [[c]]
    | part :: rest => if c = '/' then [] :: part :: rest else (c :: part) :: rest) [[]]

/-- The parts of a path between slashes, empty parts included. -/
def pieces (text : String) : List String := (splitSlashes text.toList).map String.ofList

/-- Whether a path starts at the root. -/
def isAbsolute (text : String) : Bool := text.toList.head? = some '/'

/-- Whether a path ends in a slash, and so can only name a directory. -/
def endsInSlash (text : String) : Bool := text.toList.getLast? = some '/'

/-! ## Paths as texts -/

/-- The components of a path: the parts that are neither empty nor `.`, and a `.` in front of a
relative path. -/
def components (text : String) : List String :=
  let parts := pieces text
  let proper := parts.filter fun part => part ≠ "" ∧ part ≠ "."
  match isAbsolute text, parts with
  | false, "." :: _ => "." :: proper
  | _, _ => proper

/-- Two paths are the same if they start at the same point and have the same components. -/
def same (a b : String) : Bool :=
  isAbsolute a = isAbsolute b && components a = components b

/-- The beginnings of a path that end in a part that counts, the shortest first.  The part before
the first slash counts in any case, so an absolute path has the empty beginning. -/
def heads (text : String) : List String :=
  let parts := pieces text
  (List.range parts.length).filterMap fun n =>
    match parts[n]? with
    | none => none
    | some part =>
      if n = 0 ∨ (part ≠ "" ∧ part ≠ ".") then
        some (String.intercalate "/" (parts.take (n + 1)))
      else none

/-- The path above the last component, if there is one; it is empty above a single name. -/
def parent? (text : String) : Option String :=
  match (heads text).reverse with
  | _ :: head :: _ => some (if head = "" then "/" else head)
  | _ => if text = "" ∨ isAbsolute text then none else some ""

/-- A path and the paths above it, the longest first, without the root and the empty path. -/
def above (text : String) : List String :=
  if parent? text = none then []
  else text :: (heads text).reverse.tail.filter fun head => head ≠ ""

/-! ## Paths as ways -/

/-- The parts to walk along. -/
def parts (text : String) : List String := (pieces text).filter fun part => part ≠ ""

/-- Go from a place along parts, as if there was a directory at each step. -/
def follow (start : Place) : List String → Place
  | [] => start
  | "." :: rest => follow start rest
  | ".." :: rest => follow start.dropLast rest
  | name :: rest => follow (start ++ [name]) rest

/-- The place that a path leads to where nothing is missing; relative paths start at the root,
too. -/
def place (text : String) : Place := follow [] (parts text)

end Path
end TokenBroker
