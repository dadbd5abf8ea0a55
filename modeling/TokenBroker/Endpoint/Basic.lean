import TokenBroker.Files.Error
/-!
# Endpoints

An endpoint is where the daemon listens: a path in the file tree, or a name in a namespace of its
own that leaves no file behind.  A text that starts with `#` or `@` stands for the name after the
mark, any other text for a path.
-/

set_option autoImplicit false

namespace TokenBroker

/-- Where the daemon listens. -/
inductive Endpoint where
  /-- A socket file. -/
  | path (text : String)
  /-- A name outside the file tree. -/
  | name (text : String)
  deriving DecidableEq

namespace Endpoint

/-- The endpoint that characters stand for. -/
def ofChars : List Char → Except IoError Endpoint
  | [] => .error (.custom .invalidInput "empty endpoint")
  | c :: rest =>
    if c = '#' ∨ c = '@' then
      if rest.isEmpty then .error (.custom .invalidInput "empty abstract socket name")
      else .ok (.name (String.ofList rest))
    else .ok (.path (String.ofList (c :: rest)))

/-- The endpoint that a text stands for. -/
def parse (text : String) : Except IoError Endpoint := ofChars text.toList

/-- An endpoint as a text, names with the mark `#`. -/
def display : Endpoint → String
  | path text => text
  | name text => String.ofList ('#' :: text.toList)

end Endpoint
end TokenBroker
