import TokenBroker.CommandLine.Grammar
/-!
# Arguments of the control program

The control program is told what to do with the caller's token by one of four commands, and before
that, by options, how to reach the daemon.  `Control.Arguments.ofWords` understands the words it is
called with.
-/

set_option autoImplicit false

namespace TokenBroker
namespace Control

open CommandLine

/-- Where a token to be stored comes from. -/
inductive TokenSource where
  /-- Spelled out in hexadecimal digits. -/
  | spelled (text : String)
  | file (path : String)
  deriving DecidableEq

/-- What is to be done. -/
inductive Request where
  | store (source : TokenSource)
  /-- Print the token, or write it to a file. -/
  | read (target : Option String)
  | delete
  | ping
  deriving DecidableEq

/-- All that the control program is told. -/
structure Arguments where
  settings : Option String
  endpoint : Option String
  timeoutMs : Option Nat
  request : Request
  deriving DecidableEq

/-- The command that asks for help on another. -/
def helpCommand : String := "help"

/-- The commands that do something. -/
def commands : List String := ["store", "read", "delete", "ping"]

/-- What comes before the command. -/
def grammar : Grammar where
  rules := [⟨"config", some 'c', .value .path false⟩, ⟨"endpoint", none, .value .text false⟩,
    ⟨"timeout-ms", none, .value .number false⟩, helpRule, versionRule]
  operands := 0
  commands := commands ++ [helpCommand]

/-- What comes after `store`. -/
def storeGrammar : Grammar := ⟨[⟨"file", none, .value .path false⟩, helpRule], 1, []⟩

/-- What comes after `read`. -/
def readGrammar : Grammar := ⟨[⟨"out", none, .value .path false⟩, helpRule], 0, []⟩

/-- What comes after a command that needs nothing. -/
def plainGrammar : Grammar := ⟨[helpRule], 0, []⟩

/-- Sort the words after a command. -/
def scanAfter (command : String) (g : Grammar) (words : List String) : Except Detour Scan :=
  match g.scan {} words with
  | .ok (s, _) => .ok s
  | .error (.help _) => .error (.help (some command))
  | .error d => .error d

namespace Request

/-- What is to be stored: spelled out or in a file, one of the two. -/
def ofStoreWords (words : List String) : Except Detour Request := do
  let s ← scanAfter "store" storeGrammar words
  match s.operands, s.value? "file" with
  | [text], none => return .store (.spelled text)
  | [], some path => return .store (.file path)
  | _, _ => throw .unusable

/-- A command with the words after it. -/
def ofWords (command : String) (words : List String) : Except Detour Request :=
  match command with
  | "store" => ofStoreWords words
  | "read" => do
    let s ← scanAfter command readGrammar words
    return .read (s.value? "out")
  | "delete" => do
    let _ ← scanAfter command plainGrammar words
    return .delete
  | "ping" => do
    let _ ← scanAfter command plainGrammar words
    return .ping
  | _ => .error .unusable

end Request

/-- The help that the words after `help` ask for. -/
def helpTopic : List String → Detour
  | [] => .help none
  | [command] => if grammar.commands.contains command then .help (some command) else .unusable
  | _ => .unusable

/-- What the words of a command line mean. -/
def Arguments.ofWords (words : List String) : Except Detour Arguments := do
  match ← grammar.scan {} words with
  | (_, none) => throw .unusable
  | (s, some (command, rest)) =>
    if command = helpCommand then throw (helpTopic rest)
    let request ← Request.ofWords command rest
    let s ← s.settle
    return ⟨s.value? "config", s.value? "endpoint", (s.value? "timeout-ms").bind number?, request⟩

end Control
end TokenBroker
