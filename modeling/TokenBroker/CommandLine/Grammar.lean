/-!
# Command lines

A program is called with words.  Its `Grammar` tells the options it knows, how many other words it
takes, and the commands it has; `Grammar.scan` sorts the words accordingly.

An option is written `--name value`, `--name=value`, or, if it has a letter, `-n value`, `-nvalue`
or `-n=value`; switches with letters may share a dash.  After `--` no word is an option or a
command.  The scan stops at a command: the words after it are for the command to sort.

A value that is a word of its own is only looked at when the next option, the next plain word or the
end of the line is reached.  So an option with a bad value gives way to a command after it that asks
for help.
-/

set_option autoImplicit false

namespace TokenBroker
namespace CommandLine

/-- What the value of an option may be. -/
inductive ValueKind where
  | text
  /-- A text that is not empty. -/
  | path
  /-- A decimal number of at most 64 bits, with or without a plus sign. -/
  | number
  deriving DecidableEq

/-- What an option does. -/
inductive Effect where
  | value (kind : ValueKind) (repeatable : Bool)
  | switch
  | help
  | version
  deriving DecidableEq

/-- An option of a program. -/
structure Rule where
  name : String
  letter : Option Char
  effect : Effect
  deriving DecidableEq

/-- What a program understands. -/
structure Grammar where
  rules : List Rule
  /-- How many words there may be that are no options. -/
  operands : Nat
  commands : List String

/-- Why a program does not get to its work. -/
inductive Detour where
  /-- Help is asked for, on a command or on the program. -/
  | help (topic : Option String)
  | version
  /-- The words make no sense. -/
  | unusable
  deriving DecidableEq

/-! ## Values -/

/-- The number that a text denotes. -/
def number? (text : String) : Option Nat :=
  let digits :=
    match text.toList with
    | '+' :: rest => rest
    | cs => cs
  if digits.isEmpty || !digits.all Char.isDigit then none
  else
    let n := digits.foldl (fun n c => 10 * n + (c.toNat - 48)) 0
    if n < UInt64.size then some n else none

/-- Whether a text is a value of a kind. -/
def ValueKind.accepts (text : String) : ValueKind → Bool
  | .text => true
  | .path => text ≠ ""
  | .number => (number? text).isSome

/-- Whether an option may be given again with a value, `before` being the options so far. -/
def Rule.admits (r : Rule) (before : List (String × String)) (text : String) : Bool :=
  let isNew := before.all fun given => given.1 ≠ r.name
  match r.effect with
  | .value kind repeatable => (repeatable || isNew) && kind.accepts text
  | _ => isNew

/-! ## Scanning -/

/-- What is known after some words. -/
structure Scan where
  /-- The options so far, each with its value; that of a switch is empty. -/
  given : List (String × String) := []
  /-- An option that was not looked at yet, with its value if that was there. -/
  pending : Option (Rule × Option String) := none
  /-- The words that are no options. -/
  operands : List String := []
  /-- Whether `--` was met. -/
  literal : Bool := false

namespace Scan

/-- Whether the next word is the value of an option. -/
def isAwaiting (s : Scan) : Bool :=
  match s.pending with
  | some (_, none) => !s.literal
  | _ => false

/-- Take an option with its value. -/
def record (s : Scan) (r : Rule) (text : String) : Except Detour Scan :=
  if r.admits s.given text then .ok { s with given := s.given ++ [(r.name, text)] }
  else .error .unusable

/-- Look at the option that was not looked at yet. -/
def settle (s : Scan) : Except Detour Scan :=
  match s.pending with
  | none => .ok s
  | some (_, none) => .error .unusable
  | some (r, some text) => { s with pending := none }.record r text

/-- Follow an option, with a value if one is attached to it. -/
def follow (s : Scan) (r : Rule) (attached : Option String) : Except Detour Scan := do
  match r.effect, attached with
  | .value _ _, some text => (← s.settle).record r text
  | .value _ _, none => return { (← s.settle) with pending := some (r, none) }
  | _, some _ => throw .unusable
  | .switch, none => (← s.settle).record r ""
  | .help, none =>
    let _ ← s.settle
    throw (.help none)
  | .version, none =>
    let _ ← s.settle
    throw .version

/-- Take a word that is no option. -/
def operand (s : Scan) (most : Nat) (word : String) : Except Detour Scan := do
  if s.operands.length < most then
    let s ← s.settle
    return { s with operands := s.operands ++ [word] }
  else throw .unusable

/-- All values of an option. -/
def values (s : Scan) (name : String) : List String :=
  s.given.filterMap fun given => if given.1 = name then some given.2 else none

/-- The value of an option that is given at most once. -/
def value? (s : Scan) (name : String) : Option String := (s.values name).head?

/-- Whether an option is given. -/
def has (s : Scan) (name : String) : Bool := (s.value? name).isSome

end Scan

/-- The name of an option that a word spells out, with the value attached to it. -/
def spelledOut? (word : List Char) : Option (String × Option String) :=
  match word with
  | '-' :: '-' :: c :: rest =>
    let cs := c :: rest
    let name := String.ofList (cs.takeWhile (· ≠ '='))
    match cs.dropWhile (· ≠ '=') with
    | [] => some (name, none)
    | _ :: text => some (name, some (String.ofList text))
  | _ => none

/-- The letters, and perhaps the value after them, of a word with a single dash. -/
def letters? (word : List Char) : Option (List Char) :=
  match word with
  | '-' :: c :: rest => if c = '-' then none else some (c :: rest)
  | _ => none

namespace Grammar

/-- The option of a name. -/
def named? (g : Grammar) (name : String) : Option Rule := g.rules.find? fun r => r.name = name

/-- The option of a letter. -/
def lettered? (g : Grammar) (c : Char) : Option Rule := g.rules.find? fun r => r.letter = some c

/-- Follow the options of a word with a single dash. -/
def followLetters (g : Grammar) (s : Scan) : List Char → Except Detour Scan
  | [] => .ok s
  | c :: rest =>
    match g.lettered? c with
    | none => .error .unusable
    | some r =>
      match r.effect, rest with
      | .value _ _, [] => s.follow r none
      | .value _ _, '=' :: text => s.follow r (some (String.ofList text))
      | .value _ _, text => s.follow r (some (String.ofList text))
      | _, _ =>
        match s.follow r none with
        | .error d => .error d
        | .ok s => g.followLetters s rest

/-- Follow a word that is not a command. -/
def followWord (g : Grammar) (s : Scan) (word : String) : Except Detour Scan :=
  if s.literal then s.operand g.operands word
  else if word = "--" then .ok { s with literal := true }
  else
    match spelledOut? word.toList, letters? word.toList with
    | some (name, attached), _ =>
      match g.named? name with
      | none => .error .unusable
      | some r => s.follow r attached
    | none, some cs => g.followLetters s cs
    | none, none =>
      match s.pending with
      | some (r, none) => .ok { s with pending := some (r, some word) }
      | _ => s.operand g.operands word

/-- Whether a word is a command. -/
def isCommand (g : Grammar) (s : Scan) (word : String) : Bool :=
  !s.literal && !s.isAwaiting && g.commands.contains word

/-- Sort words, up to a command.  The answer includes the command and the words after it, if there
is one; then the last option before it was not looked at yet. -/
def scan (g : Grammar) (s : Scan) :
    List String → Except Detour (Scan × Option (String × List String))
  | [] =>
    match s.settle with
    | .error d => .error d
    | .ok s => .ok (s, none)
  | word :: rest =>
    if g.isCommand s word then .ok (s, some (word, rest))
    else
      match g.followWord s word with
      | .error d => .error d
      | .ok s => g.scan s rest

end Grammar

/-- The option that every program has. -/
def helpRule : Rule := ⟨"help", some 'h', .help⟩

/-- The option that asks for the version of a program. -/
def versionRule : Rule := ⟨"version", some 'V', .version⟩

end CommandLine
end TokenBroker
