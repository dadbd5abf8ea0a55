import TokenBroker.Toml.Text
/-!
# TOML documents

`Toml.parse` reads a whole document.  It gives the entries of the table that the document is, or
nothing if the document is not well-formed.

Arrays and inline tables nest to a fixed depth only, which is what the recursion of `Toml.value` is
on.
-/

set_option autoImplicit false

namespace TokenBroker
namespace Toml

/-! ## Values -/

/-- Read the values of an array after its opening bracket; `fuel` bounds their number. -/
def items (item : Scanner Value) : Nat → Scanner (List Value)
  | 0, _ => none
  | fuel + 1, input =>
    match skipSpace input with
    | ']' :: rest => some ([], rest)
    | rest =>
      match item rest with
      | none => none
      | some (v, rest) =>
        match skipSpace rest with
        | ',' :: rest => (items item fuel rest).map fun (vs, rest) => (v :: vs, rest)
        | ']' :: rest => some ([v], rest)
        | _ => none

/-- Read one entry of an inline table, with the blanks around it. -/
def pair (item : Scanner Value) : Scanner ((List String × String) × Value) := fun input =>
  match key input with
  | some (k, '=' :: rest) =>
    (item (skipBlanks rest)).map fun (v, rest) => ((k, v), skipBlanks rest)
  | _ => none

/-- Read the entries of an inline table, each of which is followed by a comma or the closing brace;
`fuel` bounds their number. -/
def pairs (item : Scanner Value) : Nat → Entries → Scanner Entries
  | 0, _, _ => none
  | fuel + 1, entries, input =>
    match pair item input with
    | none => none
    | some (((path, k), v), rest) =>
      match Entries.define path k v .inline entries with
      | none => none
      | some entries =>
        match rest with
        | ',' :: rest => pairs item fuel entries rest
        | '\x7d' :: rest => some (entries, rest)
        | _ => none

/-- Read an inline table after its opening brace. -/
def inlineTable (item : Scanner Value) : Scanner Entries := fun input =>
  match skipBlanks input with
  | '\x7d' :: rest => some ([], rest)
  | rest => pairs item (input.length + 1) [] rest

/-- Read a value that holds fewer than `depth` levels of arrays and inline tables. -/
def value (depth : Nat) : Scanner Value := fun input =>
  match input with
  | [] => none
  | c :: rest =>
    if c = '\"' || c = '\'' then (string input).map fun (s, rest) => (.string s, rest)
    else if c = '[' then
      match depth with
      | 0 => none
      | depth + 1 =>
        (items (value depth) (input.length + 1) rest).map fun (vs, rest) => (.array vs, rest)
    else if c = '\x7b' then
      match depth with
      | 0 => none
      | depth + 1 =>
        (inlineTable (value depth) rest).map fun (entries, rest) => (.table .inline entries, rest)
    else if c.isDigit || c = '+' || c = '-' then numberOrDate input
    else word input

/-! ## Lines -/

/-- A document as far as it has been read: its entries, and the header that further entries belong
to. -/
structure Draft where
  root : Entries
  header : List String

namespace Draft

/-- A document of which nothing was read. -/
def empty : Draft := ⟨[], []⟩

/-- Add an entry to the present table. -/
def add (d : Draft) (path : List String) (k : String) (v : Value) : Option Draft :=
  (Entries.descend false (fun origin entries => Entries.define path k v origin entries) d.header
    .header d.root).map fun root => { d with root := root }

/-- Begin a table. -/
def beginTable (d : Draft) (path : List String) : Option Draft :=
  (Entries.beginTable path d.root).map fun root => ⟨root, path⟩

/-- Begin an element of an array of tables. -/
def beginElement (d : Draft) (path : List String) : Option Draft :=
  (Entries.beginElement path d.root).map fun root => ⟨root, path⟩

end Draft

/-- Read a header after its opening brackets, and begin what it announces. -/
def header (close : String) (begin : List String → Option Draft) : Scanner Draft := fun input =>
  match key input with
  | none => none
  | some ((path, last), rest) =>
    match literally close rest with
    | none => none
    | some ((), rest) =>
      match endOfLine rest with
      | none => none
      | some ((), rest) => (begin (path ++ [last])).map fun d => (d, rest)

/-- Read an entry of the present table. -/
def entry (d : Draft) : Scanner Draft := fun input =>
  match key input with
  | some ((path, last), '=' :: rest) =>
    match value (maxDepth - 1) (skipBlanks rest) with
    | none => none
    | some (v, rest) =>
      match endOfLine rest with
      | none => none
      | some ((), rest) => (d.add path last v).map fun d => (d, rest)
  | _ => none

/-- Read one line, of which the blanks in front are gone. -/
def line (d : Draft) : Scanner Draft
  | '[' :: '[' :: rest => header "]]" d.beginElement rest
  | '[' :: rest => header "]" d.beginTable rest
  | '#' :: rest => (endOfLine ('#' :: rest)).map fun ((), rest) => (d, rest)
  | c :: rest =>
    if c = '\n' || c = '\x0d' then (lineBreak (c :: rest)).map fun ((), rest) => (d, rest)
    else entry d (c :: rest)
  | [] => some (d, [])

/-- Read all lines; `fuel` bounds their number. -/
def lines : Nat → Draft → List Char → Option Draft
  | 0, _, _ => none
  | fuel + 1, d, input =>
    match skipBlanks input with
    | [] => some d
    | rest =>
      match line d rest with
      | none => none
      | some (d, rest) => lines fuel d rest

/-- What follows the mark that some editors put in front of a text. -/
def skipMark : List Char → List Char
  | '\ufeff' :: rest => rest
  | input => input

/-- The entries of a document. -/
def parse (text : String) : Option Entries :=
  let input := skipMark text.toList
  (lines (input.length + 1) .empty input).map Draft.root

end Toml
end TokenBroker
