/-!
# TOML values

What a TOML document holds.  A table remembers how it came about, because that decides how it may be
added to later on:

* `inline` and `header` tables are complete where they are written;
* a `dotted` table may be added to by further dotted keys;
* an `implied` table, the parent of a header, may still get a header of its own.
-/

set_option autoImplicit false

namespace TokenBroker
namespace Toml

/-- How a table came about. -/
inductive Origin where
  | inline
  | header
  | dotted
  | implied
  deriving DecidableEq

/-- A value of a document. -/
inductive Value where
  | string (text : String)
  | integer (n : Int)
  /-- A float, as it is written. -/
  | float (text : String)
  | boolean (b : Bool)
  /-- A date, a time or both, as it is written. -/
  | datetime (text : String)
  | array (items : List Value)
  | table (origin : Origin) (entries : List (String × Value))
  /-- An array of tables with headers, each as its entries. -/
  | tables (elements : List (List (String × Value)))

/-- The entries of a table. -/
abbrev Entries := List (String × Value)

namespace Entries

/-- The value of a key. -/
def get? (entries : Entries) (key : String) : Option Value :=
  (entries.find? fun item => item.1 = key).map (·.2)

/-- Give a key a value, in place of the one it has. -/
def put (entries : Entries) (key : String) (v : Value) : Entries :=
  if (entries.get? key).isSome then
    entries.map fun item => if item.1 = key then (key, v) else item
  else entries ++ [(key, v)]

/-- The origin of a table that has to be made on the way. -/
def fresh (byDottedKey : Bool) : Origin := if byDottedKey then .dotted else .implied

/-- Change the table at the end of a path, making the tables on the way that are missing.  A dotted
key does not lead through tables that are complete where they are written. -/
def descend (byDottedKey : Bool) (change : Origin → Entries → Option Entries) :
    List String → Origin → Entries → Option Entries
  | [], origin, entries => change origin entries
  | key :: rest, _, entries =>
    match entries.get? key with
    | none =>
      (descend byDottedKey change rest (fresh byDottedKey) []).map fun inner =>
        entries.put key (.table (fresh byDottedKey) inner)
    | some (.table origin inner) =>
      if origin = .inline || (byDottedKey && origin = .header) then none
      else
        (descend byDottedKey change rest origin inner).map fun inner =>
          entries.put key (.table origin inner)
    | some (.tables elements) =>
      match elements.getLast? with
      | none => none
      | some last =>
        (descend byDottedKey change rest .header last).map fun last =>
          entries.put key (.tables (elements.dropLast ++ [last]))
    | some _ => none

/-- Add the last part of a key with its value to the table that the parts before it lead to.  Keys
are given once, and dotted keys add only to tables made by dotted keys. -/
def define (path : List String) (key : String) (v : Value) (origin : Origin) (entries : Entries) :
    Option Entries :=
  descend true (fun reached inner =>
    if decide (reached = .dotted) == path.isEmpty then none
    else if (inner.get? key).isSome then none
    else some (inner ++ [(key, v)])) path origin entries

/-- Begin a table with a header. -/
def beginTable (path : List String) (entries : Entries) : Option Entries :=
  match path.getLast? with
  | none => none
  | some key =>
    descend false (fun _ inner =>
      match inner.get? key with
      | none => some (inner ++ [(key, .table .header [])])
      | some (.table .implied content) => some (inner.put key (.table .header content))
      | some _ => none) path.dropLast .header entries

/-- Begin a further element of an array of tables. -/
def beginElement (path : List String) (entries : Entries) : Option Entries :=
  match path.getLast? with
  | none => none
  | some key =>
    descend false (fun _ inner =>
      match inner.get? key with
      | none => some (inner ++ [(key, .tables [[]])])
      | some (.tables elements) => some (inner.put key (.tables (elements ++ [[]])))
      | some _ => none) path.dropLast .header entries

end Entries
end Toml
end TokenBroker
