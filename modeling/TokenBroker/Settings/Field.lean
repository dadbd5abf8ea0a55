import TokenBroker.Identity.Key
import TokenBroker.Settings.Address
import TokenBroker.Toml.Value
/-!
# Fields of settings

How the fields of settings are found in a document.  A section is a table with its fields by name,
or an array with its fields in order; a point in time is a section that has no known field.  A field
that is missing has its default; a key that no field has is ignored; a value that does not fit its
field spoils the document.
-/

set_option autoImplicit false

namespace TokenBroker
namespace Settings

/-- A section of a document. -/
inductive Section where
  | named (entries : Toml.Entries)
  | listed (items : List Toml.Value)

namespace Section

/-- A value as a section. -/
def ofValue? : Toml.Value → Option Section
  | .table _ entries => some (named entries)
  | .array items => some (listed items)
  | .tables elements => some (listed (elements.map (.table .header)))
  | .datetime _ => some (named [])
  | _ => none

/-- The section of a key of a document; if it is missing, it is empty. -/
def ofEntry? (entries : Toml.Entries) (key : String) : Option Section :=
  match entries.get? key with
  | none => some (named [])
  | some v => ofValue? v

/-- A value of a section, by the name or the number of its field. -/
def value? (s : Section) (index : Nat) (name : String) : Option Toml.Value :=
  match s with
  | named entries => entries.get? name
  | listed items => items[index]?

/-- A field of a section: its value as it is read, or its default.  Nothing if the value is
unfit. -/
def field {α : Type} (s : Section) (index : Nat) (name : String) (read : Toml.Value → Option α)
    (missing : α) : Option α :=
  match s.value? index name with
  | none => some missing
  | some v => read v

end Section

/-- A text. -/
def textOf? : Toml.Value → Option String
  | .string text => some text
  | _ => none

/-- A number that is not negative and at most `max`. -/
def naturalOf? (max : Nat) : Toml.Value → Option Nat
  | .integer n => if 0 ≤ n ∧ n ≤ max then some n.toNat else none
  | _ => none

/-- A flag. -/
def flagOf? : Toml.Value → Option Bool
  | .boolean b => some b
  | _ => none

/-- An address, written as a text. -/
def addressOf? (v : Toml.Value) : Option SocketAddress := (textOf? v).bind SocketAddress.parse

/-- Whether a value is an empty collection. -/
def isEmptyCollection : Toml.Value → Bool
  | .table _ [] => true
  | .array [] => true
  | _ => false

/-- A scope, written as its name, or as a table with nothing under its name. -/
def scopeOf? : Toml.Value → Option IdentityScope
  | .string name => IdentityScope.ofName? name
  | .table _ [(name, v)] =>
    if isEmptyCollection v then IdentityScope.ofName? name else none
  | _ => none

/-- The largest 64-bit number. -/
def max64 : Nat := UInt64.size - 1

/-- The largest 32-bit number. -/
def max32 : Nat := UInt32.size - 1

end Settings
end TokenBroker
