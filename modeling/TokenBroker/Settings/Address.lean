/-!
# Socket addresses

The address that metrics are served on: an IP address of either version and a port.

* `SocketAddress.parse` reads `a.b.c.d:port` and `[groups]:port`, the latter with the usual short
  forms: `::` for a run of zeros, the last two groups as an IPv4 address, `%` and a scope.
* `SocketAddress.text` writes an address in one form only: the longest run of zeros is left out, and
  an IPv4 address inside an IPv6 address is shown as such.
-/

set_option autoImplicit false

namespace TokenBroker

/-- An IP address and a port. -/
inductive SocketAddress where
  | v4 (a b c d : UInt8) (port : UInt16)
  /-- Eight groups, and the scope, which is zero if there is none. -/
  | v6 (groups : List UInt16) (scope : UInt32) (port : UInt16)
  deriving DecidableEq

namespace SocketAddress

/-- A reader of part of an address. -/
abbrev Reader (α : Type) := List Char → Option (α × List Char)

/-! ## Reading -/

/-- The value of a digit in a base up to sixteen. -/
def digitOf? (base : Nat) (c : Char) : Option Nat :=
  let value? :=
    if '0' ≤ c ∧ c ≤ '9' then some (c.toNat - '0'.toNat)
    else if 'a' ≤ c ∧ c ≤ 'f' then some (c.toNat - 'a'.toNat + 10)
    else if 'A' ≤ c ∧ c ≤ 'F' then some (c.toNat - 'A'.toNat + 10)
    else none
  value?.filter (· < base)

/-- Read a number of at least one digit that is at most `max`.  `maxDigits` limits the number of
digits, and leading zeros may be forbidden. -/
def number (base max : Nat) (maxDigits : Option Nat) (leadingZeros : Bool) : Reader Nat :=
  fun input =>
    let digits := input.takeWhile fun c => (digitOf? base c).isSome
    let n := digits.foldl (fun n c => base * n + (digitOf? base c).getD 0) 0
    let tooMany := maxDigits.any fun limit => limit < digits.length
    let padded := !leadingZeros && digits.head? == some '0' && digits.length > 1
    if digits.isEmpty || tooMany || padded || n > max then none
    else some (n, input.drop digits.length)

/-- Go past a character. -/
def past (c : Char) : Reader Unit
  | d :: rest => if c = d then some ((), rest) else none
  | [] => none

/-- Read one of four numbers of an IPv4 address. -/
def octet : Reader UInt8 := fun input =>
  (number 10 255 (some 3) false input).map fun (n, rest) => (UInt8.ofNat n, rest)

/-- Read an IPv4 address. -/
def fourOctets : Reader (UInt8 × UInt8 × UInt8 × UInt8) := fun input => do
  let (a, rest) ← octet input
  let ((), rest) ← past '.' rest
  let (b, rest) ← octet rest
  let ((), rest) ← past '.' rest
  let (c, rest) ← octet rest
  let ((), rest) ← past '.' rest
  let (d, rest) ← octet rest
  return ((a, b, c, d), rest)

/-- Two octets as one group. -/
def group (high low : UInt8) : UInt16 := UInt16.ofNat (256 * high.toNat + low.toNat)

/-- Go past the colon between groups, which does not stand before the first. -/
def separator (first : Bool) : Reader Unit := fun input =>
  if first then some ((), input) else past ':' input

/-- Read up to so many groups.  The answer tells whether they end in an IPv4 address. -/
def someGroups (first : Bool) : Nat → List Char → (List UInt16 × Bool) × List Char
  | 0, input => (([], false), input)
  | n + 1, input =>
    let embedded :=
      if n = 0 then none
      else (separator first input).bind fun ((), rest) => fourOctets rest
    match embedded with
    | some ((a, b, c, d), rest) => (([group a b, group c d], true), rest)
    | none =>
      let next :=
        (separator first input).bind fun ((), rest) => number 16 0xffff (some 4) true rest
      match next with
      | none => (([], false), input)
      | some (g, rest) =>
        let ((groups, embedded), rest) := someGroups false n rest
        ((UInt16.ofNat g :: groups, embedded), rest)

/-- Read an IPv6 address. -/
def eightGroups : Reader (List UInt16) := fun input =>
  let ((head, embedded), rest) := someGroups true 8 input
  if head.length = 8 then some (head, rest)
  else if embedded then none
  else do
    let ((), rest) ← past ':' rest
    let ((), rest) ← past ':' rest
    let ((tail, _), rest) := someGroups true (7 - head.length) rest
    return (head ++ List.replicate (8 - head.length - tail.length) 0 ++ tail, rest)

/-- Read a port. -/
def portNumber : Reader UInt16 := fun input =>
  (number 10 65535 none true input).map fun (n, rest) => (UInt16.ofNat n, rest)

/-- Read an address with an IPv4 address in it. -/
def read4 : Reader SocketAddress := fun input => do
  let ((a, b, c, d), rest) ← fourOctets input
  let ((), rest) ← past ':' rest
  let (port, rest) ← portNumber rest
  return (v4 a b c d port, rest)

/-- Read a scope, if there is one. -/
def scopeNumber (input : List Char) : UInt32 × List Char :=
  match (past '%' input).bind fun ((), rest) => number 10 0xffffffff none true rest with
  | some (n, rest) => (UInt32.ofNat n, rest)
  | none => (0, input)

/-- Read an address with an IPv6 address in it. -/
def read6 : Reader SocketAddress := fun input => do
  let ((), rest) ← past '[' input
  let (groups, rest) ← eightGroups rest
  let (scope, rest) := scopeNumber rest
  let ((), rest) ← past ']' rest
  let ((), rest) ← past ':' rest
  let (port, rest) ← portNumber rest
  return (v6 groups scope port, rest)

/-- The address that a text stands for. -/
def parse (text : String) : Option SocketAddress :=
  match (read4 text.toList).or (read6 text.toList) with
  | some (address, []) => some address
  | _ => none

/-! ## Writing -/

/-- Four octets in decimal. -/
def octetsText (a b c d : Nat) : String :=
  String.intercalate "." ([a, b, c, d].map toString)

/-- Groups in hexadecimal. -/
def groupsText (groups : List UInt16) : String :=
  String.intercalate ":" (groups.map fun g => String.ofList (Nat.toDigits 16 g.toNat))

/-- The number of zeros that a list starts with. -/
def leadingZeros (groups : List UInt16) : Nat := (groups.takeWhile (· = 0)).length

/-- Where the longest run of zeros begins, and how long it is; the first, if there are several. -/
def longestZeros (groups : List UInt16) : Nat × Nat :=
  (List.range groups.length).foldl (fun best i =>
    let n := leadingZeros (groups.drop i)
    if n > best.2 then (i, n) else best) (0, 0)

/-- An IPv6 address as a text. -/
def ipText (groups : List UInt16) : String :=
  match groups with
  | [0, 0, 0, 0, 0, 0xffff, x, y] =>
    "::ffff:" ++ octetsText (x.toNat / 256) (x.toNat % 256) (y.toNat / 256) (y.toNat % 256)
  | _ =>
    let (start, n) := longestZeros groups
    if n > 1 then groupsText (groups.take start) ++ "::" ++ groupsText (groups.drop (start + n))
    else groupsText groups

/-- An address as a text. -/
def text : SocketAddress → String
  | v4 a b c d port =>
    octetsText a.toNat b.toNat c.toNat d.toNat ++ ":" ++ toString port.toNat
  | v6 groups scope port =>
    let zone := if scope = 0 then "" else "%" ++ toString scope.toNat
    "[" ++ ipText groups ++ zone ++ "]:" ++ toString port.toNat

end SocketAddress
end TokenBroker
