import TokenBroker.Toml.Value
/-!
# Numbers, dates and times in TOML

Scanners for the values that start with a digit or a sign, and for the words that stand for values.
Each takes characters and gives what it read and the rest, or nothing if the characters do not begin
with what it is for.
-/

set_option autoImplicit false

namespace TokenBroker
namespace Toml

/-- A scanner. -/
abbrev Scanner (α : Type) := List Char → Option (α × List Char)

/-- Go through a fixed text. -/
def literally (text : String) : Scanner Unit := fun input =>
  if text.toList.isPrefixOf input then some ((), input.drop text.length) else none

/-- Read one character of a class. -/
def one (allowed : Char → Bool) : Scanner Char
  | [] => none
  | c :: rest => if allowed c then some (c, rest) else none

/-- Read exactly so many characters of a class. -/
def exactly (allowed : Char → Bool) : Nat → Scanner (List Char)
  | 0, input => some ([], input)
  | n + 1, input =>
    match one allowed input with
    | none => none
    | some (c, rest) => (exactly allowed n rest).map fun (cs, rest) => (c :: cs, rest)

/-- Read a sign, if there is one. -/
def optionalSign : List Char → List Char × List Char
  | '+' :: rest => (['+'], rest)
  | '-' :: rest => (['-'], rest)
  | input => ([], input)

/-! ## Digits -/

/-- Whether a character is a hexadecimal digit. -/
def isHexDigit (c : Char) : Bool :=
  c.isDigit || ('a' ≤ c && c ≤ 'f') || ('A' ≤ c && c ≤ 'F')

/-- Whether a character is an octal digit. -/
def isOctalDigit (c : Char) : Bool := '0' ≤ c && c ≤ '7'

/-- Whether a character is a binary digit. -/
def isBinaryDigit (c : Char) : Bool := c = '0' || c = '1'

/-- The value of a digit of whatever base. -/
def digitValue (c : Char) : Nat :=
  if c.isDigit then c.toNat - '0'.toNat
  else if 'a' ≤ c && c ≤ 'f' then c.toNat - 'a'.toNat + 10
  else c.toNat - 'A'.toNat + 10

/-- The number that digits spell. -/
def numberOf (base : Nat) (digits : List Char) : Nat :=
  digits.foldl (fun n c => base * n + digitValue c) 0

/-- Read the digits that follow a digit, each of which an underscore may precede. -/
def moreDigits (allowed : Char → Bool) : List Char → Option (List Char × List Char)
  | '_' :: c :: rest =>
    if allowed c then (moreDigits allowed rest).map fun (cs, rest) => (c :: cs, rest) else none
  | ['_'] => none
  | c :: rest =>
    if allowed c then (moreDigits allowed rest).map fun (cs, rest) => (c :: cs, rest)
    else some ([], c :: rest)
  | [] => some ([], [])

/-- Read one or more digits, single underscores between them. -/
def digits (allowed : Char → Bool) : Scanner (List Char) := fun input =>
  match one allowed input with
  | none => none
  | some (c, rest) => (moreDigits allowed rest).map fun (cs, rest) => (c :: cs, rest)

/-- Read a decimal integer without leading zeros; a sign may precede it. -/
def decimal : Scanner (List Char × List Char) := fun input =>
  let (sign, rest) := optionalSign input
  match rest with
  | '0' :: rest => some ((sign, ['0']), rest)
  | _ => (digits Char.isDigit rest).map fun (cs, rest) => ((sign, cs), rest)

/-! ## Integers -/

/-- The largest integer there is. -/
def maxInteger : Int := 0x7fffffffffffffff

/-- The smallest integer there is. -/
def minInteger : Int := -0x8000000000000000

/-- An integer, if it is in range. -/
def inRange (n : Int) : Option Value :=
  if minInteger ≤ n ∧ n ≤ maxInteger then some (.integer n) else none

/-- Read an integer with the mark of a base. -/
def basedInteger (base : Nat) (allowed : Char → Bool) (input : List Char) :
    Option (Value × List Char) :=
  match digits allowed input with
  | none => none
  | some (cs, rest) => (inRange (numberOf base cs)).map fun v => (v, rest)

/-- Read an integer. -/
def integer : Scanner Value
  | '0' :: 'x' :: rest => basedInteger 16 isHexDigit rest
  | '0' :: 'o' :: rest => basedInteger 8 isOctalDigit rest
  | '0' :: 'b' :: rest => basedInteger 2 isBinaryDigit rest
  | input =>
    match decimal input with
    | none => none
    | some ((sign, cs), rest) =>
      let n : Int := numberOf 10 cs
      (inRange (if sign = ['-'] then -n else n)).map fun v => (v, rest)

/-! ## Floats -/

/-- Read the fraction of a float, if there is one. -/
def fraction : List Char → Option (List Char × List Char)
  | '.' :: rest => digits Char.isDigit rest
  | input => some ([], input)

/-- Read the exponent of a float, if there is one. -/
def exponent : List Char → Option (Option (List Char × List Char) × List Char)
  | c :: rest =>
    if c = 'e' || c = 'E' then
      let (sign, rest) := optionalSign rest
      (digits Char.isDigit rest).map fun (cs, rest) => (some (sign, cs), rest)
    else some (none, c :: rest)
  | [] => some (none, [])

/-- Whether `significand * 10 ^ power` is so large that it rounds to infinity as a 64-bit float. -/
def overflows (significand : Nat) (power : Int) : Bool :=
  let magnitude : Int := (Nat.toDigits 10 significand).length + power
  if significand = 0 || magnitude < 300 then false
  else if magnitude > 320 then true
  else
    let threshold := (1 <<< 1024) - (1 <<< 970)
    if power < 0 then threshold * Nat.pow 10 power.natAbs ≤ significand
    else threshold ≤ significand * Nat.pow 10 power.toNat

/-- The words for special floats. -/
def specialFloat : Scanner Value := fun input =>
  let (sign, rest) := optionalSign input
  match rest with
  | 'i' :: 'n' :: 'f' :: rest => some (.float (String.ofList (sign ++ ['i', 'n', 'f'])), rest)
  | 'n' :: 'a' :: 'n' :: rest => some (.float (String.ofList (sign ++ ['n', 'a', 'n'])), rest)
  | _ => none

/-- Read a float with a fraction or an exponent.  One that is too large is refused, unless it is
negative. -/
def ordinaryFloat : Scanner Value := fun input =>
  match decimal input with
  | none => none
  | some ((sign, whole), rest) =>
    match fraction rest with
    | none => none
    | some (places, rest) =>
      match exponent rest with
      | none => none
      | some (power, rest) =>
        if places.isEmpty && power.isNone then none
        else
          let shift : Int :=
            match power with
            | none => 0
            | some (sign, cs) => if sign = ['-'] then -(numberOf 10 cs : Int) else numberOf 10 cs
          if sign ≠ ['-'] && overflows (numberOf 10 (whole ++ places)) (shift - places.length) then
            none
          else
            some (.float (String.ofList (input.take (input.length - rest.length))), rest)

/-! ## Dates and times -/

/-- Read a number of a fixed count of digits that is within bounds. -/
def fixedNumber (count low high : Nat) : Scanner Nat := fun input =>
  match exactly Char.isDigit count input with
  | none => none
  | some (cs, rest) =>
    let n := numberOf 10 cs
    if low ≤ n ∧ n ≤ high then some (n, rest) else none

/-- The number of days of a month. -/
def daysIn (year month : Nat) : Nat :=
  if month = 2 then
    if year % 4 = 0 ∧ (year % 100 ≠ 0 ∨ year % 400 = 0) then 29 else 28
  else if month = 4 ∨ month = 6 ∨ month = 9 ∨ month = 11 then 30
  else 31

/-- Read a date. -/
def date : Scanner Unit := fun input => do
  let (year, rest) ← fixedNumber 4 0 9999 input
  let ((), rest) ← literally "-" rest
  let (month, rest) ← fixedNumber 2 1 12 rest
  let ((), rest) ← literally "-" rest
  let (_, rest) ← fixedNumber 2 1 (daysIn year month) rest
  return ((), rest)

/-- Read the fraction of a second, if there is one. -/
def secondFraction : Scanner Unit
  | '.' :: rest =>
    match one Char.isDigit rest with
    | none => none
    | some (_, rest) => some ((), rest.dropWhile Char.isDigit)
  | input => some ((), input)

/-- Read a time of day; a second may be a leap second. -/
def timeOfDay : Scanner Unit := fun input => do
  let (_, rest) ← fixedNumber 2 0 23 input
  let ((), rest) ← literally ":" rest
  let (_, rest) ← fixedNumber 2 0 59 rest
  let ((), rest) ← literally ":" rest
  let (_, rest) ← fixedNumber 2 0 60 rest
  secondFraction rest

/-- Read the offset of a time from universal time, if there is one. -/
def offset : Scanner Unit
  | [] => some ((), [])
  | c :: rest =>
    if c = 'Z' || c = 'z' then some ((), rest)
    else if c = '+' || c = '-' then do
      let (_, rest) ← fixedNumber 2 0 23 rest
      let ((), rest) ← literally ":" rest
      let (_, rest) ← fixedNumber 2 0 59 rest
      return ((), rest)
    else some ((), c :: rest)

/-- Read the time that follows a date, if there is one. -/
def timeAfterDate : Scanner Unit
  | [] => some ((), [])
  | c :: rest =>
    if c = 'T' || c = 't' || c = ' ' then
      match timeOfDay rest with
      | none => some ((), c :: rest)
      | some ((), rest) => offset rest
    else some ((), c :: rest)

/-- Read a date with or without a time, or a time. -/
def datetime : Scanner Value := fun input =>
  let read :=
    match date input with
    | some ((), rest) => timeAfterDate rest
    | none => timeOfDay input
  read.map fun ((), rest) =>
    (.datetime (String.ofList (input.take (input.length - rest.length))), rest)

/-- Read a value that begins with a digit or a sign. -/
def numberOrDate : Scanner Value := fun input =>
  (datetime input).or ((ordinaryFloat input).or ((specialFloat input).or (integer input)))

/-- Read a word that stands for a value. -/
def word : Scanner Value := fun input =>
  match literally "true" input, literally "false" input with
  | some ((), rest), _ => some (.boolean true, rest)
  | _, some ((), rest) => some (.boolean false, rest)
  | _, _ => specialFloat input

end Toml
end TokenBroker
