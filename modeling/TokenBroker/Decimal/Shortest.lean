/-!
# Shortest decimals

A 64-bit float is written with as few significant digits as identify it: of all decimals that round
to the float, one with the fewest digits, and of those the nearest.

* `Decimal.Span.ofFinite` gives, in exact integers, the value of a float and the interval of reals
  that round to it.
* `Decimal.Span.shortest` looks at the two neighbours of the value on finer and finer decimal grids,
  up to 17 digits, and takes the first that lies in the interval.
* `Decimal.positional` writes it without an exponent and without needless zeros.
-/

set_option autoImplicit false

namespace TokenBroker
namespace Decimal

/-- A value and the bounds of the reals that round to it, as fractions of one denominator. -/
structure Span where
  low : Nat
  value : Nat
  high : Nat
  denominator : Nat
  /-- Whether the bounds themselves round to the value. -/
  closed : Bool

/-- The number of explicit bits of a significand. -/
def significandBits : Nat := 52

/-- The span of the finite float with these significand and exponent fields. -/
def Span.ofFields (fraction exponent : Nat) : Span :=
  let significand := if exponent = 0 then fraction else fraction + (1 <<< significandBits)
  -- the value is `4 * significand` units, a unit being `2 ^ (power - 1077)`
  let power := max exponent 1
  let lowerGap := if fraction = 0 && exponent > 1 then 1 else 2
  let scale := 1 <<< (power - 1077)
  { low := (4 * significand - lowerGap) * scale
    value := 4 * significand * scale
    high := (4 * significand + 2) * scale
    denominator := 1 <<< (1077 - power)
    closed := significand % 2 = 0 }

/-- The span of a finite float, its sign left out. -/
def Span.ofFinite (x : Float) : Span :=
  let bits := x.toBits.toNat
  Span.ofFields (bits % (1 <<< significandBits)) ((bits >>> significandBits) % (1 <<< 11))

/-- The power of ten that is not above a positive fraction, while the next one is. -/
def magnitude (numerator denominator : Nat) : Int :=
  if denominator ≤ numerator then (Nat.toDigits 10 (numerator / denominator)).length - 1
  else
    -(((List.range 330).find? fun k => denominator ≤ numerator * Nat.pow 10 k).getD 0 : Nat)

/-- A decimal, `digits * 10 ^ exponent`. -/
structure Digits where
  digits : Nat
  exponent : Int
  deriving DecidableEq

/-- A decimal as a fraction of `denominator`, both numbers scaled to be whole; `other` is scaled
along. -/
def Digits.compared (d : Digits) (denominator other : Nat) : Nat × Nat :=
  if d.exponent < 0 then (d.digits * denominator, other * Nat.pow 10 d.exponent.natAbs)
  else (d.digits * denominator * Nat.pow 10 d.exponent.toNat, other)

/-- Whether a decimal rounds to the value of a span. -/
def Span.holds (s : Span) (d : Digits) : Bool :=
  let (x, low) := d.compared s.denominator s.low
  let (_, high) := d.compared s.denominator s.high
  if s.closed then low ≤ x && x ≤ high else low < x && x < high

/-- How far a decimal is from the value of a span, in units that depend on its exponent only. -/
def Span.distance (s : Span) (d : Digits) : Nat :=
  let (x, value) := d.compared s.denominator s.value
  (x - value) + (value - x)

/-- The decimals next to the value on the grid of a power of ten: the one not above it, and the one
after that. -/
def Span.neighbours (s : Span) (exponent : Int) : Digits × Digits :=
  let below :=
    if exponent < 0 then s.value * Nat.pow 10 exponent.natAbs / s.denominator
    else s.value / (s.denominator * Nat.pow 10 exponent.toNat)
  (⟨below, exponent⟩, ⟨below + 1, exponent⟩)

/-- The nearest decimal on the grid of a power of ten that rounds to the value, if there is one.  Of
two that are equally near, the even one is taken. -/
def Span.onGrid? (s : Span) (exponent : Int) : Option Digits :=
  let (a, b) := s.neighbours exponent
  match s.holds a, s.holds b with
  | true, false => some a
  | false, true => some b
  | false, false => none
  | true, true =>
    if s.distance a < s.distance b then some a
    else if s.distance b < s.distance a then some b
    else if a.digits % 2 = 0 then some a else some b

/-- The shortest decimal that rounds to a positive value.  The first grid is the one above the
leading digit, because the value may round up to the next power of ten. -/
def Span.shortest (s : Span) : Digits :=
  let top := magnitude s.value s.denominator + 1
  ((List.range 18).findSome? fun (k : Nat) => s.onGrid? (top - k)).getD ⟨0, 0⟩

/-- A decimal without an exponent, and with a point only if something follows it. -/
def positional (d : Digits) : String :=
  let text := Nat.toDigits 10 d.digits
  if d.exponent ≥ 0 then
    String.ofList (text ++ List.replicate d.exponent.toNat '0')
  else
    let places := d.exponent.natAbs
    let padded := List.replicate (places + 1 - text.length) '0' ++ text
    let whole := padded.take (padded.length - places)
    String.ofList (whole ++ ['.'] ++ padded.drop (padded.length - places))

/-- The shortest text of a float that reads back as it. -/
def text (x : Float) : String :=
  let sign := if x.toBits.toNat ≥ 1 <<< 63 then "-" else ""
  if x.isNaN then "NaN"
  else if x.isInf then sign ++ "inf"
  else
    let s := Span.ofFinite x
    if s.value = 0 then sign ++ "0" else sign ++ positional s.shortest

end Decimal
end TokenBroker
