/-!
# Blank characters

The characters that the Unicode property `White_Space` holds of, and what is left of a text when
those at its two ends are taken away.
-/

set_option autoImplicit false

namespace TokenBroker
namespace Blank

/-- The code points with the property, as ranges with both ends included. -/
def ranges : List (Nat × Nat) :=
  [(0x09, 0x0d), (0x20, 0x20), (0x85, 0x85), (0xa0, 0xa0), (0x1680, 0x1680), (0x2000, 0x200a),
    (0x2028, 0x2029), (0x202f, 0x202f), (0x205f, 0x205f), (0x3000, 0x3000)]

/-- Whether a character is blank. -/
def isBlank (c : Char) : Bool :=
  ranges.any fun (first, last) => first ≤ c.toNat && c.toNat ≤ last

/-- Characters without the blank ones at both ends. -/
def trimChars (cs : List Char) : List Char :=
  ((cs.dropWhile isBlank).reverse.dropWhile isBlank).reverse

/-- A text without the blank characters at both ends. -/
def trim (text : String) : String := String.ofList (trimChars text.toList)

end Blank
end TokenBroker
